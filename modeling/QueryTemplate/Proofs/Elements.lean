import QueryTemplate.Proofs.Traversals
import QueryTemplate.Template.Filling

/-!
# What becomes of an argument

Four conversions write a single value (`Specifier.single`).  Each of them halts with a skip for the
skip alone, and refuses an argument because of its kind exactly where it cannot hold a value of that
kind at all (`Conversion.IsSingle`): lists and maps in most places, and whatever is no text where a
column name is wanted.

Two of the five specifiers also take several values.  What they go through are the **elements** of
the argument, the items of a list or the values of a map, each with what is written in front of it
(`Argument.elements?`).  The first element that gives no text decides the outcome, and what is
behind it does not matter; if all of them give text, the texts are joined in order
(`Conversion.IsJoined`).  Elements are single values, so a list inside of a list is never written.
-/

namespace QueryTemplate

namespace Argument

/-- The kinds of argument that hold several values. -/
def Kind.IsSeveral (kind : Kind) : Prop :=
  kind = .list ∨ kind = .map

/-- **The elements of an argument**: the items of a list, or the values of a map behind their names
as they are quoted.  A single value has none. -/
def elements? (e : Escaper) : Argument → Option (List (Text × Argument))
  | .list items => some (items.map fun item => ([], item))
  | .map entries =>
    some (entries.map fun named => (e.quoteName named.1 ++ [' ', '=', ' '], named.2))
  | _ => none

theorem elements?_eq_none_iff {e : Escaper} {arg : Argument} :
    arg.elements? e = none ↔ ¬ arg.kind.IsSeveral := by
  cases arg with
  | list items => exact iff_of_false nofun (fun h => h (.inl rfl))
  | map entries => exact iff_of_false nofun (fun h => h (.inr rfl))
  | _ => exact iff_of_true rfl (by rintro (h | h) <;> cases h)

end Argument

/-- The conversion of a single value, or of an element, that a specifier selects. -/
def Specifier.single (e : Escaper) : Specifier → Argument → Converted
  | .int => Conversion.int
  | .float => Conversion.float
  | .escaped | .array => Conversion.escaped e
  | .column => Conversion.column e

namespace Conversion
variable {e : Escaper}

/-! ## Single values -/

/-- **A conversion of single values** that refuses some kinds of argument. -/
structure IsSingle (single : Argument → Converted) (Refused : Argument.Kind → Prop) : Prop where
  /-- It halts with a skip for the skip alone. -/
  skip_iff : ∀ arg, single arg = .error .skip ↔ arg = .skip
  /-- It refuses an argument because of its kind for these kinds alone, and names the kind. -/
  wrongKind_iff : ∀ arg kind, single arg = .error (.fault (.wrongKind kind)) ↔
    kind = arg.kind ∧ Refused kind

/-- **What a conversion of values may come to**: a skip stays a skip, several values are refused,
and a value is written unless it is no number of the kind demanded. -/
inductive ValueOutcome : Argument → Converted → Prop
  /-- The skip. -/
  | skip : ValueOutcome .skip (.error .skip)
  /-- A list or a map. -/
  | several {arg : Argument} (h : arg.kind.IsSeveral) : ValueOutcome arg (wrongKind arg)
  /-- A value that is written. -/
  | written {arg : Argument} {t : Text} (hskip : arg ≠ .skip) (h : ¬ arg.kind.IsSeveral) :
    ValueOutcome arg (.ok t)
  /-- A value that is no number of the kind demanded. -/
  | notNumeric {arg : Argument} {target : NumericKind} {value : Text} (hskip : arg ≠ .skip)
    (h : ¬ arg.kind.IsSeveral) : ValueOutcome arg (notNumeric target value)

theorem ValueOutcome.isSingle {single : Argument → Converted}
    (h : ∀ arg, ValueOutcome arg (single arg)) : IsSingle single Argument.Kind.IsSeveral := by
  constructor
  · intro arg
    have houtcome := h arg
    generalize single arg = outcome at houtcome
    cases houtcome with
    | skip => exact iff_of_true rfl rfl
    | several hseveral =>
      refine iff_of_false nofun ?_
      rintro rfl
      rcases hseveral with hkind | hkind <;> cases hkind
    | written hskip => exact iff_of_false nofun hskip
    | notNumeric hskip => exact iff_of_false nofun hskip
  · intro arg kind
    have houtcome := h arg
    generalize single arg = outcome at houtcome
    cases houtcome with
    | skip =>
      refine iff_of_false nofun ?_
      rintro ⟨rfl, hkind | hkind⟩ <;> cases hkind
    | several hseveral =>
      constructor
      · rintro ⟨⟩
        exact ⟨rfl, hseveral⟩
      · rintro ⟨rfl, -⟩
        rfl
    | written hskip hvalue => exact iff_of_false nofun fun ⟨hsame, hkind⟩ => hvalue (hsame ▸ hkind)
    | notNumeric hskip hvalue =>
      exact iff_of_false nofun fun ⟨hsame, hkind⟩ => hvalue (hsame ▸ hkind)

theorem valueOutcome_floatLiteral {arg : Argument} {x : Binary64} (hskip : arg ≠ .skip)
    (h : ¬ arg.kind.IsSeveral) : ValueOutcome arg (floatLiteral x) := by
  cases x with
  | finite x => exact .written hskip h
  | infinite negative => exact .notNumeric hskip h
  | nan => exact .notNumeric hskip h

theorem isSingle_int : IsSingle int Argument.Kind.IsSeveral := by
  refine ValueOutcome.isSingle fun arg => ?_
  cases arg with
  | skip => exact .skip
  | list items => exact .several (.inl rfl)
  | map entries => exact .several (.inr rfl)
  | null => exact .written nofun nofun
  | bool b => exact .written nofun nofun
  | int i => exact .written nofun nofun
  | float x =>
    rw [int]
    split
    · exact .written nofun nofun
    · exact .notNumeric nofun nofun
  | text t =>
    rw [int]
    split
    · exact .written nofun nofun
    · exact .notNumeric nofun nofun

theorem isSingle_float : IsSingle float Argument.Kind.IsSeveral := by
  refine ValueOutcome.isSingle fun arg => ?_
  cases arg with
  | skip => exact .skip
  | list items => exact .several (.inl rfl)
  | map entries => exact .several (.inr rfl)
  | null => exact .written nofun nofun
  | bool b => exact valueOutcome_floatLiteral nofun nofun
  | int i => exact valueOutcome_floatLiteral nofun nofun
  | float x => exact valueOutcome_floatLiteral nofun nofun
  | text t =>
    rw [float]
    split
    · exact valueOutcome_floatLiteral nofun nofun
    · exact .notNumeric nofun nofun

theorem isSingle_escaped (e : Escaper) : IsSingle (escaped e) Argument.Kind.IsSeveral := by
  refine ValueOutcome.isSingle fun arg => ?_
  cases arg with
  | skip => exact .skip
  | list items => exact .several (.inl rfl)
  | map entries => exact .several (.inr rfl)
  | float x => exact valueOutcome_floatLiteral nofun nofun
  | _ => exact .written nofun nofun

/-- A column name is a text, and no other argument is. -/
theorem isSingle_column (e : Escaper) :
    IsSingle (column e) fun kind => kind ≠ .text ∧ kind ≠ .skip := by
  constructor
  · intro arg
    cases arg with
    | skip => exact iff_of_true rfl rfl
    | _ => exact iff_of_false nofun nofun
  · intro arg kind
    cases arg with
    | skip => exact iff_of_false nofun (fun ⟨hsame, h⟩ => h.2 hsame)
    | text t => exact iff_of_false nofun (fun ⟨hsame, h⟩ => h.1 hsame)
    | _ =>
      constructor
      · rintro ⟨⟩
        exact ⟨rfl, nofun, nofun⟩
      · rintro ⟨rfl, -⟩
        rfl

theorem column_eq_ok_iff {arg : Argument} {out : Text} :
    column e arg = .ok out ↔ ∃ name, arg = .text name ∧ out = e.quoteName name := by
  cases arg with
  | text name =>
    constructor
    · rintro ⟨⟩
      exact ⟨name, rfl, rfl⟩
    · rintro ⟨_, ⟨⟩, rfl⟩
      rfl
  | _ => exact iff_of_false nofun (fun ⟨_, h, _⟩ => by cases h)

/-! ## Several values -/

/-- The text of an element, behind what is written in front of it. -/
def labelled (element : Argument → Converted) (part : Text × Argument) : Converted :=
  (element part.2).map (part.1 ++ ·)

theorem labelled_eq_ok_iff {element : Argument → Converted} {part : Text × Argument} {out : Text} :
    labelled element part = .ok out ↔ ∃ t, element part.2 = .ok t ∧ out = part.1 ++ t := by
  rw [labelled]
  cases element part.2 with
  | error halt => exact iff_of_false nofun (fun ⟨_, h, _⟩ => by cases h)
  | ok t =>
    constructor
    · rintro ⟨⟩
      exact ⟨t, rfl, rfl⟩
    · rintro ⟨_, ⟨⟩, rfl⟩
      rfl

theorem labelled_eq_error_iff {element : Argument → Converted} {part : Text × Argument}
    {halt : Halt} : labelled element part = .error halt ↔ element part.2 = .error halt := by
  rw [labelled]
  cases element part.2 with
  | error halt' => exact ⟨fun h => by cases h; rfl, fun h => by cases h; rfl⟩
  | ok t => exact iff_of_false nofun nofun

variable {element : Argument → Converted} {arg : Argument} {parts : List (Text × Argument)}

/-- **Converting several values** is going through the elements. -/
theorem flatten_of_elements?_eq_some (h : arg.elements? e = some parts) :
    flatten e element arg = (parts.mapM (labelled element)).map joined := by
  cases arg with
  | list items =>
    cases h
    have hstep : labelled element ∘ (fun item => (([] : Text), item)) = element := by
      funext item
      rw [Function.comp_apply, labelled]
      cases element item <;> rfl
    rw [List.mapM_map, hstep, flatten]
    cases items.mapM element <;> rfl
  | map entries =>
    cases h
    have hstep : labelled element ∘ (fun named : Text × Argument =>
        (e.quoteName named.1 ++ [' ', '=', ' '], named.2)) = entry e element := by
      funext named
      rw [Function.comp_apply, labelled, entry]
      cases element named.2 <;> rfl
    rw [List.mapM_map, hstep, flatten]
    cases entries.mapM (entry e element) <;> rfl
  | _ => cases h

theorem flatten_of_elements?_eq_none (h : arg.elements? e = none) :
    flatten e element arg = element arg := by
  cases arg with
  | list items => cases h
  | map entries => cases h
  | _ => rfl

/-- **The outcome for several values**, by those of the elements. -/
structure IsJoined (element : Argument → Converted) (parts : List (Text × Argument))
    (outcome : Converted) : Prop where
  /-- The first element that gives no text decides. -/
  halts_iff : ∀ halt, outcome = .error halt ↔ ∃ before part after, parts = before ++ part :: after ∧
    (∀ earlier ∈ before, ∃ t, element earlier.2 = .ok t) ∧ element part.2 = .error halt
  /-- If all of them give text, the texts are joined in order, with commas between them. -/
  written_iff : ∀ out, outcome = .ok out ↔ ∃ texts,
    parts.map (fun part => element part.2) = texts.map .ok ∧
      out = [',', ' '].intercalate (List.zipWith (fun part t => part.1 ++ t) parts texts)

theorem labelled_map_eq_iff {written : List Text} :
    parts.map (labelled element) = written.map .ok ↔ ∃ texts,
      parts.map (fun part => element part.2) = texts.map .ok ∧
        written = List.zipWith (fun part t => part.1 ++ t) parts texts := by
  induction parts generalizing written with
  | nil =>
    constructor
    · intro h
      rw [List.map_nil] at h
      exact ⟨[], rfl, List.map_eq_nil_iff.mp h.symm⟩
    · rintro ⟨texts, -, rfl⟩
      rfl
  | cons part rest ih =>
    constructor
    · intro h
      cases written with
      | nil => cases h
      | cons out later =>
        obtain ⟨hpart, hrest⟩ := List.cons_eq_cons.mp h
        obtain ⟨t, ht, rfl⟩ := labelled_eq_ok_iff.mp hpart
        obtain ⟨texts, htexts, rfl⟩ := ih.mp hrest
        exact ⟨t :: texts, by rw [List.map_cons, List.map_cons, ht, htexts], rfl⟩
    · rintro ⟨texts, htexts, rfl⟩
      cases texts with
      | nil => cases htexts
      | cons t texts =>
        obtain ⟨hpart, hrest⟩ := List.cons_eq_cons.mp htexts
        rw [List.map_cons, List.zipWith_cons_cons, List.map_cons,
          labelled_eq_ok_iff.mpr ⟨t, hpart, rfl⟩, ih.mpr ⟨texts, hrest, rfl⟩]

/-- **Several values are joined**, unless one of them halts. -/
theorem isJoined_flatten (h : arg.elements? e = some parts) :
    IsJoined element parts (flatten e element arg) := by
  rw [flatten_of_elements?_eq_some h]
  constructor
  · intro halt
    have hmap : (parts.mapM (labelled element)).map joined = .error halt ↔
        parts.mapM (labelled element) = .error halt := by
      cases parts.mapM (labelled element) with
      | error halt' => exact ⟨fun h => by cases h; rfl, fun h => by cases h; rfl⟩
      | ok texts => exact iff_of_false nofun nofun
    rw [hmap, mapM_eq_error_iff]
    refine exists₃_congr fun before part after => ?_
    have hbefore : ∀ earlier, (∃ t, labelled element earlier = .ok t) ↔
        ∃ t, element earlier.2 = .ok t := by
      intro earlier
      constructor
      · rintro ⟨out, hout⟩
        obtain ⟨t, ht, -⟩ := labelled_eq_ok_iff.mp hout
        exact ⟨t, ht⟩
      · rintro ⟨t, ht⟩
        exact ⟨_, labelled_eq_ok_iff.mpr ⟨t, ht, rfl⟩⟩
    simp only [hbefore, labelled_eq_error_iff]
  · intro out
    constructor
    · intro hout
      cases hwritten : parts.mapM (labelled element) with
      | error halt =>
        rw [hwritten] at hout
        cases hout
      | ok written =>
        rw [hwritten] at hout
        cases hout
        obtain ⟨texts, htexts, rfl⟩ := labelled_map_eq_iff.mp (mapM_eq_ok_iff.mp hwritten)
        exact ⟨texts, htexts, rfl⟩
    · rintro ⟨texts, htexts, rfl⟩
      rw [mapM_eq_ok_iff.mpr (labelled_map_eq_iff.mpr ⟨texts, htexts, rfl⟩)]
      rfl

end Conversion

namespace Specifier
variable {e : Escaper} {arg : Argument}

theorem single_eq_skip_iff (s : Specifier) : s.single e arg = .error .skip ↔ arg = .skip := by
  cases s with
  | int => exact Conversion.isSingle_int.skip_iff arg
  | float => exact Conversion.isSingle_float.skip_iff arg
  | escaped | array => exact (Conversion.isSingle_escaped e).skip_iff arg
  | column => exact (Conversion.isSingle_column e).skip_iff arg

/-- What is refused because of its kind is named by its own kind. -/
theorem eq_kind_of_single {s : Specifier} {kind : Argument.Kind}
    (h : s.single e arg = .error (.fault (.wrongKind kind))) : kind = arg.kind := by
  cases s with
  | int => exact ((Conversion.isSingle_int.wrongKind_iff arg kind).mp h).1
  | float => exact ((Conversion.isSingle_float.wrongKind_iff arg kind).mp h).1
  | escaped | array => exact (((Conversion.isSingle_escaped e).wrongKind_iff arg kind).mp h).1
  | column => exact (((Conversion.isSingle_column e).wrongKind_iff arg kind).mp h).1

/-- Several values are no single value. -/
theorem single_of_isSeveral (s : Specifier) (h : arg.kind.IsSeveral) :
    s.single e arg = .error (.fault (.wrongKind arg.kind)) := by
  cases s with
  | int => exact (Conversion.isSingle_int.wrongKind_iff arg _).mpr ⟨rfl, h⟩
  | float => exact (Conversion.isSingle_float.wrongKind_iff arg _).mpr ⟨rfl, h⟩
  | escaped | array => exact ((Conversion.isSingle_escaped e).wrongKind_iff arg _).mpr ⟨rfl, h⟩
  | column =>
    refine ((Conversion.isSingle_column e).wrongKind_iff arg _).mpr ⟨rfl, ?_⟩
    rcases h with h | h <;> rw [h] <;> decide

/-- An element that holds several values itself is never written. -/
theorem convert_ne_ok_of_mem {parts : List (Text × Argument)} (h : arg.elements? e = some parts)
    {part : Text × Argument} (hmem : part ∈ parts) (hseveral : part.2.kind.IsSeveral)
    (s : Specifier) (out : Text) : s.convert e arg ≠ .ok out := by
  have harg : arg.kind.IsSeveral := by
    by_cases hkind : arg.kind.IsSeveral
    · exact hkind
    · rw [Argument.elements?_eq_none_iff.mpr hkind] at h
      cases h
  have hjoined : ∀ s : Specifier, Conversion.flatten e (s.single e) arg ≠ .ok out := by
    intro s hout
    obtain ⟨texts, htexts, -⟩ := ((Conversion.isJoined_flatten h).written_iff out).mp hout
    have hpart : s.single e part.2 ∈ texts.map Except.ok :=
      htexts ▸ List.mem_map_of_mem (f := fun part => s.single e part.2) hmem
    obtain ⟨t, -, ht⟩ := List.mem_map.mp hpart
    rw [single_of_isSeveral s hseveral] at ht
    cases ht
  have hsingle : ∀ s : Specifier, s.single e arg ≠ .ok out := by
    intro s hout
    rw [single_of_isSeveral s harg] at hout
    cases hout
  cases s with
  | int => exact hsingle .int
  | float => exact hsingle .float
  | escaped => exact hsingle .escaped
  | array => exact hjoined .array
  | column => exact hjoined .column

/-- **What each specifier makes of each argument.**  Where a single value is wanted, an argument
halts with a skip if it is one, and is refused because of its kind if it is a list or a map.  Where
several values are taken, a single one becomes what it is by itself.  Otherwise the first element
that gives no text decides the outcome, and if all of them give text, the texts are joined in order,
those of a map behind their names.  An element halts with a skip if it is one, and what is refused
because of its kind is named by its own kind; a list or a map in another one is never written, and a
column name is a text.  Whatever is wrong with an argument is reported with the number of the
placeholder. -/
theorem convert_by_elements (e : Escaper) (arg : Argument) :
    (∀ s : Specifier, s = .int ∨ s = .float ∨ s = .escaped →
      (s.convert e arg = .error .skip ↔ arg = .skip) ∧
      ∀ kind, s.convert e arg = .error (.fault (.wrongKind kind)) ↔
        kind = arg.kind ∧ kind.IsSeveral) ∧
    (∀ s : Specifier, s = .array ∨ s = .column →
      (¬ arg.kind.IsSeveral → s.convert e arg = s.single e arg) ∧
      (arg.kind.IsSeveral → ∃ parts, arg.elements? e = some parts ∧
        Conversion.IsJoined (s.single e) parts (s.convert e arg))) ∧
    (∀ (s : Specifier) element, (s.single e element = .error .skip ↔ element = .skip) ∧
      ∀ kind, s.single e element = .error (.fault (.wrongKind kind)) → kind = element.kind) ∧
    (∀ parts, arg.elements? e = some parts → ∀ part ∈ parts, part.2.kind.IsSeveral →
      ∀ (s : Specifier) out, s.convert e arg ≠ .ok out) ∧
    (∀ out, Conversion.column e arg = .ok out ↔ ∃ name, arg = .text name ∧ out = e.quoteName name) ∧
    ∀ (s : Specifier) f, s.convert e arg = .error (.fault f) →
      ∀ strict rest supply unread, supply.unread = arg :: unread →
        fillTokens e strict (.hole s :: rest) supply =
          .error (.badArgument supply.nextIndex f) := by
  refine ⟨?_, ?_, fun s element => ⟨s.single_eq_skip_iff, fun kind => eq_kind_of_single⟩,
    fun parts h part hmem hseveral s out => convert_ne_ok_of_mem h hmem hseveral s out,
    fun out => Conversion.column_eq_ok_iff,
    fun s f hfault strict rest supply unread hunread =>
      fillTokens_hole_of_fault hunread hfault strict rest⟩
  · rintro s (rfl | rfl | rfl)
    · exact ⟨Conversion.isSingle_int.skip_iff arg, Conversion.isSingle_int.wrongKind_iff arg⟩
    · exact ⟨Conversion.isSingle_float.skip_iff arg, Conversion.isSingle_float.wrongKind_iff arg⟩
    · exact ⟨(Conversion.isSingle_escaped e).skip_iff arg,
        (Conversion.isSingle_escaped e).wrongKind_iff arg⟩
  · have hflatten : ∀ s : Specifier,
        (¬ arg.kind.IsSeveral → Conversion.flatten e (s.single e) arg = s.single e arg) ∧
        (arg.kind.IsSeveral → ∃ parts, arg.elements? e = some parts ∧
          Conversion.IsJoined (s.single e) parts (Conversion.flatten e (s.single e) arg)) := by
      intro s
      refine ⟨fun h => Conversion.flatten_of_elements?_eq_none
        (Argument.elements?_eq_none_iff.mpr h), fun h => ?_⟩
      obtain ⟨parts, hparts⟩ := Option.ne_none_iff_exists'.mp
        (mt Argument.elements?_eq_none_iff.mp (not_not_intro h))
      exact ⟨parts, hparts, Conversion.isJoined_flatten hparts⟩
    rintro s (rfl | rfl)
    · exact hflatten .array
    · exact hflatten .column

/-- A list in a list is refused before the skip behind it is seen, and reported with the number of
the placeholder; the names of a map stand before its values. -/
theorem convert_nested_and_named :
    let nested : Argument := .list [.text ['a'], .list [], .skip]
    let named : Argument := .map [(['k'], .text ['c']), (['k'], .text ['d'])]
    let e := Dialect.postgres.escaper
    Specifier.array.convert e nested = .error (.fault (.wrongKind .list)) ∧
      fillTokens e false [.hole .array] ⟨1, [nested]⟩ =
        .error (.badArgument 2 (.wrongKind .list)) ∧
      Specifier.column.convert e named = .ok "\"k\" = \"c\", \"k\" = \"d\"".toList := by
  intro nested named e
  obtain ⟨parts, hparts, hnested⟩ :=
    ((convert_by_elements e nested).2.1 .array (.inl rfl)).2 (.inl rfl)
  have hfault : Specifier.array.convert e nested = .error (.fault (.wrongKind .list)) := by
    cases hparts
    refine (hnested.halts_iff _).mpr
      ⟨[([], .text ['a'])], ([], .list []), [([], .skip)], rfl, ?_, rfl⟩
    exact List.forall_mem_singleton.mpr ⟨_, rfl⟩
  refine ⟨hfault, ?_, ?_⟩
  · exact (convert_by_elements e nested).2.2.2.2.2 _ _ hfault false [] ⟨1, [nested]⟩ [] rfl
  · obtain ⟨parts, hparts, hnamed⟩ :=
      ((convert_by_elements e named).2.1 .column (.inr rfl)).2 (.inr rfl)
    cases hparts
    exact (hnamed.written_iff _).mpr ⟨["\"c\"".toList, "\"d\"".toList], rfl, rfl⟩

end Specifier

end QueryTemplate
