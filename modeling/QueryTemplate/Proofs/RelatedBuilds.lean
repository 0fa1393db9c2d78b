import Mathlib.Data.List.Forall2
import QueryTemplate.Proofs.Filling
import QueryTemplate.Proofs.PlainText

/-!
# Builds that are related

Two builds of one template may be given different arguments, or different escapers, and still have
much in common.  What they have in common is a relation between texts, and this module carries such
a relation through a build, whatever it is.

Outcomes are related if they are the same error or two related values (`SameOutcome`).  A relation
is a **congruence** (`IsCongruence`) if it holds of everything that conversions write by themselves
and is kept when texts are put together.  A congruence that holds of the literals and the names of
an argument (`Argument.literals`, `Argument.names`), as either escaper writes them, then holds of
what any conversion makes of the argument (`Specifier.convert_related`), of the segments of a
template, and of the whole query (`keptText_related`, `Template.fill_related`).
-/

namespace QueryTemplate

/-- Two outcomes that are the same error, or two values in a relation. -/
inductive SameOutcome {ε α β : Type} (P : α → β → Prop) : Except ε α → Except ε β → Prop where
  /-- The same error. -/
  | error (e : ε) : SameOutcome P (.error e) (.error e)
  /-- Related values. -/
  | ok {a : α} {b : β} (h : P a b) : SameOutcome P (.ok a) (.ok b)

namespace SameOutcome
variable {ε ε' α β α' β' : Type} {P : α → β → Prop} {P' : α' → β' → Prop}

/-- An outcome is related to itself if its value is, where it has one. -/
theorem refl {P : α → α → Prop} {x : Except ε α} (h : ∀ a, x = .ok a → P a a) :
    SameOutcome P x x := by
  cases x with
  | error e => exact .error e
  | ok a => exact .ok (h a rfl)

theorem bind {x : Except ε α} {y : Except ε β} {f : α → Except ε α'} {g : β → Except ε β'}
    (h : SameOutcome P x y) (hfg : ∀ a b, P a b → SameOutcome P' (f a) (g b)) :
    SameOutcome P' (x >>= f) (y >>= g) := by
  cases h with
  | error e => exact .error e
  | ok h => exact hfg _ _ h

/-- The first of several that fails decides about all, so related inputs decide alike. -/
theorem mapM {R : α → β → Prop} {f : α → Except ε α'} {g : β → Except ε β'}
    (hfg : ∀ a b, R a b → SameOutcome P' (f a) (g b)) {xs : List α} {ys : List β}
    (h : List.Forall₂ R xs ys) : SameOutcome (List.Forall₂ P') (xs.mapM f) (ys.mapM g) := by
  induction h with
  | nil => exact .ok .nil
  | cons hhead _ ih =>
    rw [List.mapM_cons, List.mapM_cons]
    exact (hfg _ _ hhead).bind fun _ _ hab => ih.bind fun _ _ hrest => .ok (.cons hab hrest)

theorem mapError {x : Except ε α} {y : Except ε β} (f : ε → ε') (h : SameOutcome P x y) :
    SameOutcome P (x.mapError f) (y.mapError f) := by
  cases h with
  | error e => exact .error (f e)
  | ok h => exact .ok h

theorem error_or_ok {x : Except ε α} {y : Except ε β} (h : SameOutcome P x y) :
    (∃ e, x = .error e ∧ y = .error e) ∨ ∃ a b, x = .ok a ∧ y = .ok b ∧ P a b := by
  cases h with
  | error e => exact .inl ⟨e, rfl, rfl⟩
  | ok h => exact .inr ⟨_, _, rfl, rfl, h⟩

end SameOutcome

section Rel
variable {α β α' β' : Type} {P : α → β → Prop} {x : Option α} {y : Option β}

theorem rel_imp {P' : α → β → Prop} (h : Option.Rel P x y) (himp : ∀ a b, P a b → P' a b) :
    Option.Rel P' x y := by
  cases h with
  | none => exact .none
  | some h => exact .some (himp _ _ h)

theorem rel_map {P' : α' → β' → Prop} {f : α → α'} {g : β → β'} (h : Option.Rel P x y)
    (hfg : ∀ a b, P a b → P' (f a) (g b)) : Option.Rel P' (x.map f) (y.map g) := by
  cases h with
  | none => exact .none
  | some h => exact .some (hfg _ _ h)

theorem eq_of_rel {P : α → α → Prop} {x y : Option α} (h : Option.Rel P x y)
    (heq : ∀ a b, x = some a → P a b → a = b) : x = y := by
  cases h with
  | none => rfl
  | some h => rw [heq _ _ rfl h]

end Rel

/-! ## What an argument is written with -/

namespace Argument

/-- The text that an argument is, if it is one. -/
def text? : Argument → Option Text
  | .text t => some t
  | _ => none

/-- The names that an argument is written with: the keys of a map, and column names. -/
def names : Specifier → Argument → List Text
  | .array, .map entries => entries.map Prod.fst
  | .column, .text t => [t]
  | .column, .list items => items.filterMap text?
  | .column, .map entries => entries.flatMap fun named => named.1 :: named.2.text?.toList
  | _, _ => []

/-- The texts that become literals when an argument is written. -/
def literals : Specifier → Argument → List Text
  | .escaped, .text t => [t]
  | .array, .text t => [t]
  | .array, .list items => items.filterMap text?
  | .array, .map entries => entries.filterMap fun named => named.2.text?
  | _, _ => []

theorem text?_eq_some_iff {arg : Argument} {t : Text} : arg.text? = some t ↔ arg = .text t := by
  constructor
  · intro h
    cases arg with
    | text t' => exact congrArg Argument.text (Option.some.inj h)
    | _ => cases h
  · rintro rfl
    rfl

end Argument

namespace Question

/-- The names that a question mark writes its argument with. -/
def names (q : Question) (arg : Argument) : List Text :=
  match q.demand with
  | .ok s => arg.names s
  | .error _ => []

/-- The texts that a question mark writes as literals. -/
def literals (q : Question) (arg : Argument) : List Text :=
  match q.demand with
  | .ok s => arg.literals s
  | .error _ => []

end Question

/-! ## Conversions -/

/-- **A relation between texts that conversions respect.**  It holds of whatever is written without
an escaper, and texts put together are related if their parts are. -/
structure IsCongruence (P : Text → Text → Prop) : Prop where
  nil : P [] []
  append {x x' y y' : Text} (h : P x y) (h' : P x' y') : P (x ++ x') (y ++ y')
  plain {t : Text} (h : Conversion.IsPlain t) : P t t
  separator : P Conversion.separator Conversion.separator
  equals : P Conversion.equals Conversion.equals

namespace Conversion
variable {P : Text → Text → Prop} {e e' : Escaper} {element element' : Argument → Converted}

theorem joined_related (hP : IsCongruence P) {parts parts' : List Text}
    (h : List.Forall₂ P parts parts') : P (joined parts) (joined parts') := by
  induction h with
  | nil => exact hP.nil
  | cons hhead hrest ih =>
    cases hrest with
    | nil => rwa [joined_singleton, joined_singleton]
    | cons hnext hlater =>
      rw [joined_cons_cons, joined_cons_cons]
      exact hP.append hhead (hP.append hP.separator ih)

theorem flatten_list_related (hP : IsCongruence P) {items items' : List Argument}
    (h : List.Forall₂ (fun a b => SameOutcome P (element a) (element' b)) items items') :
    SameOutcome P (flatten e element (.list items)) (flatten e' element' (.list items')) :=
  (SameOutcome.mapM (fun _ _ => id) h).bind fun _ _ hparts => .ok (joined_related hP hparts)

/-- Two entries whose names, as they are quoted, and whose values are related. -/
def RelatedEntries (P : Text → Text → Prop) (e e' : Escaper)
    (element element' : Argument → Converted) (x y : Text × Argument) : Prop :=
  P (e.quoteName x.1) (e'.quoteName y.1) ∧ SameOutcome P (element x.2) (element' y.2)

theorem entry_related (hP : IsCongruence P) {x y : Text × Argument}
    (h : RelatedEntries P e e' element element' x y) :
    SameOutcome P (entry e element x) (entry e' element' y) :=
  h.2.bind fun _ _ hvalue => .ok (hP.append (hP.append h.1 hP.equals) hvalue)

theorem flatten_map_related (hP : IsCongruence P) {entries entries' : List (Text × Argument)}
    (h : List.Forall₂ (RelatedEntries P e e' element element') entries entries') :
    SameOutcome P (flatten e element (.map entries)) (flatten e' element' (.map entries')) :=
  (SameOutcome.mapM (fun _ _ hentry => entry_related hP hentry) h).bind fun _ _ hparts =>
    .ok (joined_related hP hparts)

/-- Flattening one argument in two ways. -/
theorem flatten_related (hP : IsCongruence P) {arg : Argument}
    (hsingle : SameOutcome P (element arg) (element' arg))
    (hitems : ∀ items, arg = .list items → ∀ item ∈ items,
      SameOutcome P (element item) (element' item))
    (hentries : ∀ entries, arg = .map entries → ∀ named ∈ entries,
      RelatedEntries P e e' element element' named named) :
    SameOutcome P (flatten e element arg) (flatten e' element' arg) := by
  cases arg with
  | list items => exact flatten_list_related hP (List.forall₂_same.mpr (hitems items rfl))
  | map entries => exact flatten_map_related hP (List.forall₂_same.mpr (hentries entries rfl))
  | _ => exact hsingle

theorem escaped_related (hP : IsCongruence P) {arg : Argument}
    (h : ∀ t, arg.text? = some t → P (e.literal t) (e'.literal t)) :
    SameOutcome P (escaped e arg) (escaped e' arg) := by
  cases htext : arg.text? with
  | some t =>
    cases Argument.text?_eq_some_iff.mp htext
    exact .ok (h t htext)
  | none =>
    have hsame : escaped e' arg = escaped e arg := by
      cases arg with
      | text t => cases htext
      | _ => rfl
    rw [hsame]
    refine .refl fun out hout => ?_
    rcases isPlain_or_literal_of_escaped_eq_ok hout with hplain | ⟨t, rfl, -⟩
    · exact hP.plain hplain
    · cases htext

theorem column_related {arg : Argument}
    (h : ∀ t, arg.text? = some t → P (e.quoteName t) (e'.quoteName t)) :
    SameOutcome P (column e arg) (column e' arg) := by
  cases arg with
  | text t => exact .ok (h t rfl)
  | _ => exact .error _

end Conversion

section Convert
variable {P : Text → Text → Prop} {e e' : Escaper}

/-- **Conversions respect congruences.**  What an argument becomes is related if its literals and
its names are, as either escaper writes them. -/
theorem Specifier.convert_related (hP : IsCongruence P) {s : Specifier} {arg : Argument}
    (hliterals : ∀ t ∈ arg.literals s, P (e.literal t) (e'.literal t))
    (hnames : ∀ name ∈ arg.names s, P (e.quoteName name) (e'.quoteName name)) :
    SameOutcome P (s.convert e arg) (s.convert e' arg) := by
  cases s with
  | int => exact .refl fun out hout => hP.plain (Conversion.isPlain_of_int_eq_ok hout)
  | float => exact .refl fun out hout => hP.plain (Conversion.isPlain_of_float_eq_ok hout)
  | escaped =>
    refine Conversion.escaped_related hP fun t ht => ?_
    cases Argument.text?_eq_some_iff.mp ht
    exact hliterals t (List.mem_singleton_self t)
  | array =>
    refine Conversion.flatten_related hP ?single ?items ?entries
    case single =>
      refine Conversion.escaped_related hP fun t ht => ?_
      cases Argument.text?_eq_some_iff.mp ht
      exact hliterals t (List.mem_singleton_self t)
    case items =>
      rintro items rfl item hitem
      refine Conversion.escaped_related hP fun t ht => ?_
      exact hliterals t (List.mem_filterMap.mpr ⟨item, hitem, ht⟩)
    case entries =>
      rintro entries rfl named hnamed
      refine ⟨hnames named.1 (List.mem_map_of_mem hnamed), ?_⟩
      refine Conversion.escaped_related hP fun t ht => ?_
      exact hliterals t (List.mem_filterMap.mpr ⟨named, hnamed, ht⟩)
  | column =>
    refine Conversion.flatten_related hP ?single ?items ?entries
    case single =>
      refine Conversion.column_related fun t ht => ?_
      cases Argument.text?_eq_some_iff.mp ht
      exact hnames t (List.mem_singleton_self t)
    case items =>
      rintro items rfl item hitem
      refine Conversion.column_related fun t ht => ?_
      exact hnames t (List.mem_filterMap.mpr ⟨item, hitem, ht⟩)
    case entries =>
      rintro entries rfl named hnamed
      have hname : ∀ name ∈ named.1 :: named.2.text?.toList,
          P (e.quoteName name) (e'.quoteName name) := fun name hname =>
        hnames name (List.mem_flatMap.mpr ⟨named, hnamed, hname⟩)
      refine ⟨hname named.1 (List.mem_cons_self ..), ?_⟩
      refine Conversion.column_related fun t ht => ?_
      exact hname t (List.mem_cons_of_mem _ (Option.mem_toList.mpr ht))

end Convert

/-! ## Replies -/

/-- Replies that are the same halt or related, or are both missing. -/
abbrev RelatedReplies (P : Text → Text → Prop) : Option Converted → Option Converted → Prop :=
  Option.Rel (SameOutcome P)

section Replies
variable {P : Text → Text → Prop} {e e' : Escaper}

theorem RelatedReplies.halt?_eq {reply reply' : Option Converted}
    (h : RelatedReplies P reply reply') :
    reply.map Converted.halt? = reply'.map Converted.halt? := by
  cases h with
  | none => rfl
  | some h => cases h <;> rfl

/-- One list of arguments gives related replies where what it is written with is related. -/
theorem replies_related (hP : IsCongruence P) {args : List Argument} {position : Nat}
    {q : Question} {s : Specifier} (hs : q.demand = .ok s)
    (hliterals : ∀ arg, args[position]? = some arg →
      ∀ t ∈ q.literals arg, P (e.literal t) (e'.literal t))
    (hnames : ∀ arg, args[position]? = some arg →
      ∀ name ∈ q.names arg, P (e.quoteName name) (e'.quoteName name)) :
    RelatedReplies P (replies e args position s) (replies e' args position s) := by
  rw [replies, replies]
  cases harg : args[position]? with
  | none => exact .none
  | some arg =>
    simp only [Question.literals, Question.names, hs] at hliterals hnames
    exact .some (Specifier.convert_related hP (hliterals arg harg) (hnames arg harg))

end Replies

/-! ## Segments -/

section Segments
variable {P : Text → Text → Prop} {r r' : Replies} {position : Nat}

/-- **The tokens of a segment become related texts**, or in neither case a text. -/
theorem Token.filled?_related (hP : IsCongruence P) {tokens : List Token}
    (hchars : ∀ c, Token.literal c ∈ tokens → P [c] [c])
    (hreplies : ∀ i s, (demands tokens)[i]? = some (.ok s) →
      RelatedReplies P (r (position + i) s) (r' (position + i) s)) :
    Option.Rel P (filled? r position tokens) (filled? r' position tokens) := by
  induction tokens generalizing position with
  | nil => exact .some hP.nil
  | cons token rest ih =>
    have hrest : ∀ c, Token.literal c ∈ rest → P [c] [c] :=
      fun c hc => hchars c (List.mem_cons_of_mem _ hc)
    cases token with
    | unknown next => exact .none
    | literal c =>
      have hc : P [c] [c] := hchars c (List.mem_cons_self ..)
      exact rel_map (ih hrest hreplies) fun x y h => hP.append hc h
    | hole s =>
      have hreply := hreplies 0 s rfl
      have hlater := @ih (position + 1) hrest fun i s' hs => by
        have := hreplies (i + 1) s' hs
        rwa [← Nat.add_assoc, Nat.add_right_comm] at this
      rw [filled?, filled?]
      rw [Nat.add_zero] at hreply
      generalize r position s = reply at hreply
      generalize r' position s = reply' at hreply
      cases hreply with
      | none => exact .none
      | some houtcome =>
        cases houtcome with
        | error halt => exact .none
        | ok htext => exact rel_map hlater fun x y h => hP.append htext h

/-- **A segment becomes related texts**, or in neither case a text. -/
theorem Segment.filling_related (hP : IsCongruence P) {s : Segment}
    (hchars : ∀ c, Token.literal c ∈ s.tokens → P [c] [c])
    (hreplies : ∀ i q c, s.questions[i]? = some q → q.demand = .ok c →
      RelatedReplies P (r (position + i) c) (r' (position + i) c)) :
    Option.Rel P (Token.filled? r position s.tokens) (Token.filled? r' position s.tokens) := by
  refine Token.filled?_related hP hchars fun i c hc => ?_
  obtain ⟨q, hq, hdemand⟩ := exists_question_of_demand hc
  exact hreplies i q c hq hdemand

/-- What holds of each segment, read at the position of its first question mark, holds of all. -/
theorem Segment.forall₂_fillings {R : Option Text → Option Text → Prop} {segments : List Segment}
    (h : ∀ before s later, segments = before ++ s :: later →
      R (Token.filled? r (position + (Question.ofSegments before).length) s.tokens)
        (Token.filled? r' (position + (Question.ofSegments before).length) s.tokens)) :
    List.Forall₂ R (fillings r position segments) (fillings r' position segments) := by
  induction segments generalizing position with
  | nil => exact .nil
  | cons s later ih =>
    refine .cons (h [] s later rfl) (ih fun before s' after hsplit => ?_)
    have := h (s :: before) s' after (by rw [hsplit, List.cons_append])
    rwa [Question.ofSegments_cons, List.length_append, ← Nat.add_assoc] at this

theorem keptText_related (hP : IsCongruence P) {filled filled' : List (Option Text)}
    (h : List.Forall₂ (Option.Rel P) filled filled') : P (keptText filled) (keptText filled') := by
  induction h with
  | nil => exact hP.nil
  | cons hhead _ ih =>
    cases hhead with
    | none => exact ih
    | some htext => exact hP.append htext ih

end Segments

/-- **Fillings of a template are related** if they complain alike and keep related texts. -/
theorem Template.fill_related {P : Text → Text → Prop} (t : Template) (policy : SkipPolicy)
    {e e' : Escaper} {args args' : List Argument} (hlength : args.length = args'.length)
    (hhalts : ∀ i q s, (Question.ofSegments t.segments)[i]? = some q → q.demand = .ok s →
      (replies e args i s).map Converted.halt? = (replies e' args' i s).map Converted.halt?)
    (htexts : P (keptText (Segment.fillings (replies e args) 0 t.segments))
      (keptText (Segment.fillings (replies e' args') 0 t.segments))) :
    SameOutcome P (t.fill e policy args) (t.fill e' policy args') := by
  have hfirst : Question.firstComplaint? policy (replies e args) 0
        (Question.ofSegments t.segments) =
      Question.firstComplaint? policy (replies e' args') 0 (Question.ofSegments t.segments) := by
    refine Question.firstComplaint?_congr fun i q s hq hs => ?_
    rw [Nat.zero_add]
    exact hhalts i q s hq hs
  rw [fill_eq, fill_eq, hfirst, hlength]
  cases Question.firstComplaint? policy (replies e' args') 0 (Question.ofSegments t.segments) with
  | some cause => exact .error cause
  | none =>
    rw [Option.elim_none, Option.elim_none]
    split
    · exact .ok htexts
    · exact .error _

end QueryTemplate
