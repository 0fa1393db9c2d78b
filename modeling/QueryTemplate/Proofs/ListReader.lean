import Mathlib.Data.List.Forall2
import QueryTemplate.Proofs.LiteralReader
import QueryTemplate.Proofs.NumeralReader

/-!
# Reading lists back

A list is written as SQL values with commas between them, and a map as names with values.  Commas,
quotes and equals signs also occur inside string literals, so the text cannot be cut at them.  The
reader here is the one that SQL has: it reads a value, which tells it where the value ends, and then
looks for a comma (`readJoined?`).  A value is the word for the absent value, a number with or
without a point, or a literal of the dialect (`Dialect.readValue?`).

A part of a list is written well if it reads back in front of a comma and at the end of the text
(`ReadsBack`); then the whole list does (`readJoined?_joined`).  Numbers and literals are written
well, and so are entries (`Dialect.escaped_readsBack`, `Dialect.entry_readsBack`), so nothing that
stands in an item can change how many items there are, nor their order or types
(`Dialect.flatten_escaped_readsBack`).
-/

namespace QueryTemplate

/-! ## Values -/

/-- A value as SQL has it.  There are no truth values; they are written as numbers. -/
inductive SqlValue where
  /-- The absent value. -/
  | null
  /-- A number without a point. -/
  | int (i : Int)
  /-- A number with a point. -/
  | float (x : Binary64.Finite)
  /-- A text. -/
  | text (t : Text)
  deriving DecidableEq

/-- The value that an argument stands for, if it stands for a single one that can be written. -/
def Argument.sqlValue? : Argument → Option SqlValue
  | .null => some .null
  | .bool b => some (.int (Conversion.truthNumber b))
  | .int i => some (.int i.toInt)
  | .float x => x.finite?.map .float
  | .text t => some (.text t)
  | .list _ | .map _ | .skip => none

/-! ## The reader -/

/-- The value that an unquoted word stands for. -/
def SqlValue.ofWord? (word : Text) : Option SqlValue :=
  if word = Conversion.nullText then some .null
  else if '.' ∈ word then (Decimal.readFinite? word).map .float
  else (readInteger? word).map .int

/-- Reads an unquoted word, which goes up to the next comma. -/
def readWord? (t : Text) : Option (SqlValue × Text) :=
  (SqlValue.ofWord? (t.takeWhile (· ≠ ','))).map fun value => (value, t.dropWhile (· ≠ ','))

/-- Reads parts up to the end of the text, at least one and at most `bound` of them. -/
def readParts? {α : Type} (part : Text → Option (α × Text)) : Nat → Text → Option (List α)
  | 0, _ => none
  | bound + 1, t => do
    let (a, rest) ← part t
    if rest = [] then return [a]
    return a :: (← readParts? part bound (← rest.dropPrefix? Conversion.separator))

/-- **Reading a list of parts.**  The empty text is the list without any. -/
def readJoined? {α : Type} (part : Text → Option (α × Text)) (t : Text) : Option (List α) :=
  if t = [] then some [] else readParts? part t.length t

namespace Dialect

/-- **Reading a value.** -/
def readValue? (d : Dialect) (t : Text) : Option (SqlValue × Text) :=
  if t.head? = some singleQuote then
    (d.readLiteral? t).map fun (text, rest) => (.text text, rest)
  else readWord? t

/-- Reading a name and a value. -/
def readEntry? (d : Dialect) (t : Text) : Option ((Text × SqlValue) × Text) := do
  let (name, afterName) ← d.readName? t
  let (value, rest) ← d.readValue? (← afterName.dropPrefix? Conversion.equals)
  return ((name, value), rest)

/-- Reads a list of values. -/
def readValues? (d : Dialect) : Text → Option (List SqlValue) :=
  readJoined? d.readValue?

/-- Reads a list of entries. -/
def readEntries? (d : Dialect) : Text → Option (List (Text × SqlValue)) :=
  readJoined? d.readEntry?

end Dialect

/-! ## Parts that read back -/

section Parts
variable {α : Type} {part : Text → Option (α × Text)}

/-- Whether a part of a list can end before a text: at the end of the list, or before a comma. -/
def EndsPart (rest : Text) : Prop :=
  ∀ c ∈ rest.head?, c = ','

theorem endsPart_nil : EndsPart [] := nofun

theorem endsPart_separator_append (rest : Text) : EndsPart (Conversion.separator ++ rest) :=
  fun _ hc => (Option.some.inj hc).symm

theorem EndsPart.head?_ne {rest : Text} (h : EndsPart rest) {c : Char} (hc : c ≠ ',') :
    rest.head? ≠ some c :=
  fun heq => hc (h c heq)

/-- Whether a text is read as `a` wherever a part may stand. -/
structure ReadsBack (part : Text → Option (α × Text)) (written : Text) (a : α) : Prop where
  nonempty : written ≠ []
  read : ∀ rest, EndsPart rest → part (written ++ rest) = some (a, rest)

theorem readParts?_last {t : Text} {a : α} (h : part t = some (a, [])) (bound : Nat) :
    readParts? part (bound + 1) t = some [a] := by
  rw [readParts?, h]
  rfl

theorem readParts?_separator {t rest : Text} {a : α}
    (h : part t = some (a, Conversion.separator ++ rest)) (bound : Nat) :
    readParts? part (bound + 1) t = (readParts? part bound rest).map (a :: ·) := by
  have hdrop : (Conversion.separator ++ rest).dropPrefix? Conversion.separator = some rest :=
    List.dropPrefix?_append_of_beq rest (by decide)
  have hne : Conversion.separator ++ rest ≠ [] :=
    List.append_ne_nil_of_left_ne_nil (by decide) rest
  rw [readParts?, h, Option.bind_eq_bind, Option.bind_some]
  dsimp only
  rw [if_neg hne, hdrop, Option.bind_eq_bind, Option.bind_some]
  cases readParts? part bound rest <;> rfl

/-- Reading parts that were joined, one after the other. -/
theorem readParts?_joined {parts : List Text} {values : List α}
    (h : List.Forall₂ (ReadsBack part) parts values) (hne : parts ≠ []) {bound : Nat}
    (hbound : parts.length ≤ bound) :
    readParts? part bound (Conversion.joined parts) = some values := by
  induction h generalizing bound with
  | nil => exact absurd rfl hne
  | @cons written a parts values hfirst hrest ih =>
    obtain ⟨bound, rfl⟩ := Nat.exists_eq_add_of_le' (Nat.le_of_add_left_le hbound)
    cases hrest with
    | nil =>
      have hlast := hfirst.read [] endsPart_nil
      rw [List.append_nil] at hlast
      rw [Conversion.joined_singleton]
      exact readParts?_last hlast bound
    | @cons next _ parts _ hsecond hmore =>
      have hread := hfirst.read _ (endsPart_separator_append (Conversion.joined (next :: parts)))
      have hlater := ih (List.cons_ne_nil _ _) (Nat.le_of_succ_le_succ hbound)
      rw [Conversion.joined_cons_cons, readParts?_separator hread, hlater]
      rfl

/-- Every part takes a character, so a list is at least as long as it has parts. -/
theorem length_le_length_joined {parts : List Text} {values : List α}
    (h : List.Forall₂ (ReadsBack part) parts values) :
    parts.length ≤ (Conversion.joined parts).length := by
  induction h with
  | nil => exact Nat.zero_le _
  | cons hfirst hrest ih =>
    have hwritten := List.length_pos_of_ne_nil hfirst.nonempty
    cases hrest with
    | nil =>
      rw [Conversion.joined_singleton]
      exact hwritten
    | cons hsecond hmore =>
      rw [Conversion.joined_cons_cons, List.length_append, List.length_append, List.length_cons]
      omega

/-- **A list is read back** if its parts are, and only the list without any is the empty text. -/
theorem readJoined?_joined {parts : List Text} {values : List α}
    (h : List.Forall₂ (ReadsBack part) parts values) :
    readJoined? part (Conversion.joined parts) = some values ∧
      (Conversion.joined parts = [] ↔ values = []) := by
  have hlength := length_le_length_joined h
  by_cases hparts : parts = []
  · subst hparts
    cases h
    exact ⟨rfl, iff_of_true rfl rfl⟩
  · have hvalues : values ≠ [] := fun hnil => hparts (List.forall₂_nil_right_iff.mp (hnil ▸ h))
    have hjoined : Conversion.joined parts ≠ [] := by
      intro hnil
      rw [hnil] at hlength
      exact hparts (List.eq_nil_of_length_eq_zero (Nat.le_zero.mp hlength))
    refine ⟨?_, iff_of_false hjoined hvalues⟩
    rw [readJoined?, if_neg hjoined]
    exact readParts?_joined h hparts hlength

end Parts

/-! ## Values that read back -/

theorem ne_nullText_of_isNumeric {word : Text} (h : ∀ c ∈ word, IsNumeric c) :
    word ≠ Conversion.nullText := by
  rintro rfl
  exact absurd (h 'N' (by decide)) (by unfold IsNumeric; decide)

theorem point_not_mem_signedNumeral (i : Int) : '.' ∉ signedNumeral i := by
  intro hmem
  unfold signedNumeral at hmem
  split at hmem
  · rcases List.mem_cons.mp hmem with hminus | hmem
    · cases hminus
    · exact not_mem_numeral rfl _ hmem
  · exact not_mem_numeral rfl _ hmem

theorem SqlValue.ofWord?_signedNumeral (i : Int) : ofWord? (signedNumeral i) = some (.int i) := by
  have hnull := ne_nullText_of_isNumeric fun _ => isNumeric_of_mem_signedNumeral (i := i)
  rw [ofWord?, if_neg hnull, if_neg (point_not_mem_signedNumeral i), readInteger?_signedNumeral]
  rfl

theorem SqlValue.ofWord?_literal (x : Binary64.Finite) : ofWord? x.literal = some (.float x) := by
  have hnull := ne_nullText_of_isNumeric fun _ => x.isNumeric_of_mem_literal
  rw [ofWord?, if_neg hnull, if_pos x.point_mem_literal, x.readFinite?_literal]
  rfl

/-- A word without a comma is read up to its end. -/
theorem readWord?_append {word rest : Text} (hcomma : ',' ∉ word) (hrest : EndsPart rest) :
    readWord? (word ++ rest) = (SqlValue.ofWord? word).map fun value => (value, rest) := by
  have hword : ∀ c ∈ word, decide (c ≠ ',') = true :=
    fun c hc => decide_eq_true fun heq => hcomma (heq ▸ hc)
  have hends : rest.takeWhile (· ≠ ',') = [] ∧ rest.dropWhile (· ≠ ',') = rest := by
    cases rest with
    | nil => exact ⟨rfl, rfl⟩
    | cons c more =>
      rw [hrest c rfl]
      exact ⟨rfl, rfl⟩
  rw [readWord?, List.takeWhile_append_of_pos hword, List.dropWhile_append_of_pos hword, hends.1,
    hends.2, List.append_nil]

namespace Dialect

/-- An unquoted word reads back if it stands for a value. -/
theorem readsBack_of_isPlain (d : Dialect) {word : Text} {value : SqlValue}
    (hplain : Conversion.IsPlain word) (hvalue : SqlValue.ofWord? word = some value) :
    ReadsBack d.readValue? word value := by
  have hne : word ≠ [] := by
    rintro rfl
    cases hvalue
  refine ⟨hne, fun rest hrest => ?_⟩
  have hcomma : ',' ∉ word := hplain.not_mem (by unfold IsNumeric; decide) (by decide)
  have hhead : (word ++ rest).head? ≠ some singleQuote := by
    rw [List.head?_append_of_ne_nil _ hne]
    exact fun heq => hplain.singleQuote_not_mem (List.mem_of_mem_head? heq)
  rw [readValue?, if_neg hhead, readWord?_append hcomma hrest, hvalue, Option.map_some]

theorem literal_readsBack (d : Dialect) (t : Text) :
    ReadsBack d.readValue? (d.escaper.literal t) (.text t) where
  nonempty := List.cons_ne_nil _ _
  read rest hrest := by
    have hhead : (d.escaper.literal t ++ rest).head? = some singleQuote := rfl
    rw [readValue?, if_pos hhead, d.readLiteral?_literal t (hrest.head?_ne (by decide)),
      Option.map_some]

/-- **A single value is written so that it reads back.** -/
theorem escaped_readsBack (d : Dialect) {arg : Argument} {value : SqlValue}
    (h : arg.sqlValue? = some value) :
    ∃ written, Conversion.escaped d.escaper arg = .ok written ∧
      ReadsBack d.readValue? written value := by
  have hint : ∀ i : Int, ReadsBack d.readValue? (signedNumeral i) (.int i) := fun i =>
    d.readsBack_of_isPlain (Conversion.isPlain_signedNumeral i) (SqlValue.ofWord?_signedNumeral i)
  cases arg with
  | null =>
    cases h
    exact ⟨_, rfl, d.readsBack_of_isPlain (.inl rfl) rfl⟩
  | bool b =>
    cases h
    exact ⟨_, rfl, hint _⟩
  | int i =>
    cases h
    exact ⟨_, rfl, hint _⟩
  | float x =>
    cases x with
    | finite x =>
      cases h
      exact ⟨_, rfl,
        d.readsBack_of_isPlain (Conversion.isPlain_literal x) (SqlValue.ofWord?_literal x)⟩
    | infinite negative => cases h
    | nan => cases h
  | text t =>
    cases h
    exact ⟨_, rfl, d.literal_readsBack t⟩
  | list items => cases h
  | map entries => cases h
  | skip => cases h

/-- **An entry is written so that it reads back**, if there is no quote in its name. -/
theorem entry_readsBack (d : Dialect) {named : Text × Argument} {value : SqlValue}
    (hname : d.nameQuote ∉ named.1) (hvalue : named.2.sqlValue? = some value) :
    ∃ written,
      Conversion.entry d.escaper (Conversion.escaped d.escaper) named = .ok written ∧
      ReadsBack d.readEntry? written (named.1, value) := by
  obtain ⟨written, hwritten, hreads⟩ := d.escaped_readsBack hvalue
  refine ⟨d.escaper.quoteName named.1 ++ Conversion.equals ++ written, ?_, ?_, ?_⟩
  · rw [Conversion.entry, hwritten]
    rfl
  · simp [Conversion.equals]
  · intro rest hrest
    have hequals : (Conversion.equals ++ (written ++ rest)).head? ≠ some d.nameQuote := by
      cases d <;> exact fun heq => absurd (Option.some.inj heq) (by decide)
    have hdrop : (Conversion.equals ++ (written ++ rest)).dropPrefix? Conversion.equals =
        some (written ++ rest) :=
      List.dropPrefix?_append_of_beq _ (by decide)
    rw [List.append_assoc, List.append_assoc, readEntry?, d.readName?_quoteName hname hequals,
      Option.bind_eq_bind, Option.bind_some]
    dsimp only
    rw [hdrop, Option.bind_eq_bind, Option.bind_some, hreads.read rest hrest]
    rfl

end Dialect

/-! ## Lists and maps -/

section Joined
variable {α β : Type} {part : Text → Option (α × Text)} {write : β → Converted}
  {R : β → α → Prop}

theorem exists_mapM_readsBack
    (hwrite : ∀ b a, R b a → ∃ written, write b = .ok written ∧ ReadsBack part written a)
    {items : List β} {values : List α} (h : List.Forall₂ R items values) :
    ∃ parts, items.mapM write = .ok parts ∧ List.Forall₂ (ReadsBack part) parts values := by
  induction h with
  | nil => exact ⟨[], rfl, .nil⟩
  | cons hfirst _ ih =>
    obtain ⟨written, hwritten, hreads⟩ := hwrite _ _ hfirst
    obtain ⟨parts, hparts, hmore⟩ := ih
    refine ⟨written :: parts, ?_, .cons hreads hmore⟩
    rw [List.mapM_cons, hwritten, hparts]
    rfl

/-- Whatever is written part by part so that every part reads back can be written, and reads back
as a list. -/
theorem exists_joined_readsBack
    (hwrite : ∀ b a, R b a → ∃ written, write b = .ok written ∧ ReadsBack part written a)
    {items : List β} {values : List α} (h : List.Forall₂ R items values) :
    ∃ out, (do return Conversion.joined (← items.mapM write) : Converted) = .ok out ∧
      readJoined? part out = some values ∧ (out = [] ↔ items = []) := by
  obtain ⟨parts, hparts, hreads⟩ := exists_mapM_readsBack hwrite h
  obtain ⟨hread, hnil⟩ := readJoined?_joined hreads
  have hempty : values = [] ↔ items = [] := by
    rw [← List.length_eq_zero_iff, ← h.length_eq, List.length_eq_zero_iff]
  refine ⟨Conversion.joined parts, ?_, hread, hnil.trans hempty⟩
  rw [hparts]
  rfl

end Joined

namespace Dialect

/-- **Lists and maps read back.**  A list of single values can always be written, and a reader of
SQL finds the same values in the same order, whatever the texts among them are.  The entries of a
map are found again with their names, also where a name occurs twice, if no name holds a quote.
Only the empty list and the empty map are written as the empty text. -/
theorem flatten_escaped_readsBack (d : Dialect) :
    (∀ items values, List.Forall₂ (fun item value => item.sqlValue? = some value) items values →
      ∃ out,
        Conversion.flatten d.escaper (Conversion.escaped d.escaper) (.list items) = .ok out ∧
        d.readValues? out = some values ∧ (out = [] ↔ items = [])) ∧
    ∀ entries values, (∀ entry ∈ entries, d.nameQuote ∉ entry.1) →
      List.Forall₂ (fun (entry : Text × Argument) (value : Text × SqlValue) =>
        entry.1 = value.1 ∧ entry.2.sqlValue? = some value.2) entries values →
      ∃ out,
        Conversion.flatten d.escaper (Conversion.escaped d.escaper) (.map entries) = .ok out ∧
        d.readEntries? out = some values ∧ (out = [] ↔ entries = []) := by
  constructor
  · intro items values h
    exact exists_joined_readsBack (fun _ _ hvalue => d.escaped_readsBack hvalue) h
  · intro entries values hnames h
    refine exists_joined_readsBack ?_ ((List.forall₂_and_left _ _).mpr ⟨hnames, h⟩)
    rintro ⟨name, arg⟩ ⟨name', value⟩ ⟨hname, rfl, hvalue⟩
    exact d.entry_readsBack hname hvalue

/-- Texts with separators, quotes and numerals in them, and a name that occurs twice. -/
theorem flatten_escaped_texts_like_lists :
    (∃ out,
      Conversion.flatten mysql.escaper (Conversion.escaped mysql.escaper)
          (.list [.text [backslash, singleQuote, ',', ' ', 'N'], .null, .bool true, .int (-7),
            .float (.finite (.zero true)), .text ['1', '.', '0']]) = .ok out ∧
        mysql.readValues? out =
          some [.text [backslash, singleQuote, ',', ' ', 'N'], .null, .int 1, .int (-7),
            .float (.zero true), .text ['1', '.', '0']] ∧ out ≠ []) ∧
    ∃ out,
      Conversion.flatten postgres.escaper (Conversion.escaped postgres.escaper)
          (.map [(['a', ' ', '='], .text [singleQuote]), (['a', ' ', '='], .null)]) = .ok out ∧
        postgres.readEntries? out =
          some [(['a', ' ', '='], .text [singleQuote]), (['a', ' ', '='], .null)] ∧ out ≠ [] := by
  constructor
  · refine Exists.imp (fun out h => ⟨h.1, h.2.1, fun hnil => List.cons_ne_nil _ _ (h.2.2.mp hnil)⟩)
      ((flatten_escaped_readsBack mysql).1 _ _ ?_)
    exact .cons rfl <| .cons rfl <| .cons rfl <| .cons rfl <| .cons rfl <| .cons rfl .nil
  · refine Exists.imp (fun out h => ⟨h.1, h.2.1, fun hnil => List.cons_ne_nil _ _ (h.2.2.mp hnil)⟩)
      ((flatten_escaped_readsBack postgres).2 _ _ ?_ ?_)
    · simp [nameQuote, doubleQuote]
    · exact .cons ⟨rfl, rfl⟩ <| .cons ⟨rfl, rfl⟩ .nil

end Dialect

end QueryTemplate
