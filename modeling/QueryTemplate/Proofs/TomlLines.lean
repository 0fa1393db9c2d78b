import QueryTemplate.Proofs.SettledNumbers
import QueryTemplate.Toml.Document

/-!
# Lines of TOML that are read back

A few kinds of lines are enough to write a document: the header of a table, and a bare key with a
string or an integer (`Toml.headerLine`, `Toml.stringLine`, `Toml.integerLine`).  Each is given
together with its statement, and `Toml.Reads` says that the line is read as that statement, whatever
follows it.  A document of such lines is read line by line, so its table is what the statements make
of it, in order (`Toml.read?_eq`).

A line comes down to its words.  The numeral of a natural number is one: it is no truth value, no
date or time and no float, and it denotes the number (`Toml.wordValue?_numeral`).
-/

namespace QueryTemplate

/-! ## Readers -/

namespace Reader
variable {α : Type} {t later : Text}

section Repetition
variable {item : Reader (Option α)}

theorem repeatUpTo_of_some {a : α} (h : item.run t = some (some a, later)) (bound : Nat) :
    (repeatUpTo item (bound + 1)).run t =
      ((repeatUpTo item bound).run later).map fun (items, rest) => (a :: items, rest) := by
  rw [repeatUpTo, StateT.run_bind, h]
  cases h : (repeatUpTo item bound).run later <;> simp [h]

theorem repeatUpTo_of_none (h : item.run t = some (none, later)) (bound : Nat) :
    (repeatUpTo item (bound + 1)).run t = some ([], later) := by
  rw [repeatUpTo, StateT.run_bind, h]
  rfl

/-- **Repetition reads pieces one after the other**, if each can be read whatever follows it.  The
length of the text is a sufficient bound, as no piece is empty. -/
theorem many_run {pieces : List (Text × α)}
    (hpieces : ∀ piece ∈ pieces, piece.1 ≠ [] ∧
      ∀ rest, item.run (piece.1 ++ rest) = some (some piece.2, rest))
    {rest : Text} (hend : item.run rest = some (none, later)) :
    (many item).run (pieces.flatMap Prod.fst ++ rest) = some (pieces.map Prod.snd, later) := by
  have hbounded : ∀ bound, (pieces.flatMap Prod.fst ++ rest).length < bound →
      (repeatUpTo item bound).run (pieces.flatMap Prod.fst ++ rest) =
        some (pieces.map Prod.snd, later) := by
    induction pieces with
    | nil =>
      intro bound hbound
      obtain ⟨bound, rfl⟩ := Nat.exists_eq_succ_of_ne_zero (Nat.ne_zero_of_lt hbound)
      exact repeatUpTo_of_none hend bound
    | cons piece pieces ih =>
      intro bound hbound
      obtain ⟨bound, rfl⟩ := Nat.exists_eq_succ_of_ne_zero (Nat.ne_zero_of_lt hbound)
      obtain ⟨⟨hne, hread⟩, hlater⟩ := List.forall_mem_cons.mp hpieces
      have hpos := List.length_pos_of_ne_nil hne
      simp only [List.flatMap_cons, List.append_assoc, List.length_append] at hbound ⊢
      rw [repeatUpTo_of_some (hread _), ih hlater bound (by rw [List.length_append]; omega)]
      rfl
  exact hbounded _ (Nat.lt_succ_self _)

end Repetition

theorem char_run (c : Char) (rest : Text) : (char c).run (c :: rest) = some ((), rest) := by
  simp [char, satisfying, next]

theorem char_run_eq_none {c : Char} (h : c ∉ t) : (char c).run t = none := by
  cases t with
  | nil => rfl
  | cons d rest =>
    have hne : d ≠ c := fun heq => h (heq ▸ List.mem_cons_self ..)
    simp [char, satisfying, next, hne]

theorem takeWhile_run {p : Char → Bool} {taken rest : Text} (htaken : ∀ c ∈ taken, p c = true)
    (hrest : ∀ c, rest.head? = some c → p c = false) :
    (Reader.takeWhile p).run (taken ++ rest) = some (taken, rest) := by
  obtain ⟨htake, hdrop⟩ := takeWhile_dropWhile_append htaken hrest
  simp [Reader.takeWhile, htake, hdrop]

theorem eq_append_of_takeExactly_run {p : Char → Bool} {n : Nat} {taken : Text}
    (h : (takeExactly p n).run t = some (taken, later)) : t = taken ++ later := by
  induction n generalizing t taken with
  | zero =>
    cases h
    rfl
  | succ n ih =>
    cases t with
    | nil => simp [takeExactly, satisfying, next] at h
    | cons c rest =>
      by_cases hc : p c = true
      · simp [takeExactly, satisfying, next, hc] at h
        obtain ⟨taken, hrest, rfl⟩ := h
        rw [ih hrest]
        rfl
      · simp [takeExactly, satisfying, next, hc] at h

end Reader

namespace Toml

open Reader (many many_run char char_run char_run_eq_none peek next)

/-! ## Keys -/

/-- The characters that may stand in a key without quotes. -/
def isBareChar (c : Char) : Bool :=
  c.isAlphanum || c = '_' || c = '-'

/-- A key that needs no quotes. -/
def IsBare (name : Text) : Prop :=
  name ≠ [] ∧ name.all isBareChar = true

instance (name : Text) : Decidable (IsBare name) :=
  inferInstanceAs (Decidable (_ ∧ _))

theorem IsBare.isBareChar_of_mem {name : Text} (h : IsBare name) :
    ∀ c ∈ name, isBareChar c = true :=
  List.all_eq_true.mp h.2

theorem ne_of_isBareChar {c d : Char} (hc : isBareChar c = true) (hd : isBareChar d = false) :
    c ≠ d :=
  ne_of_apply_ne isBareChar (by simp [hc, hd])

theorem blanks_run (t : Text) : blanks.run t = some ((), t.dropWhile isBlank) :=
  rfl

section Keys
variable {name rest : Text}

theorem simpleKey_run (hname : IsBare name)
    (hrest : ∀ c, rest.head? = some c → isBareChar c = false) :
    simpleKey.run (name ++ rest) = some (name, rest) := by
  have htake : (Reader.takeWhile1 isBareChar).run (name ++ rest) = some (name, rest) := by
    rw [Reader.takeWhile1, StateT.run_bind, Reader.takeWhile_run hname.isBareChar_of_mem hrest]
    simp [hname.1]
  obtain ⟨first, others, rfl⟩ := List.exists_cons_of_ne_nil hname.1
  have hne {d : Char} (hd : isBareChar d = false) : first ≠ d :=
    ne_of_isBareChar (hname.isBareChar_of_mem first (List.mem_cons_self ..)) hd
  simp [simpleKey, peek, hne (d := '\x22') rfl, hne (d := '\x27') rfl]
  exact htake

/-- A bare key is read as a path of its own unless a point follows. -/
theorem key_run (hname : IsBare name) (hrest : ∀ c, rest.head? = some c → isBareChar c = false)
    (hpoint : (rest.dropWhile isBlank).head? ≠ some '.') :
    key.run (name ++ rest) = some ([name], rest.dropWhile isBlank) := by
  have hmany {item : Reader (Option Text)}
      (hend : item.run rest = some (none, rest.dropWhile isBlank)) :
      (many item).run rest = some ([], rest.dropWhile isBlank) :=
    Reader.repeatUpTo_of_none hend _
  rw [key, StateT.run_bind, simpleKey_run hname hrest, Option.bind_eq_bind, Option.bind_some,
    StateT.run_bind, hmany]
  · rfl
  · rw [StateT.run_bind, blanks_run, Option.bind_eq_bind, Option.bind_some]
    simp [Reader.charIfNext, peek, hpoint]

end Keys

/-! ## Values -/

/-- The characters that need no escape in double quotes. -/
def isUnescaped (c : Char) : Bool :=
  c ≠ '\x22' && c ≠ '\x5c' && isContent c

theorem isUnescaped_iff {c : Char} :
    isUnescaped c = true ↔ c ≠ '\x22' ∧ c ≠ '\x5c' ∧ isContent c = true := by
  simp [isUnescaped, and_assoc]

/-- A string in quotes, without escapes. -/
theorem value_run_string {text : Text} (hne : text ≠ []) (htext : text.all isUnescaped = true)
    (rest : Text) :
    (value maxDepth).run ('\x22' :: (text ++ '\x22' :: rest)) = some (.string text, rest) := by
  have hchars : (many (lineChar '\x22' true)).run
      ((text.map fun c => ([c], c)).flatMap Prod.fst ++ '\x22' :: rest) =
        some ((text.map fun c => ([c], c)).map Prod.snd, rest) := by
    apply many_run
    · intro piece hpiece
      obtain ⟨c, hc, rfl⟩ := List.mem_map.mp hpiece
      obtain ⟨hquote, hslash, hcontent⟩ := isUnescaped_iff.mp (List.all_eq_true.mp htext c hc)
      refine ⟨List.cons_ne_nil _ _, fun rest => ?_⟩
      simp [lineChar, next, hquote, hslash, hcontent]
    · simp [lineChar, next]
  simp only [List.flatMap_map, List.flatMap_singleton', List.map_map, Function.comp_def,
    List.map_id'] at hchars
  have hline : (lineString '\x22' true).run ('\x22' :: (text ++ '\x22' :: rest)) =
      some (text, rest) := by
    simp only [lineString, StateT.run_bind, char_run, Option.bind_eq_bind, Option.bind_some, hchars]
  -- a second quote would have opened a string on several lines
  have hblock : (Reader.exactly ['\x22', '\x22', '\x22']).run
      ('\x22' :: (text ++ '\x22' :: rest)) = none := by
    obtain ⟨first, others, rfl⟩ := List.exists_cons_of_ne_nil hne
    have hfirst := (isUnescaped_iff.mp (List.all_eq_true.mp htext first (List.mem_cons_self ..))).1
    simp [Reader.exactly, char, Reader.satisfying, next, hfirst]
  have hquoted : (quotedString '\x22' true).run ('\x22' :: (text ++ '\x22' :: rest)) =
      some (text, rest) := by
    show ((Reader.exactly ['\x22', '\x22', '\x22'] *> blockText '\x22' true).run _ <|>
      (lineString '\x22' true).run _) = _
    rw [StateT.run_seqRight, hblock, hline]
    rfl
  rw [maxDepth, value]
  simp [peek, value.plain]
  exact hquoted

section DatesAndTimes
variable {t later : Text}

theorem exists_of_fixedNumber_run {digits n : Nat}
    (h : (fixedNumber digits).run t = some (n, later)) : ∃ taken, t = taken ++ later := by
  simp only [fixedNumber, StateT.run_bind, StateT.run_pure, Option.bind_eq_bind,
    Option.bind_eq_some_iff, Prod.exists] at h
  obtain ⟨taken, rest, htaken, hrest⟩ := h
  cases hrest
  exact ⟨taken, Reader.eq_append_of_takeExactly_run htaken⟩

theorem exists_of_twoDigits_run {least greatest : Nat} {u : Unit}
    (h : (twoDigits least greatest).run t = some (u, later)) : ∃ taken, t = taken ++ later := by
  simp only [twoDigits, StateT.run_bind, Option.bind_eq_bind, Option.bind_eq_some_iff,
    Prod.exists] at h
  obtain ⟨n, rest, hnumber, hrest⟩ := h
  by_cases hbounds : least ≤ n ∧ n ≤ greatest
  · simp [hbounds] at hrest
    exact hrest ▸ exists_of_fixedNumber_run hnumber
  · simp [hbounds] at hrest

theorem readTime_run_eq_none (h : ':' ∉ t) : readTime.run t = none := by
  rw [readTime, StateT.run_bind]
  cases hread : (twoDigits 0 23).run t with
  | none => rfl
  | some read =>
    obtain ⟨taken, rfl⟩ := exists_of_twoDigits_run hread
    have hcolon : (char ':').run read.2 = none :=
      char_run_eq_none fun hmem => h (List.mem_append_right _ hmem)
    simp [hcolon]

theorem readDate_run_eq_none (h : '-' ∉ t) : readDate.run t = none := by
  rw [readDate, StateT.run_bind]
  cases hread : (fixedNumber 4).run t with
  | none => rfl
  | some read =>
    obtain ⟨taken, rfl⟩ := exists_of_fixedNumber_run hread
    have hdash : (char '-').run read.2 = none :=
      char_run_eq_none fun hmem => h (List.mem_append_right _ hmem)
    simp [hdash]

/-- A date has hyphens and a time has colons. -/
theorem isDateTime_eq_false (hcolon : ':' ∉ t) (hdash : '-' ∉ t) : isDateTime t = false := by
  have hrun : readDateTime.run t = none := by
    show (readTime.run t <|> (readDate >>= _ : Reader Unit).run t) = none
    rw [readTime_run_eq_none hcolon, StateT.run_bind, readDate_run_eq_none hdash]
    rfl
  rw [isDateTime, Reader.readAll?, hrun]
  rfl

end DatesAndTimes

theorem isGrouped_of_not_mem {isDigit : Char → Bool} {t : Text} (h : '_' ∉ t) :
    isGrouped isDigit t = true := by
  have hpairs : ∀ a b, (a, b) ∈ t.zip t.tail → a ≠ '_' ∧ b ≠ '_' := by
    intro a b hmem
    obtain ⟨ha, hb⟩ := List.of_mem_zip hmem
    exact ⟨fun heq => h (heq ▸ ha), fun heq => h (heq ▸ List.mem_of_mem_tail hb)⟩
  have hhead : t.head? ≠ some '_' := fun heq => h (List.mem_of_head? heq)
  have hlast : t.getLast? ≠ some '_' := fun heq => h (List.mem_of_getLast? heq)
  simp only [isGrouped, Bool.and_eq_true, decide_eq_true_eq, List.all_eq_true, Prod.forall]
  exact ⟨⟨hhead, hlast⟩, fun a b hmem => by simp [hpairs a b hmem]⟩

theorem hasLeadingZero_numeral (n : Nat) : hasLeadingZero (numeral n) = false := by
  by_cases hzero : n = 0
  · rw [hzero]
    rfl
  · simp [hasLeadingZero, head?_numeral_ne_zero hzero]

section Numerals
variable {n : Nat}

theorem decimalInteger?_numeral (h : InRange n) :
    decimalInteger? (numeral n) = some (.integer n) := by
  have hdigit : ∀ c ∈ numeral n, c.isDigit = true := fun c => isDigit_of_mem_numeral
  have hunderscore : '_' ∉ numeral n := not_mem_numeral rfl n
  have hsign : splitSign (numeral n) = (false, numeral n) := by
    rw [← List.append_nil (numeral n)]
    exact splitSign_numeral_append n []
  have hafter : (numeral n).dropWhile Char.isDigit = [] := List.dropWhile_eq_nil_iff.mpr hdigit
  have hfilter : (numeral n).filter (· ≠ '_') = numeral n :=
    List.filter_eq_self.mpr fun c hc => decide_eq_true fun heq => hunderscore (heq ▸ hc)
  have hall : (numeral n).all Char.isDigit = true := List.all_eq_true.mpr hdigit
  have hvalue : signed false n = n := rfl
  simp only [decimalInteger?, hsign]
  rw [if_pos ⟨numeral_ne_nil n, by simp [hasLeadingZero_numeral], isGrouped_of_not_mem hunderscore,
    by simp [hafter]⟩, hfilter, if_pos hall, digitsValue_numeral, hvalue, ofInteger, if_pos h]

theorem number?_numeral (h : InRange n) : number? (numeral n) = some (.integer n) := by
  have hmarks : (numeral n).any (fun c => c = '.' || c = 'e' || c = 'E') = false := by
    simp only [List.any_eq_false]
    intro c hc
    have hne {d : Char} (hd : d.isDigit = false) : c ≠ d :=
      ne_of_isDigit (isDigit_of_mem_numeral hc) hd
    simp [hne]
  -- so a zero in front is no mark of a base
  have hsecond (c : Char) (rest : Text) (heq : numeral n = '0' :: c :: rest) : c.isDigit = true :=
    isDigit_of_mem_numeral (by rw [heq]; simp)
  rw [number?]
  · rw [hmarks]
    simp [decimalInteger?_numeral h]
  all_goals
    intro digits heq
    exact absurd (hsecond _ _ heq) (by decide)

/-- **A numeral denotes its number.** -/
theorem wordValue?_numeral (h : InRange n) : wordValue? (numeral n) = some (.integer n) := by
  have htrue : numeral n ≠ "true".toList := fun heq =>
    not_mem_numeral (c := 't') rfl n (heq ▸ by decide)
  have hfalse : numeral n ≠ "false".toList := fun heq =>
    not_mem_numeral (c := 'f') rfl n (heq ▸ by decide)
  have hdate := isDateTime_eq_false (not_mem_numeral (c := ':') rfl n)
    (not_mem_numeral (c := '-') rfl n)
  rw [wordValue?, if_neg htrue, if_neg hfalse, hdate]
  exact number?_numeral h

theorem value_run_numeral (h : InRange n) (rest : Text) :
    (value maxDepth).run (numeral n ++ '\n' :: rest) = some (.integer n, '\n' :: rest) := by
  have hne {c d : Char} (hc : c ∈ numeral n) (hd : d.isDigit = false) : c ≠ d :=
    ne_of_isDigit (isDigit_of_mem_numeral hc) hd
  have hword : word.run (numeral n ++ '\n' :: rest) = some (numeral n, '\n' :: rest) := by
    rw [word, StateT.run_bind, Reader.takeWhile_run]
    · rfl
    · intro c hc
      simp [isWordChar, isBlank, hne hc]
    · simp [isWordChar]
  have hscalar : scalar.run (numeral n ++ '\n' :: rest) = some (.integer n, '\n' :: rest) := by
    simp [scalar, hword, wordValue?_numeral h]
  obtain ⟨first, others, hnumeral⟩ := List.exists_cons_of_ne_nil (numeral_ne_nil n)
  have hfirst : first ∈ numeral n := by
    rw [hnumeral]
    exact List.mem_cons_self ..
  rw [hnumeral, List.cons_append] at hscalar ⊢
  rw [maxDepth, value]
  simp [peek, value.plain, hne hfirst, hscalar]

end Numerals

/-! ## Lines -/

/-- **A line is read as a statement**, whatever follows the line. -/
def Reads (written : Text × Option Statement) : Prop :=
  written.1 ≠ [] ∧ ∀ rest, line.run (written.1 ++ rest) = some (written.2, rest)

/-- The header of a table. -/
def headerLine (name : Text) : Text × Option Statement :=
  ('[' :: (name ++ [']', '\n']), some (.header [name]))

/-- A bare key and a value. -/
def assignmentLine (name text : Text) (v : Toml) : Text × Option Statement :=
  (name ++ ' ' :: '=' :: ' ' :: (text ++ ['\n']), some (.assignment [name] v))

/-- A bare key and a string in quotes. -/
def stringLine (name text : Text) : Text × Option Statement :=
  assignmentLine name ('\x22' :: (text ++ ['\x22'])) (.string text)

/-- A bare key and an integer. -/
def integerLine (name : Text) (n : Nat) : Text × Option Statement :=
  assignmentLine name (numeral n) (.integer n)

theorem lineEnd_run (rest : Text) : lineEnd.run ('\n' :: rest) = some ((), rest) := by
  have hcomment : (Reader.optional comment).run ('\n' :: rest) = some (none, '\n' :: rest) := rfl
  rw [lineEnd, StateT.run_bind, blanks_run]
  simp [isBlank, hcomment, peek, newline, Reader.charIfNext, char_run]

section Lines
variable {name : Text}

theorem reads_headerLine (hname : IsBare name) : Reads (headerLine name) := by
  refine ⟨List.cons_ne_nil _ _, fun rest => ?_⟩
  have hkey : key.run (name ++ ']' :: '\n' :: rest) = some ([name], ']' :: '\n' :: rest) :=
    key_run hname (by simp [isBareChar]) (by simp [isBlank])
  obtain ⟨first, others, rfl⟩ := List.exists_cons_of_ne_nil hname.1
  have hne {d : Char} (hd : isBareChar d = false) : first ≠ d :=
    ne_of_isBareChar (hname.isBareChar_of_mem first (List.mem_cons_self ..)) hd
  simp only [List.cons_append] at hkey
  simp [headerLine, line, blanks_run, isBlank, peek, header, char_run, Reader.charIfNext,
    hne (d := '[') rfl, hne (d := ' ') rfl, hne (d := '\t') rfl, hkey, lineEnd_run]

theorem reads_assignmentLine {text : Text} {v : Toml} (hname : IsBare name) (htext : text ≠ [])
    (hblank : ∀ c, text.head? = some c → isBlank c = false)
    (hvalue : ∀ rest, (value maxDepth).run (text ++ '\n' :: rest) = some (v, '\n' :: rest)) :
    Reads (assignmentLine name text v) := by
  refine ⟨by simp [assignmentLine], fun rest => ?_⟩
  have hkey (behind : Text) :
      key.run (name ++ ' ' :: '=' :: behind) = some ([name], '=' :: behind) :=
    key_run hname (by simp [isBareChar]) (by simp [isBlank])
  specialize hvalue rest
  obtain ⟨first, others, rfl⟩ := List.exists_cons_of_ne_nil hname.1
  obtain ⟨head, tail, rfl⟩ := List.exists_cons_of_ne_nil htext
  have hne {d : Char} (hd : isBareChar d = false) : first ≠ d :=
    ne_of_isBareChar (hname.isBareChar_of_mem first (List.mem_cons_self ..)) hd
  have hhead : head ≠ ' ' ∧ head ≠ '\t' := by simpa [isBlank] using hblank head rfl
  simp only [List.cons_append] at hkey hvalue
  simp [assignmentLine, line, assignment, blanks_run, isBlank, peek, char_run,
    hne (d := '[') rfl, hne (d := ' ') rfl, hne (d := '\t') rfl, hne (d := '#') rfl,
    hne (d := '\n') rfl, hne (d := '\x0d') rfl, hkey, lineEnd_run, hhead, hvalue]

theorem reads_stringLine {text : Text} (hname : IsBare name) (hne : text ≠ [])
    (htext : text.all isUnescaped = true) : Reads (stringLine name text) := by
  apply reads_assignmentLine hname (List.cons_ne_nil _ _)
  · simp [isBlank]
  · intro rest
    simpa using value_run_string hne htext ('\n' :: rest)

theorem reads_integerLine {n : Nat} (hname : IsBare name) (h : InRange n) :
    Reads (integerLine name n) := by
  apply reads_assignmentLine hname (numeral_ne_nil n)
  · intro c hc
    have hne {d : Char} (hd : d.isDigit = false) : c ≠ d :=
      ne_of_isDigit (isDigit_of_mem_numeral (List.mem_of_head? hc)) hd
    simp [isBlank, hne]
  · exact value_run_numeral h

end Lines

/-! ## Documents -/

section Documents
variable {lines : List (Text × Option Statement)}

theorem statements_run (hlines : ∀ written ∈ lines, Reads written) :
    statements.run (lines.flatMap Prod.fst) = some (lines.filterMap Prod.snd, []) := by
  have hmany {item : Reader (Option (Option Statement))} (hend : item.run [] = some (none, []))
      (hitem : ∀ written ∈ lines, written.1 ≠ [] ∧
        ∀ rest, item.run (written.1 ++ rest) = some (some written.2, rest)) :
      (many item).run (lines.flatMap Prod.fst) = some (lines.map Prod.snd, []) := by
    have hrun := many_run hitem hend
    rwa [List.append_nil] at hrun
  rw [statements, StateT.run_bind, hmany]
  · simp [List.filterMap_map]
  · simp [peek]
  · intro written hwritten
    obtain ⟨hne, hread⟩ := hlines written hwritten
    refine ⟨hne, fun rest => ?_⟩
    specialize hread rest
    obtain ⟨first, others, hfirst⟩ := List.exists_cons_of_ne_nil hne
    rw [hfirst, List.cons_append] at hread ⊢
    simp [peek, hread]

/-- **A document of such lines** is what their statements make, in order. -/
theorem read?_eq (hlines : ∀ written ∈ lines, Reads written)
    (hmark : (lines.flatMap Prod.fst).head? ≠ some byteOrderMark) :
    read? (lines.flatMap Prod.fst) =
      ((lines.filterMap Prod.snd).foldlM Builder.carryOut .empty).map Builder.root := by
  have hread : Reader.readAll? statements (lines.flatMap Prod.fst) =
      some (lines.filterMap Prod.snd) := by
    rw [Reader.readAll?, statements_run hlines]
  simp only [read?, if_neg hmark, hread, Option.bind_eq_bind, Option.bind_some]
  rw [Option.map_eq_bind]
  rfl

end Documents

/-! ## Looking up a key -/

theorem lookup?_cons_self (key : Text) (v : Toml) (later : Entries) :
    lookup? key ((key, v) :: later) = some v := by
  simp [lookup?]

theorem lookup?_cons_of_ne {key other : Text} (h : other ≠ key) (v : Toml) (later : Entries) :
    lookup? key ((other, v) :: later) = lookup? key later := by
  simp [lookup?, h]

end Toml

end QueryTemplate
