import QueryTemplate.Proofs.Slices
import QueryTemplate.Proofs.Splitting

/-!
# Splitting as a loop over bytes

`Segment.split` goes through a template character by character and carries the text of each segment
along.  The same can be done with positions only: a loop looks at one byte after the other, and cuts
a slice out of the template where it meets a brace (`Splitting.turn`).  That is safe because braces
have one byte, which occurs in no other character; so every position that is ever used for a slice
lies between two characters.

A loop is given by what one **turn** of it does in each state (`Turn`).  A turn without an answer is
a slice without an answer.  `Ends` says that a loop comes to an end, after finitely many turns none
of which fails; then the turn has an answer in every state that the loop comes to
(`Ends.isSome_turn`).  The loop over bytes ends, and its result is that of the scan
(`Splitting.ends`).
-/

namespace QueryTemplate

open Text (byteLength bytes)

/-! ## Loops -/

/-- **What one turn of a loop comes to**: it goes on in another state, or ends with a result. -/
inductive Turn (σ α : Type) where
  /-- Another turn follows. -/
  | again (s : σ)
  /-- This turn was the last. -/
  | done (a : α)

section Loops
variable {σ α : Type} (turn : σ → Option (Turn σ α))

/-- **A loop ends** with a result after finitely many turns, none of which fails. -/
inductive Ends : σ → α → Prop
  | done {s : σ} {a : α} (h : turn s = some (.done a)) : Ends s a
  | again {s s' : σ} {a : α} (h : turn s = some (.again s')) (later : Ends s' a) : Ends s a

/-- **The states that a loop comes to.** -/
inductive Reaches (start : σ) : σ → Prop
  | start : Reaches start start
  | again {s s' : σ} (before : Reaches start s) (h : turn s = some (.again s')) : Reaches start s'

variable {turn} {start s : σ} {a : α}

theorem Ends.of_reaches (h : Ends turn start a) (hs : Reaches turn start s) : Ends turn s a := by
  induction hs with
  | start => exact h
  | again before hturn ih =>
    cases ih with
    | done hdone =>
      rw [hturn] at hdone
      cases hdone
    | again hagain later =>
      rw [hturn] at hagain
      cases hagain
      exact later

/-- **A loop that ends never fails**: whatever state it comes to, the turn there has an answer. -/
theorem Ends.isSome_turn (h : Ends turn start a) (hs : Reaches turn start s) :
    (turn s).isSome = true := by
  cases h.of_reaches hs with
  | done hdone =>
    rw [hdone]
    rfl
  | again hagain later =>
    rw [hagain]
    rfl

/-- What each turn preserves holds in all states. -/
theorem Reaches.invariant {P : σ → Prop} (hs : Reaches turn start s) (hstart : P start)
    (hturn : ∀ s s', turn s = some (.again s') → P s → P s') : P s := by
  induction hs with
  | start => exact hstart
  | again before h ih => exact hturn _ _ h ih

end Loops

/-! ## Splitting -/

/-- **The state of splitting.** -/
structure Splitting where
  /-- Where the next byte is. -/
  position : Nat
  /-- Where the segment being read begins. -/
  start : Nat
  /-- Whether that segment is a block. -/
  inBlock : Bool
  /-- The segments before it. -/
  segments : List Segment

namespace Splitting

/-- The state before the first byte. -/
def initial : Splitting :=
  ⟨0, 0, false, []⟩

/-- The segments with another slice of the template. -/
def push (template : Text) (kind : SegmentKind) (start stop : Nat) (segments : List Segment) :
    Option (List Segment) :=
  (template.slice? start stop).map fun text => segments ++ [⟨text, kind, start⟩]

/-- The segments with another slice that stands outside of blocks; an empty one is left out. -/
def pushAlways (template : Text) (start stop : Nat) (segments : List Segment) :
    Option (List Segment) :=
  if start < stop then push template .always start stop segments else some segments

/-- **Splitting, one byte at a time.** -/
def turn (template : Text) (s : Splitting) :
    Option (Turn Splitting (Except BlockError (List Segment))) :=
  match (bytes template)[s.position]? with
  | some b =>
    if b = Char.toUInt8 '{' then
      if s.inBlock then some (.done (.error (.unexpectedStart s.position)))
      else
        (pushAlways template s.start s.position s.segments).map fun segments =>
          .again ⟨s.position + 1, s.position + 1, true, segments⟩
    else if b = Char.toUInt8 '}' then
      if s.inBlock then
        (push template .block s.start s.position s.segments).map fun segments =>
          .again ⟨s.position + 1, s.position + 1, false, segments⟩
      else some (.done (.error (.unexpectedEnd s.position)))
    else some (.again { s with position := s.position + 1 })
  | none =>
    if s.inBlock then some (.done (.error .unclosed))
    else
      (pushAlways template s.start (byteLength template) s.segments).map fun segments =>
        .done (.ok segments)

/-- A segment of some kind in front of others. -/
def cons : SegmentKind → Text → Nat → List Segment → List Segment
  | .always => Segment.consAlways
  | .block => fun text offset later => ⟨text, .block, offset⟩ :: later

/-- What splitting comes to, once some text of a segment has been read: the scan reads the rest of
the segment and the segments behind it. -/
def finished (kind : SegmentKind) (start : Nat) (text : Text) (segments : List Segment)
    (rest : Text) : Except BlockError (List Segment) :=
  (Segment.scan kind (start + byteLength text) rest).map fun (read, later) =>
    segments ++ cons kind (text ++ read) start later

section Finished
variable (start : Nat) (text : Text) (segments : List Segment) (rest : Text)

theorem finished_open :
    finished .always start text segments ('{' :: rest) =
      finished .block (start + byteLength text + 1) []
        (segments ++ Segment.consAlways text start []) rest := by
  rw [finished, finished, Segment.scan_open, Text.byteLength_nil, Nat.add_zero]
  generalize Segment.scan .block (start + byteLength text + 1) rest = scanned
  cases scanned with
  | error e => rfl
  | ok read => simp [Except.map, cons, ← Segment.consAlways_append]

theorem finished_close :
    finished .block start text segments ('}' :: rest) =
      finished .always (start + byteLength text + 1) []
        (segments ++ [⟨text, .block, start⟩]) rest := by
  rw [finished, finished, Segment.scan_close, Text.byteLength_nil, Nat.add_zero]
  generalize Segment.scan .always (start + byteLength text + 1) rest = scanned
  cases scanned with
  | error e => rfl
  | ok read => simp [Except.map, cons]

theorem finished_plain (kind : SegmentKind) {c : Char} (hopen : c ≠ '{') (hclose : c ≠ '}') :
    finished kind start text segments (c :: rest) =
      finished kind start (text ++ [c]) segments rest := by
  rw [finished, finished, Segment.scan_plain kind _ rest hopen hclose, Text.byteLength_append,
    Text.byteLength_cons, Text.byteLength_nil, Nat.add_zero, Nat.add_assoc]
  generalize Segment.scan kind (start + (byteLength text + c.utf8Size)) rest = scanned
  cases scanned with
  | error e => rfl
  | ok read => simp [Except.map]

end Finished

section Turns
variable {template before text after : Text} {segments : List Segment}

theorem push_append (h : template = before ++ (text ++ after)) (kind : SegmentKind) :
    push template kind (byteLength before) (byteLength before + byteLength text) segments =
      some (segments ++ [⟨text, kind, byteLength before⟩]) := by
  rw [push, h, Text.slice?_append]
  rfl

theorem pushAlways_append (h : template = before ++ (text ++ after)) :
    pushAlways template (byteLength before) (byteLength before + byteLength text) segments =
      some (segments ++ Segment.consAlways text (byteLength before) []) := by
  rw [pushAlways, Segment.consAlways, push_append h]
  cases text with
  | nil => simp
  | cons c rest =>
    have hpos := c.utf8Size_pos
    rw [if_pos (by rw [Text.byteLength_cons]; omega), if_neg (List.cons_ne_nil _ _)]

/-- The bytes of a character that is no brace are passed over. -/
theorem ends_of_plain {result : Except BlockError (List Segment)} {start : Nat} {inBlock : Bool}
    {front rest : Text} {c : Char} (h : template = front ++ c :: rest) (hopen : c ≠ '{')
    (hclose : c ≠ '}')
    (hlater : Ends (turn template)
      ⟨byteLength front + c.utf8Size, start, inBlock, segments⟩ result) :
    Ends (turn template) ⟨byteLength front, start, inBlock, segments⟩ result := by
  have hfrom : ∀ n i, i + n = c.utf8Size →
      Ends (turn template) ⟨byteLength front + i, start, inBlock, segments⟩ result := by
    intro n
    induction n with
    | zero =>
      rintro i rfl
      exact hlater
    | succ n ih =>
      intro i hi
      have hlt : i < (String.utf8EncodeChar c).length := by
        rw [String.length_utf8EncodeChar]
        omega
      have hbyte : (bytes template)[byteLength front + i]? = some (String.utf8EncodeChar c)[i] := by
        rw [h, Text.getElem?_bytes_append, Text.bytes_cons, List.getElem?_append_left hlt,
          List.getElem?_eq_getElem hlt]
      have hmem := List.getElem_mem hlt
      refine .again ?_ (ih (i + 1) (by omega))
      simp only [turn, hbyte]
      rw [if_neg (Text.ne_toUInt8_of_mem_utf8EncodeChar hmem hopen (by decide)),
        if_neg (Text.ne_toUInt8_of_mem_utf8EncodeChar hmem hclose (by decide))]
      rfl
  exact hfrom c.utf8Size 0 (Nat.zero_add _)

end Turns

/-- **Splitting gives what the scan gives.**  Some text of a segment has been read, up to a position
between two characters. -/
theorem ends_from (template : Text) (kind : SegmentKind) (before text rest : Text)
    (segments : List Segment) (h : template = before ++ (text ++ rest)) :
    Ends (turn template)
      ⟨byteLength before + byteLength text, byteLength before, kind = .block, segments⟩
      (finished kind (byteLength before) text segments rest) := by
  induction rest generalizing kind before text segments with
  | nil =>
    have hend : (bytes template)[byteLength before + byteLength text]? = none := by
      rw [h, List.append_nil, List.getElem?_eq_none_iff, Text.length_bytes,
        Text.byteLength_append]
    have hlength : byteLength template = byteLength before + byteLength text := by
      rw [h, List.append_nil, Text.byteLength_append]
    apply Ends.done
    cases kind with
    | block => simp [turn, hend, finished, Segment.scan, Except.map]
    | always =>
      simp only [turn, hend, hlength, pushAlways_append h]
      simp [finished, Segment.scan, cons, Except.map]
  | cons c rest ih =>
    have hbyte : (bytes template)[byteLength before + byteLength text]? =
        (bytes (c :: rest))[0]? := by
      rw [h, ← List.append_assoc, ← Text.byteLength_append, ← Nat.add_zero (byteLength _),
        Text.getElem?_bytes_append]
    have hbehind (d : Char) : byteLength (before ++ text ++ [d]) =
        byteLength before + byteLength text + d.utf8Size := by
      simp [Nat.add_assoc]
    by_cases hopen : c = '{'
    · subst hopen
      cases kind with
      | block =>
        apply Ends.done
        simp only [turn, hbyte]
        rfl
      | always =>
        have hlater := ih .block (before ++ text ++ ['{']) []
          (segments ++ Segment.consAlways text (byteLength before) []) (by simp [h])
        rw [hbehind] at hlater
        rw [finished_open]
        refine .again ?_ hlater
        simp only [turn, hbyte, pushAlways_append h]
        rfl
    · by_cases hclose : c = '}'
      · subst hclose
        cases kind with
        | always =>
          apply Ends.done
          simp only [turn, hbyte]
          rfl
        | block =>
          have hlater := ih .always (before ++ text ++ ['}']) []
            (segments ++ [⟨text, .block, byteLength before⟩]) (by simp [h])
          rw [hbehind] at hlater
          rw [finished_close]
          refine .again ?_ hlater
          simp only [turn, hbyte, push_append h]
          rfl
      · have hlater := ih kind before (text ++ [c]) segments (by simp [h])
        have hsplit : template = (before ++ text) ++ c :: rest := by simp [h]
        rw [finished_plain _ _ _ _ kind hopen hclose, ← Text.byteLength_append]
        apply ends_of_plain hsplit hopen hclose
        simpa [Nat.add_assoc] using hlater

/-- Splitting by bytes is splitting by characters. -/
theorem ends (template : Text) : Ends (turn template) initial (Segment.split template) := by
  have hends := ends_from template .always [] [] template [] rfl
  have hsplit : finished .always 0 [] [] template = Segment.split template := by
    rw [finished, Segment.split, Text.byteLength_nil]
    cases Segment.scan .always 0 template <;> rfl
  rw [← hsplit]
  exact hends

end Splitting

end QueryTemplate
