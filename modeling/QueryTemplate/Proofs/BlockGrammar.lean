import Mathlib.Data.List.Chain
import Mathlib.Data.List.Induction
import QueryTemplate.Proofs.Splitting

/-!
# The grammar of blocks

Splitting accepts a template by its **braces** alone: read from left to right they must alternate,
an opening one first and a closing one last.  A scan can therefore be followed without its segments.
As long as the braces alternate it goes on, in a block behind an odd number of them and outside
behind an even number (`Segment.outcome_scan_append`); so it either comes to the end of the text or
to a first brace that breaks the alternation, and fails there (`Segment.split_verdict`).

What an accepted template is cut into is told by how the segments are put together again.
`Segment.reassembled` puts each block back into its braces and joins all segments, and
`Segment.IsCut` lists what is true of segments that come from a template: no braces in their texts,
no empty text outside of blocks, no two texts outside of blocks side by side, and each offset the
place of its text.  Splitting and re-assembly are inverse to each other between all accepted
templates and all such lists (`Segment.split_eq_ok_iff_isCut`).
-/

namespace QueryTemplate

namespace Text

/-! ## Braces -/

/-- The braces of a text, from left to right. -/
def braces (t : Text) : Text :=
  t.filter fun c => c = '{' ∨ c = '}'

/-- The brace that belongs at an index among the braces of a template, counted from zero: an opening
one at the even indexes and a closing one at the odd indexes. -/
def braceAt (index : Nat) : Char :=
  if index % 2 = 0 then '{' else '}'

/-- **Alternation**: behind a number of braces, each of these is the one that belongs there. -/
def Alternating (before : Nat) (bs : Text) : Prop :=
  ∀ i c, bs[i]? = some c → c = braceAt (i + before)

/-- The first brace that breaks the alternation of the braces of a text, and its position in
bytes. -/
def BreaksAt (t : Text) (c : Char) (position : Nat) : Prop :=
  ∃ before after, t = before ++ c :: after ∧ position = byteLength before ∧
    Alternating 0 (braces before) ∧ ¬ Alternating 0 (braces (before ++ [c]))

theorem braces_append (s t : Text) : braces (s ++ t) = braces s ++ braces t :=
  List.filter_append ..

theorem braces_eq_nil_iff {t : Text} : braces t = [] ↔ '{' ∉ t ∧ '}' ∉ t := by
  rw [braces, List.filter_eq_nil_iff]
  constructor
  · intro h
    exact ⟨fun hopen => h _ hopen (by decide), fun hclose => h _ hclose (by decide)⟩
  · rintro ⟨hopen, hclose⟩ c hc hbrace
    rcases of_decide_eq_true hbrace with rfl | rfl
    · exact hopen hc
    · exact hclose hc

/-- One character: it is an opening brace, a closing brace, or no brace. -/
theorem braces_singleton_cases (c : Char) :
    (c = '{' ∧ braces [c] = ['{']) ∨ (c = '}' ∧ braces [c] = ['}']) ∨
      (c ≠ '{' ∧ c ≠ '}' ∧ braces [c] = []) := by
  by_cases hopen : c = '{'
  · subst hopen
    exact .inl ⟨rfl, rfl⟩
  · by_cases hclose : c = '}'
    · subst hclose
      exact .inr (.inl ⟨rfl, rfl⟩)
    · refine .inr (.inr ⟨hopen, hclose, braces_eq_nil_iff.mpr ⟨?_, ?_⟩⟩)
      · simpa using Ne.symm hopen
      · simpa using Ne.symm hclose

theorem alternating_nil (before : Nat) : Alternating before [] :=
  fun i c h => by cases h

theorem alternating_singleton_iff {before : Nat} {c : Char} :
    Alternating before [c] ↔ c = braceAt before := by
  constructor
  · intro h
    have hfirst := h 0 c rfl
    rwa [Nat.zero_add] at hfirst
  · rintro rfl i c hi
    cases i with
    | zero =>
      cases hi
      rw [Nat.zero_add]
    | succ i => cases hi

theorem alternating_append_iff {before : Nat} {bs bs' : Text} :
    Alternating before (bs ++ bs') ↔
      Alternating before bs ∧ Alternating (before + bs.length) bs' := by
  constructor
  · intro h
    refine ⟨fun i c hi => ?_, fun i c hi => ?_⟩
    · have hlt := (List.getElem?_eq_some_iff.mp hi).1
      exact h i c (by rwa [List.getElem?_append_left hlt])
    · have hwhole := h (bs.length + i) c (by
        rwa [List.getElem?_append_right (Nat.le_add_right ..), Nat.add_sub_cancel_left])
      rw [hwhole]
      congr 1
      omega
  · rintro ⟨hfirst, hsecond⟩ i c hi
    by_cases hlt : i < bs.length
    · rw [List.getElem?_append_left hlt] at hi
      exact hfirst i c hi
    · have hle := Nat.le_of_not_lt hlt
      rw [List.getElem?_append_right hle] at hi
      rw [hsecond _ c hi]
      congr 1
      omega

/-- Alternating braces end inside of a block if there is an odd number of them. -/
theorem getLast?_eq_open_iff {bs : Text} (h : Alternating 0 bs) :
    bs.getLast? = some '{' ↔ bs.length % 2 = 1 := by
  rcases List.eq_nil_or_concat' bs with rfl | ⟨front, last, rfl⟩
  · decide
  · have hlast := alternating_singleton_iff.mp (alternating_append_iff.mp h).2
    rw [Nat.zero_add] at hlast
    rw [List.getLast?_concat, List.length_append, List.length_singleton, hlast, braceAt]
    split
    · simp only [true_iff]
      omega
    · have hne : some '}' ≠ some '{' := by decide
      simp only [hne, false_iff]
      omega

/-- The braces of a text alternate, or one of them is the first that breaks the alternation. -/
theorem alternating_or_breaks (t : Text) :
    Alternating 0 (braces t) ∨ ∃ c position, BreaksAt t c position := by
  induction t using List.reverseRecOn with
  | nil => exact .inl (alternating_nil 0)
  | append_singleton front c ih =>
    rcases ih with hfront | ⟨b, position, before, after, rfl, hposition, hbefore, hbreak⟩
    · by_cases hwhole : Alternating 0 (braces (front ++ [c]))
      · exact .inl hwhole
      · exact .inr ⟨c, _, front, [], rfl, rfl, hfront, hwhole⟩
    · refine .inr ⟨b, position, before, after ++ [c], ?_, hposition, hbefore, hbreak⟩
      rw [List.append_assoc, List.cons_append]

end Text

open Text in
/-- **When an error applies to a template.**  A misplaced brace is the first that breaks the
alternation; a block is not closed where no brace does and the last one opens a block. -/
def BlockError.Applies (t : Text) : BlockError → Prop
  | .unexpectedStart position => BreaksAt t '{' position
  | .unexpectedEnd position => BreaksAt t '}' position
  | .unclosed => Alternating 0 (braces t) ∧ (braces t).getLast? = some '{'

namespace Segment

open Text (Alternating BreaksAt braceAt braces byteLength)

/-! ## Whether a scan succeeds -/

/-- Whether a scan succeeds, and the error if it does not. -/
def outcome {α : Type} (scanned : Except BlockError α) : Except BlockError Unit :=
  scanned.map fun _ => ()

theorem outcome_map {α β : Type} (f : α → β) (scanned : Except BlockError α) :
    outcome (scanned.map f) = outcome scanned := by
  cases scanned <;> rfl

theorem outcome_eq_ok_iff {α : Type} {scanned : Except BlockError α} :
    outcome scanned = .ok () ↔ ∃ a, scanned = .ok a := by
  cases scanned with
  | error e => exact ⟨fun h => (by cases h), fun ⟨_, h⟩ => (by cases h)⟩
  | ok a => exact ⟨fun _ => ⟨a, rfl⟩, fun _ => rfl⟩

theorem outcome_eq_error_iff {α : Type} {scanned : Except BlockError α} {e : BlockError} :
    outcome scanned = .error e ↔ scanned = .error e := by
  cases scanned with
  | error e' => exact ⟨fun h => (by cases h; rfl), fun h => (by cases h; rfl)⟩
  | ok a => exact ⟨fun h => (by cases h), fun h => (by cases h)⟩

/-- The kind of the segment that is being read behind a number of alternating braces. -/
def kindBehind (count : Nat) : SegmentKind :=
  if count % 2 = 0 then .always else .block

/-- The error for a brace where it does not belong. -/
def misplaced (c : Char) (position : Nat) : BlockError :=
  if c = '{' then .unexpectedStart position else .unexpectedEnd position

/-- One character that does not break the alternation: the scan goes on. -/
theorem outcome_scan_cons {count position : Nat} {c : Char} (rest : Text)
    (h : Alternating count (braces [c])) :
    outcome (scan (kindBehind count) position (c :: rest)) =
      outcome (scan (kindBehind (count + (braces [c]).length)) (position + c.utf8Size) rest) := by
  rcases Text.braces_singleton_cases c with ⟨rfl, hbraces⟩ | ⟨rfl, hbraces⟩ |
    ⟨hopen, hclose, hbraces⟩
  · rw [hbraces, Text.alternating_singleton_iff, braceAt] at h
    have heven : count % 2 = 0 := by
      by_contra hodd
      rw [if_neg hodd] at h
      cases h
    have hodd : ¬ (count + 1) % 2 = 0 := by omega
    rw [hbraces, kindBehind, kindBehind, List.length_singleton, if_pos heven, if_neg hodd,
      scan_open, outcome_map]
    rfl
  · rw [hbraces, Text.alternating_singleton_iff, braceAt] at h
    have hodd : ¬ count % 2 = 0 := by
      intro heven
      rw [if_pos heven] at h
      cases h
    have heven : (count + 1) % 2 = 0 := by omega
    rw [hbraces, kindBehind, kindBehind, List.length_singleton, if_neg hodd, if_pos heven,
      scan_close, outcome_map]
    rfl
  · rw [hbraces, scan_plain _ _ _ hopen hclose, outcome_map]
    rfl

/-- A character that breaks the alternation is a brace, and the scan fails there. -/
theorem outcome_scan_misplaced {count : Nat} (position : Nat) {c : Char} (rest : Text)
    (h : ¬ Alternating count (braces [c])) :
    outcome (scan (kindBehind count) position (c :: rest)) = .error (misplaced c position) ∧
      (c = '{' ∨ c = '}') := by
  rcases Text.braces_singleton_cases c with ⟨rfl, hbraces⟩ | ⟨rfl, hbraces⟩ |
    ⟨hopen, hclose, hbraces⟩
  · rw [hbraces, Text.alternating_singleton_iff, braceAt] at h
    have hodd : ¬ count % 2 = 0 := fun heven => h (by rw [if_pos heven])
    rw [kindBehind, if_neg hodd]
    exact ⟨rfl, .inl rfl⟩
  · rw [hbraces, Text.alternating_singleton_iff, braceAt] at h
    have heven : count % 2 = 0 := by
      by_contra hodd
      exact h (by rw [if_neg hodd])
    rw [kindBehind, if_pos heven]
    exact ⟨rfl, .inr rfl⟩
  · rw [hbraces] at h
    exact absurd (Text.alternating_nil count) h

/-- **Reading on past alternating braces**: whether the scan succeeds is decided behind them. -/
theorem outcome_scan_append {count : Nat} (position : Nat) {front : Text} (rest : Text)
    (h : Alternating count (braces front)) :
    outcome (scan (kindBehind count) position (front ++ rest)) =
      outcome (scan (kindBehind (count + (braces front).length)) (position + byteLength front)
        rest) := by
  induction front generalizing count position with
  | nil => rfl
  | cons c more ih =>
    have hsplit : braces (c :: more) = braces [c] ++ braces more := Text.braces_append [c] more
    rw [hsplit] at h
    obtain ⟨hhead, hmore⟩ := Text.alternating_append_iff.mp h
    rw [List.cons_append, outcome_scan_cons _ hhead, ih _ hmore, hsplit, List.length_append,
      Text.byteLength_cons, Nat.add_assoc, Nat.add_assoc]

theorem outcome_split (t : Text) : outcome (split t) = outcome (scan (kindBehind 0) 0 t) := by
  rw [split, kindBehind]
  exact outcome_map _ (scan .always 0 t)

/-- The end of a text whose braces alternate. -/
theorem outcome_split_of_alternating {t : Text} (h : Alternating 0 (braces t)) :
    outcome (split t) =
      if (braces t).getLast? = some '{' then .error .unclosed else .ok () := by
  have hscan := outcome_scan_append 0 [] h
  rw [List.append_nil, Nat.zero_add, Nat.zero_add] at hscan
  rw [outcome_split, hscan, kindBehind]
  simp only [Text.getLast?_eq_open_iff h]
  by_cases hodd : (braces t).length % 2 = 1
  · rw [if_pos hodd, if_neg (by omega)]
    rfl
  · rw [if_neg hodd, if_pos (by omega)]
    rfl

/-- The first brace that breaks the alternation. -/
theorem split_of_breaksAt {t : Text} {c : Char} {position : Nat} (h : BreaksAt t c position) :
    split t = .error (misplaced c position) ∧ (c = '{' ∨ c = '}') := by
  obtain ⟨before, after, rfl, rfl, hbefore, hbreak⟩ := h
  rw [Text.braces_append, Text.alternating_append_iff, not_and] at hbreak
  obtain ⟨herror, hbrace⟩ :=
    outcome_scan_misplaced (0 + byteLength before) after (hbreak hbefore)
  refine ⟨outcome_eq_error_iff.mp ?_, hbrace⟩
  rw [outcome_split, outcome_scan_append _ _ hbefore, herror, Nat.zero_add]

/-- **The verdict on a template**: it is accepted, or an error applies to it and is reported. -/
theorem split_verdict (t : Text) :
    (Alternating 0 (braces t) ∧ (braces t).getLast? ≠ some '{' ∧
      ∃ segments, split t = .ok segments) ∨
    ∃ e : BlockError, e.Applies t ∧ split t = .error e := by
  rcases Text.alternating_or_breaks t with halternating | ⟨c, position, hbreak⟩
  · have houtcome := outcome_split_of_alternating halternating
    split at houtcome
    · rename_i hopen
      exact .inr ⟨.unclosed, ⟨halternating, hopen⟩, outcome_eq_error_iff.mp houtcome⟩
    · rename_i hclosed
      exact .inl ⟨halternating, hclosed, outcome_eq_ok_iff.mp houtcome⟩
  · obtain ⟨herror, rfl | rfl⟩ := split_of_breaksAt hbreak
    · exact .inr ⟨.unexpectedStart position, hbreak, herror⟩
    · exact .inr ⟨.unexpectedEnd position, hbreak, herror⟩

/-- A template is accepted if its braces alternate and the last one closes a block. -/
theorem exists_split_eq_ok_iff {t : Text} :
    (∃ segments, split t = .ok segments) ↔
      Alternating 0 (braces t) ∧ (braces t).getLast? ≠ some '{' := by
  constructor
  · rintro ⟨segments, hok⟩
    rcases split_verdict t with ⟨halternating, hclosed, -⟩ | ⟨e, -, herror⟩
    · exact ⟨halternating, hclosed⟩
    · rw [herror] at hok
      cases hok
  · rintro ⟨halternating, hclosed⟩
    have houtcome := outcome_split_of_alternating halternating
    rw [if_neg hclosed] at houtcome
    exact outcome_eq_ok_iff.mp houtcome

/-- An error is reported if it applies. -/
theorem split_eq_error_iff {t : Text} {e : BlockError} : split t = .error e ↔ e.Applies t := by
  constructor
  · intro herror
    rcases split_verdict t with ⟨-, -, segments, hok⟩ | ⟨e', happlies, herror'⟩
    · rw [herror] at hok
      cases hok
    · rw [herror] at herror'
      cases herror'
      exact happlies
  · intro happlies
    cases e with
    | unexpectedStart position => exact (split_of_breaksAt happlies).1
    | unexpectedEnd position => exact (split_of_breaksAt happlies).1
    | unclosed =>
      obtain ⟨halternating, hopen⟩ := happlies
      have houtcome := outcome_split_of_alternating halternating
      rw [if_pos hopen] at houtcome
      exact outcome_eq_error_iff.mp houtcome

/-! ## Putting segments together again -/

/-- What stands before the text of a segment. -/
def opening (s : Segment) : Text :=
  match s.kind with
  | .always => []
  | .block => ['{']

/-- What stands behind the text of a segment of some kind. -/
def closing : SegmentKind → Text
  | .always => []
  | .block => ['}']

/-- A segment as it stands in a template: the text of a block in braces, other text as it is. -/
def enclosed (s : Segment) : Text :=
  s.opening ++ s.text ++ closing s.kind

/-- **Re-assembly**: all segments as they stand in a template, in order. -/
def reassembled (segments : List Segment) : Text :=
  segments.flatMap enclosed

theorem reassembled_cons (s : Segment) (later : List Segment) :
    reassembled (s :: later) = s.enclosed ++ reassembled later := rfl

/-- **A cut of a template**: what is true of the segments of a text that begins at a position. -/
structure IsCut (start : Nat) (segments : List Segment) : Prop where
  /-- No text has braces. -/
  braceless : ∀ s ∈ segments, '{' ∉ s.text ∧ '}' ∉ s.text
  /-- Text outside of blocks is not empty. -/
  nonempty : ∀ s ∈ segments, s.kind = .always → s.text ≠ []
  /-- No two texts outside of blocks stand side by side. -/
  separate : segments.IsChain fun s s' => ¬ (s.kind = .always ∧ s'.kind = .always)
  /-- Each offset is the place of the text: behind all segments before it. -/
  placed : ∀ before s after, segments = before ++ s :: after →
    s.offset = start + byteLength (reassembled before ++ s.opening)

theorem isCut_nil (start : Nat) : IsCut start [] where
  braceless := by simp
  nonempty := by simp
  separate := .nil
  placed before s after h := by simp at h

/-- A cut, told by its first segment. -/
theorem isCut_cons_iff {start : Nat} {s : Segment} {later : List Segment} :
    IsCut start (s :: later) ↔
      ('{' ∉ s.text ∧ '}' ∉ s.text) ∧ (s.kind = .always → s.text ≠ []) ∧
      (∀ s' ∈ later.head?, ¬ (s.kind = .always ∧ s'.kind = .always)) ∧
      s.offset = start + byteLength s.opening ∧
      IsCut (start + byteLength s.enclosed) later := by
  constructor
  · intro h
    obtain ⟨hhead, hlater⟩ := List.isChain_cons.mp h.separate
    refine ⟨h.braceless s (List.mem_cons_self ..), h.nonempty s (List.mem_cons_self ..), hhead,
      h.placed [] s later rfl, ?_⟩
    refine ⟨fun s' hs' => h.braceless s' (List.mem_cons_of_mem _ hs'),
      fun s' hs' => h.nonempty s' (List.mem_cons_of_mem _ hs'), hlater, ?_⟩
    rintro before s' after rfl
    have hplaced := h.placed (s :: before) s' after rfl
    rw [hplaced, reassembled_cons, List.append_assoc, Text.byteLength_append, Nat.add_assoc]
  · rintro ⟨hbraceless, hnonempty, hhead, hoffset, h⟩
    refine ⟨List.forall_mem_cons.mpr ⟨hbraceless, h.braceless⟩,
      List.forall_mem_cons.mpr ⟨hnonempty, h.nonempty⟩,
      List.isChain_cons.mpr ⟨hhead, h.separate⟩, ?_⟩
    intro before s' after hsegments
    cases before with
    | nil =>
      cases hsegments
      exact hoffset
    | cons first before =>
      cases hsegments
      rw [h.placed before s' after rfl, reassembled_cons, List.append_assoc,
        Text.byteLength_append _ (reassembled before ++ s'.opening), Nat.add_assoc]

/-- Text in front of segments that do not begin with such text themselves. -/
theorem isCut_consAlways {start : Nat} {text : Text} {later : List Segment}
    (hbraceless : '{' ∉ text ∧ '}' ∉ text) (hhead : ∀ s ∈ later.head?, s.kind = .block)
    (h : IsCut (start + byteLength text) later) : IsCut start (consAlways text start later) := by
  unfold consAlways
  split
  · rename_i hnil
    rwa [hnil] at h
  · rename_i hne
    have henclosed : enclosed ⟨text, .always, start⟩ = text := List.append_nil text
    refine isCut_cons_iff.mpr ⟨hbraceless, fun _ => hne, ?_, rfl, by rwa [henclosed]⟩
    rintro s hs ⟨-, halways⟩
    rw [hhead s hs] at halways
    cases halways

theorem reassembled_consAlways (text : Text) (start : Nat) (later : List Segment) :
    reassembled (consAlways text start later) = text ++ reassembled later := by
  unfold consAlways
  split
  · rename_i hnil
    rw [hnil, List.nil_append]
  · rw [reassembled_cons, enclosed, opening, closing, List.append_nil, List.nil_append]

/-! ## Splitting cuts a template -/

/-- **What a scan has cut**: the text up to the end of the segment being read, and behind it a cut
of all the rest. -/
structure HasCut (kind : SegmentKind) (position : Nat) (t text : Text) (later : List Segment) :
    Prop where
  /-- The text of the segment being read has no braces. -/
  braceless : '{' ∉ text ∧ '}' ∉ text
  /-- Text outside of blocks ends at a block. -/
  head : kind = .always → ∀ s ∈ later.head?, s.kind = .block
  /-- The rest is cut. -/
  cut : IsCut (position + byteLength (text ++ closing kind)) later
  /-- All together is the text that was read. -/
  whole : text ++ closing kind ++ reassembled later = t

theorem hasCut_of_scan {kind : SegmentKind} {position : Nat} {t text : Text}
    {later : List Segment} (h : scan kind position t = .ok (text, later)) :
    HasCut kind position t text later := by
  induction t generalizing kind position text later with
  | nil =>
    cases kind with
    | block => cases h
    | always =>
      cases h
      exact ⟨by simp, fun _ s hs => (by cases hs), isCut_nil _, rfl⟩
  | cons c rest ih =>
    rcases scan_cases h with ⟨rfl, rfl, rfl, inner, after, hscan, rfl⟩ |
      ⟨rfl, rfl, rfl, next, after, hscan, rfl⟩ | ⟨hopen, hclose, more, hscan, rfl⟩
    · -- an opening brace: what was read inside becomes a block
      obtain ⟨hbraceless, -, hcut, hwhole⟩ := ih hscan
      refine ⟨by simp, ?_, ?_, ?_⟩
      · rintro - s ⟨⟩
        rfl
      · refine isCut_cons_iff.mpr ⟨hbraceless, fun h => (by cases h), ?_, rfl, ?_⟩
        · rintro s - ⟨⟨⟩, -⟩
        · rw [Nat.add_assoc] at hcut
          exact hcut
      · rw [← hwhole]
        exact congrArg ('{' :: ·) rfl
    · -- a closing brace: what was read behind it is text outside of blocks
      obtain ⟨hbraceless, hhead, hcut, hwhole⟩ := ih hscan
      rw [closing, List.append_nil] at hcut hwhole
      refine ⟨by simp, fun h => (by cases h), ?_, ?_⟩
      · exact isCut_consAlways hbraceless (hhead rfl) hcut
      · rw [reassembled_consAlways, hwhole]
        rfl
    · obtain ⟨hbraceless, hhead, hcut, hwhole⟩ := ih hscan
      refine ⟨?_, hhead, ?_, ?_⟩
      · simp [hbraceless, Ne.symm hopen, Ne.symm hclose]
      · rw [List.cons_append, Text.byteLength_cons, ← Nat.add_assoc]
        exact hcut
      · rw [List.cons_append, List.cons_append, hwhole]

/-- Scanning a re-assembly finds the segments again. -/
theorem scan_reassembled {start : Nat} {segments : List Segment} (h : IsCut start segments) :
    ∃ text later, scan .always start (reassembled segments) = .ok (text, later) ∧
      consAlways text start later = segments := by
  induction segments generalizing start with
  | nil => exact ⟨[], [], rfl, rfl⟩
  | cons s rest ih =>
    obtain ⟨⟨hopen, hclose⟩, hnonempty, hhead, hoffset, hrest⟩ := isCut_cons_iff.mp h
    obtain ⟨text, later, hscan, hsegments⟩ := ih hrest
    have hwhole := reassembled_cons s rest
    obtain ⟨t, kind, offset⟩ := s
    cases kind with
    | always =>
      -- no text can follow, for it would stand side by side with this one
      have hnil : text = [] := by
        by_contra hne
        rw [consAlways, if_neg hne] at hsegments
        subst hsegments
        exact hhead _ rfl ⟨rfl, rfl⟩
      have hlater : later = rest := by rw [← hsegments, consAlways, if_pos hnil]
      have henclosed : enclosed ⟨t, .always, offset⟩ = t := List.append_nil t
      cases hoffset
      rw [henclosed] at hscan hwhole
      refine ⟨t, rest, ?_, if_neg (hnonempty rfl)⟩
      rw [hwhole, scan_append_plain _ _ hopen hclose, hscan, hnil, hlater]
      simp only [Except.map, List.append_nil]
    | block =>
      have henclosed : enclosed ⟨t, .block, offset⟩ = '{' :: (t ++ ['}']) := rfl
      have hstop : start + byteLength (enclosed ⟨t, .block, offset⟩) =
          start + 1 + byteLength t + 1 := by
        rw [henclosed, Text.byteLength_cons, Text.byteLength_append]
        simp only [Text.byteLength_cons, Text.byteLength_nil]
        rw [show '{'.utf8Size = 1 from rfl, show '}'.utf8Size = 1 from rfl]
        omega
      have hplace : offset = start + 1 := hoffset
      rw [hstop] at hscan hsegments
      refine ⟨[], ⟨t, .block, offset⟩ :: rest, ?_, rfl⟩
      rw [hwhole, henclosed, List.cons_append, List.append_assoc, List.singleton_append, scan_open,
        scan_block rfl hopen hclose, hscan, hplace]
      simp only [Except.map, hsegments]

/-- **Splitting and re-assembly are inverse to each other**, between the templates that are accepted
and the cuts. -/
theorem split_eq_ok_iff_isCut {t : Text} {segments : List Segment} :
    split t = .ok segments ↔ IsCut 0 segments ∧ reassembled segments = t := by
  rw [split_eq_ok_iff]
  constructor
  · rintro ⟨text, later, hscan, rfl⟩
    obtain ⟨hbraceless, hhead, hcut, hwhole⟩ := hasCut_of_scan hscan
    rw [closing, List.append_nil] at hcut hwhole
    exact ⟨isCut_consAlways hbraceless (hhead rfl) hcut,
      (reassembled_consAlways text 0 later).trans hwhole⟩
  · rintro ⟨hcut, rfl⟩
    exact scan_reassembled hcut

/-- **Splitting is lossless and accepts exactly the block grammar.**  A template is accepted if its
braces alternate and the last one is not an opening brace.  It is then cut into the one list of
segments that is a cut and gives the template when put together again.  Otherwise the error is the
one that applies: it names the first brace that breaks the alternation and its position in bytes, or
it says that a block is not closed, where no brace breaks the alternation and the last one opens a
block. -/
theorem split_accepts_grammar_and_loses_nothing (t : Text) :
    ((∃ segments, split t = .ok segments) ↔
      Alternating 0 (braces t) ∧ (braces t).getLast? ≠ some '{') ∧
    (∀ segments, split t = .ok segments ↔ IsCut 0 segments ∧ reassembled segments = t) ∧
    (∀ e : BlockError, split t = .error e ↔ e.Applies t) :=
  ⟨exists_split_eq_ok_iff, fun _ => split_eq_ok_iff_isCut, fun _ => split_eq_error_iff⟩

end Segment

end QueryTemplate
