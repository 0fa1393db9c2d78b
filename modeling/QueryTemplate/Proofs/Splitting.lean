import QueryTemplate.Template.Segment

/-!
# What splitting reads

`Segment.scan` goes through a template once and learns at each character whether it is a brace.
Told for one character (`Segment.scan_cases`), a successful scan has met the end of the text outside
of blocks, a brace that may stand there, or any other character, and all else is induction along the
text.

Two facts about whole templates follow.  A scan that begins further on gives the same segments
further on (`Segment.scan_moved`).  And since no segment reaches across a brace, a block cuts a
template in parts that are split independently (`Segment.split_around_block`).
-/

namespace QueryTemplate

theorem map_eq_ok_iff {ε α β : Type} {f : α → β} {x : Except ε α} {b : β} :
    x.map f = .ok b ↔ ∃ a, x = .ok a ∧ f a = b := by
  cases x with
  | error e => exact ⟨fun h => (by cases h), fun ⟨_, h, _⟩ => (by cases h)⟩
  | ok a =>
    constructor
    · exact fun h => ⟨a, rfl, Except.ok.inj h⟩
    · rintro ⟨_, ⟨⟩, rfl⟩
      rfl

namespace Segment

/-! ## One character -/

theorem scan_open (position : Nat) (rest : Text) :
    scan .always position ('{' :: rest) =
      (scan .block (position + 1) rest).map fun (text, later) =>
        ([], ⟨text, .block, position + 1⟩ :: later) := rfl

theorem scan_close (position : Nat) (rest : Text) :
    scan .block position ('}' :: rest) =
      (scan .always (position + 1) rest).map fun (text, later) =>
        ([], consAlways text (position + 1) later) := rfl

theorem scan_plain (kind : SegmentKind) (position : Nat) {c : Char} (rest : Text)
    (hopen : c ≠ '{') (hclose : c ≠ '}') :
    scan kind position (c :: rest) =
      (scan kind (position + c.utf8Size) rest).map fun (text, later) => (c :: text, later) := by
  cases kind
  all_goals
    rw [scan, if_neg hopen, if_neg hclose]
    rfl

/-- **What a successful scan has read**: the end of the text, outside of blocks; or a brace that may
stand there; or any other character. -/
theorem scan_cases {kind : SegmentKind} {position : Nat} {c : Char} {rest text : Text}
    {later : List Segment} (h : scan kind position (c :: rest) = .ok (text, later)) :
    (c = '{' ∧ kind = .always ∧ text = [] ∧ ∃ inner after,
      scan .block (position + 1) rest = .ok (inner, after) ∧
        later = ⟨inner, .block, position + 1⟩ :: after) ∨
    (c = '}' ∧ kind = .block ∧ text = [] ∧ ∃ next after,
      scan .always (position + 1) rest = .ok (next, after) ∧
        later = consAlways next (position + 1) after) ∨
    (c ≠ '{' ∧ c ≠ '}' ∧ ∃ more,
      scan kind (position + c.utf8Size) rest = .ok (more, later) ∧ text = c :: more) := by
  -- a brace of the wrong kind ends the scan, so each brace leaves one kind of segment to consider
  by_cases hopen : c = '{'
  · subst hopen
    cases kind with
    | block => cases h
    | always =>
      rw [scan_open] at h
      obtain ⟨⟨inner, after⟩, hscan, hresult⟩ := map_eq_ok_iff.mp h
      cases hresult
      exact .inl ⟨rfl, rfl, rfl, inner, after, hscan, rfl⟩
  · by_cases hclose : c = '}'
    · subst hclose
      cases kind with
      | always => cases h
      | block =>
        rw [scan_close] at h
        obtain ⟨⟨next, after⟩, hscan, hresult⟩ := map_eq_ok_iff.mp h
        cases hresult
        exact .inr (.inl ⟨rfl, rfl, rfl, next, after, hscan, rfl⟩)
    · rw [scan_plain kind position rest hopen hclose] at h
      obtain ⟨⟨more, after⟩, hscan, hresult⟩ := map_eq_ok_iff.mp h
      cases hresult
      exact .inr (.inr ⟨hopen, hclose, more, hscan, rfl⟩)

/-! ## Moving a template -/

/-- A segment that stands further on in a longer template. -/
def moved (n : Nat) (s : Segment) : Segment :=
  { s with offset := s.offset + n }

theorem consAlways_append (text : Text) (offset : Nat) (later after : List Segment) :
    consAlways text offset (later ++ after) = consAlways text offset later ++ after := by
  unfold consAlways
  split <;> rfl

theorem map_consAlways (n : Nat) (text : Text) (offset : Nat) (later : List Segment) :
    (consAlways text offset later).map (moved n) =
      consAlways text (offset + n) (later.map (moved n)) := by
  unfold consAlways
  split <;> rfl

/-- Moving a text moves its segments. -/
theorem scan_moved (n : Nat) {kind : SegmentKind} {position : Nat} {t text : Text}
    {later : List Segment} (h : scan kind position t = .ok (text, later)) :
    scan kind (position + n) t = .ok (text, later.map (moved n)) := by
  induction t generalizing kind position text later with
  | nil =>
    cases kind with
    | block => cases h
    | always =>
      cases h
      rfl
  | cons c rest ih =>
    rcases scan_cases h with ⟨rfl, rfl, rfl, inner, after, hscan, rfl⟩ |
      ⟨rfl, rfl, rfl, next, after, hscan, rfl⟩ | ⟨hopen, hclose, more, hscan, rfl⟩
    · have hmoved := ih hscan
      rw [Nat.add_right_comm] at hmoved
      rw [scan_open, hmoved]
      simp only [Except.map, List.map_cons, moved, Nat.add_right_comm]
    · have hmoved := ih hscan
      rw [Nat.add_right_comm] at hmoved
      rw [scan_close, hmoved, map_consAlways, Nat.add_right_comm]
      rfl
    · have hmoved := ih hscan
      rw [Nat.add_right_comm] at hmoved
      rw [scan_plain kind _ rest hopen hclose, hmoved]
      rfl

/-! ## Splitting at a block -/

/-- Reading on past a text that ends outside of blocks, at the opening brace behind it. -/
theorem scan_append_open {kind : SegmentKind} {position stop : Nat} {t text : Text}
    {later : List Segment} (hstop : position + Text.byteLength t = stop)
    (h : scan kind position t = .ok (text, later)) (rest : Text) :
    scan kind position (t ++ '{' :: rest) =
      (scan .block (stop + 1) rest).map fun (inner, after) =>
        (text, later ++ ⟨inner, .block, stop + 1⟩ :: after) := by
  -- where the first text ends is the same for each of its tails, so `stop` stays fixed
  induction t generalizing kind position text later with
  | nil =>
    cases kind with
    | block => cases h
    | always =>
      cases h
      cases hstop
      exact scan_open position rest
  | cons c more ih =>
    rw [Text.byteLength_cons, ← Nat.add_assoc] at hstop
    rw [List.cons_append]
    rcases scan_cases h with ⟨rfl, rfl, rfl, inner, after, hscan, rfl⟩ |
      ⟨rfl, rfl, rfl, next, after, hscan, rfl⟩ | ⟨hopen, hclose, plain, hscan, rfl⟩
    · rw [scan_open, @ih .block (position + 1) _ _ hstop hscan]
      cases scan .block (stop + 1) rest <;> rfl
    · rw [scan_close, @ih .always (position + 1) _ _ hstop hscan]
      cases scan .block (stop + 1) rest with
      | error e => rfl
      | ok scanned => simp only [Except.map, consAlways_append]
    · rw [scan_plain kind position _ hopen hclose, ih hstop hscan]
      cases scan .block (stop + 1) rest <;> rfl

/-- Reading on past a text without braces. -/
theorem scan_append_plain (kind : SegmentKind) (position : Nat) {plain : Text}
    (hopen : '{' ∉ plain) (hclose : '}' ∉ plain) (rest : Text) :
    scan kind position (plain ++ rest) =
      (scan kind (position + Text.byteLength plain) rest).map fun (text, later) =>
        (plain ++ text, later) := by
  induction plain generalizing position with
  | nil =>
    rw [List.nil_append, Text.byteLength_nil, Nat.add_zero]
    cases scan kind position rest <;> rfl
  | cons c more ih =>
    rw [List.mem_cons, not_or] at hopen hclose
    rw [List.cons_append, scan_plain _ _ _ (Ne.symm hopen.1) (Ne.symm hclose.1),
      ih _ hopen.2 hclose.2, Text.byteLength_cons, Nat.add_assoc]
    cases scan kind (position + (c.utf8Size + Text.byteLength more)) rest <;> rfl

/-- Reading the interior of a block, up to the closing brace. -/
theorem scan_block {position stop : Nat} {inner : Text}
    (hstop : position + Text.byteLength inner = stop) (hopen : '{' ∉ inner)
    (hclose : '}' ∉ inner) (rest : Text) :
    scan .block position (inner ++ '}' :: rest) =
      (scan .always (stop + 1) rest).map fun (text, later) =>
        (inner, consAlways text (stop + 1) later) := by
  rw [scan_append_plain _ _ hopen hclose, hstop, scan_close]
  cases scan .always (stop + 1) rest with
  | error e => rfl
  | ok scanned => simp only [Except.map, List.append_nil]

/-- A text without braces is one stretch. -/
theorem scan_without_braces {position : Nat} {t : Text} (hopen : '{' ∉ t) (hclose : '}' ∉ t) :
    scan .always position t = .ok (t, []) := by
  have hscan := scan_append_plain .always position hopen hclose []
  rw [List.append_nil] at hscan
  rw [hscan]
  simp only [scan, Except.map, List.append_nil]

theorem split_eq_ok_iff {t : Text} {segments : List Segment} :
    split t = .ok segments ↔
      ∃ text later, scan .always 0 t = .ok (text, later) ∧
        consAlways text 0 later = segments := by
  rw [split]
  cases scan .always 0 t with
  | error e => exact ⟨fun h => (by cases h), fun ⟨_, _, h, _⟩ => (by cases h)⟩
  | ok scanned =>
    constructor
    · exact fun h => ⟨scanned.1, scanned.2, rfl, Except.ok.inj h⟩
    · rintro ⟨text, later, ⟨⟩, rfl⟩
      rfl

/-- **Splitting at a block.**  The segments of a template with a block in it are those of the text
before the block, the block, and those of the text after it, moved to where they stand. -/
theorem split_around_block {front inner back : Text} {before after : List Segment}
    (hfront : split front = .ok before) (hopen : '{' ∉ inner) (hclose : '}' ∉ inner)
    (hback : split back = .ok after) :
    split (front ++ '{' :: (inner ++ '}' :: back)) =
      .ok (before ++ ⟨inner, .block, Text.byteLength front + 1⟩ ::
        after.map (moved (Text.byteLength front + 1 + Text.byteLength inner + 1))) := by
  obtain ⟨frontText, frontLater, hfrontScan, rfl⟩ := split_eq_ok_iff.mp hfront
  obtain ⟨backText, backLater, hbackScan, rfl⟩ := split_eq_ok_iff.mp hback
  have hmoved := scan_moved (Text.byteLength front + 1 + Text.byteLength inner + 1) hbackScan
  rw [Nat.zero_add] at hmoved
  refine split_eq_ok_iff.mpr ⟨_, _, ?_, consAlways_append ..⟩
  rw [scan_append_open (Nat.zero_add _) hfrontScan, scan_block rfl hopen hclose, hmoved,
    map_consAlways, Nat.zero_add]
  rfl

/-- A text without braces, as a template. -/
theorem split_without_braces {t : Text} (hopen : '{' ∉ t) (hclose : '}' ∉ t) :
    split t = .ok (consAlways t 0 []) :=
  split_eq_ok_iff.mpr ⟨t, [], scan_without_braces hopen hclose, rfl⟩

end Segment

end QueryTemplate
