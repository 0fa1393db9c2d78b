import QueryTemplate.Proofs.ByteBoundaries
import QueryTemplate.Proofs.Questions
import QueryTemplate.Proofs.Substitution

/-!
# Slices of a text

A text can be sliced by two byte positions, and a slice has an answer only where it is safe: where
the positions are in order and within the text, and both lie between two characters
(`Text.isSome_slice?_iff`).  The answer then has just the bytes between the two positions
(`Text.bytes_of_slice?`).

`Text.nextPlaceholder` looks for the next placeholder of a text by byte positions: it finds the
first question mark, slices the text behind it, and looks at one character there.  It always has an
answer, and from one placeholder to the next it finds the tokens of the text (`Text.Scans`).
-/

namespace QueryTemplate

namespace Text

theorem cut?_eq_some_iff {n : Nat} {t before after : Text} :
    cut? n t = some (before, after) ↔ t = before ++ after ∧ byteLength before = n := by
  constructor
  · intro h
    induction t generalizing n before with
    | nil =>
      cases n with
      | zero =>
        cases h
        exact ⟨rfl, rfl⟩
      | succ n => cases h
    | cons c rest ih =>
      by_cases hzero : n = 0
      · subst hzero
        cases h
        exact ⟨rfl, rfl⟩
      · obtain ⟨m, rfl⟩ := Nat.exists_eq_succ_of_ne_zero hzero
        by_cases hroom : c.utf8Size ≤ m + 1
        · rw [cut?_cons rest hroom, Option.map_eq_some_iff] at h
          obtain ⟨⟨front, back⟩, hcut, heq⟩ := h
          cases heq
          obtain ⟨rfl, hlength⟩ := ih hcut
          refine ⟨rfl, ?_⟩
          rw [byteLength_cons]
          omega
        · rw [cut?, if_neg hroom] at h
          cases h
  · rintro ⟨rfl, rfl⟩
    exact cut?_byteLength_append before after

/-! ## Slices -/

/-- **The slice of a text** between two byte positions. -/
def slice? (start stop : Nat) (t : Text) : Option Text := do
  let (front, _) ← t.cut? stop
  let (_, middle) ← front.cut? start
  return middle

section Slices
variable {start stop : Nat} {t slice : Text}

theorem slice?_eq_some_iff :
    slice? start stop t = some slice ↔ ∃ before after, t = before ++ slice ++ after ∧
      byteLength before = start ∧ byteLength (before ++ slice) = stop := by
  simp only [slice?, Option.bind_eq_bind, Option.bind_eq_some_iff, Option.pure_def, Prod.exists,
    cut?_eq_some_iff, Option.some.injEq]
  constructor
  · rintro ⟨front, after, ⟨rfl, hstop⟩, before, middle, ⟨rfl, hstart⟩, rfl⟩
    exact ⟨before, after, rfl, hstart, hstop⟩
  · rintro ⟨before, after, rfl, hstart, hstop⟩
    exact ⟨before ++ slice, after, ⟨rfl, hstop⟩, before, slice, ⟨rfl, hstart⟩, rfl⟩

/-- **A slice is safe** exactly if its ends are in order, within the text and between characters. -/
theorem isSome_slice?_iff :
    (slice? start stop t).isSome = true ↔ start ≤ stop ∧ stop ≤ byteLength t ∧
      isBoundary t start = true ∧ isBoundary t stop = true := by
  rw [Option.isSome_iff_exists]
  constructor
  · rintro ⟨slice, hslice⟩
    obtain ⟨before, after, rfl, rfl, rfl⟩ := slice?_eq_some_iff.mp hslice
    refine ⟨by simp, by simp, ?_, isBoundary_append (before ++ slice) after⟩
    rw [List.append_assoc]
    exact isBoundary_append before _
  · rintro ⟨hle, -, hstart, hstop⟩
    obtain ⟨before, others, rfl, rfl⟩ := isBoundary_iff.mp hstart
    obtain ⟨front, after, heq, rfl⟩ := isBoundary_iff.mp hstop
    -- of two starts of a text, the one that takes fewer bytes is a start of the other
    have hprefix : before <+: front := by
      rcases List.prefix_or_prefix_of_prefix (List.prefix_append before others)
        ⟨after, heq.symm⟩ with h | ⟨more, rfl⟩
      · exact h
      · rw [byteLength_append] at hle
        cases more with
        | nil => simp
        | cons c more =>
          rw [byteLength_cons] at hle
          have hpos := c.utf8Size_pos
          omega
    obtain ⟨slice, rfl⟩ := hprefix
    exact ⟨slice, slice?_eq_some_iff.mpr ⟨before, after, heq, rfl, rfl⟩⟩

/-- **A slice has the bytes between its ends.** -/
theorem bytes_of_slice? (h : slice? start stop t = some slice) :
    bytes slice = ((bytes t).take stop).drop start := by
  obtain ⟨before, after, rfl, rfl, rfl⟩ := slice?_eq_some_iff.mp h
  rw [take_bytes_append, drop_bytes_append]

end Slices

/-- A part of a text is a slice. -/
theorem slice?_append (before slice after : Text) :
    slice? (byteLength before) (byteLength before + byteLength slice)
      (before ++ (slice ++ after)) = some slice :=
  slice?_eq_some_iff.mpr ⟨before, after, (List.append_assoc ..).symm, rfl, byteLength_append ..⟩

theorem slice?_prefix (front after : Text) :
    slice? 0 (byteLength front) (front ++ after) = some front :=
  slice?_eq_some_iff.mpr ⟨[], after, rfl, rfl, rfl⟩

/-- **The slice up to the end.** -/
def sliceFrom? (start : Nat) (t : Text) : Option Text :=
  t.slice? start (byteLength t)

/-- A slice up to the end is what is left of a text. -/
theorem sliceFrom?_eq_some_iff {start : Nat} {t back : Text} :
    sliceFrom? start t = some back ↔ ∃ front, t = front ++ back ∧ byteLength front = start := by
  constructor
  · intro h
    obtain ⟨front, after, rfl, hstart, hstop⟩ := slice?_eq_some_iff.mp h
    cases after with
    | nil => exact ⟨front, List.append_nil _, hstart⟩
    | cons c after =>
      have hpos := c.utf8Size_pos
      simp only [byteLength_append, byteLength_cons] at hstop
      omega
  · rintro ⟨front, rfl, rfl⟩
    exact slice?_eq_some_iff.mpr ⟨front, [], (List.append_nil _).symm, rfl, rfl⟩

/-! ## The next placeholder -/

/-- The byte position of the first question mark. -/
def questionMark? (t : Text) : Option Nat :=
  if '?' ∈ t then some (byteLength (t.takeWhile (· ≠ '?'))) else none

/-- **The next placeholder**: the byte position of its question mark and what that demands; nothing
if there is no question mark.  It is found by slicing, which must have an answer. -/
def nextPlaceholder (t : Text) : Option (Option (Nat × Demand)) :=
  match t.questionMark? with
  | none => some none
  | some position =>
    (t.sliceFrom? (position + 1)).map fun behind =>
      some (position, Specifier.demand behind.head?)

theorem questionMark?_of_not_mem {t : Text} (h : '?' ∉ t) : questionMark? t = none :=
  if_neg h

theorem nextPlaceholder_of_not_mem {t : Text} (h : '?' ∉ t) : nextPlaceholder t = some none := by
  rw [nextPlaceholder, questionMark?_of_not_mem h]

theorem questionMark?_append {plain : Text} (hplain : '?' ∉ plain) (behind : Text) :
    questionMark? (plain ++ '?' :: behind) = some (byteLength plain) := by
  have hmem : '?' ∈ plain ++ '?' :: behind := by simp
  have htake : (plain ++ '?' :: behind).takeWhile (· ≠ '?') = plain := by
    rw [List.takeWhile_append_of_pos]
    · simp
    · intro c hc
      exact decide_eq_true fun heq => hplain (heq ▸ hc)
  rw [questionMark?, if_pos hmem, htake]

theorem nextPlaceholder_append {plain : Text} (hplain : '?' ∉ plain) (behind : Text) :
    nextPlaceholder (plain ++ '?' :: behind) =
      some (some (byteLength plain, Specifier.demand behind.head?)) := by
  have hslice : sliceFrom? (byteLength plain + 1) (plain ++ '?' :: behind) = some behind :=
    sliceFrom?_eq_some_iff.mpr ⟨plain ++ ['?'], by simp, byteLength_append ..⟩
  rw [nextPlaceholder, questionMark?_append hplain]
  dsimp only
  rw [hslice]
  rfl

/-- Looking for the next placeholder never fails. -/
theorem isSome_nextPlaceholder (t : Text) : (nextPlaceholder t).isSome = true := by
  by_cases hmem : '?' ∈ t
  · obtain ⟨plain, behind, rfl, hplain⟩ := List.eq_append_cons_of_mem hmem
    rw [nextPlaceholder_append hplain]
    rfl
  · rw [nextPlaceholder_of_not_mem hmem]
    rfl

end Text

/-! ## Tokens and placeholders -/

namespace Token

theorem ofText_cons_of_ne {c : Char} (h : c ≠ '?') (rest : Text) :
    ofText (c :: rest) = .literal c :: ofText rest := by
  rw [ofText.eq_def]
  exact if_neg h

/-- Characters in front of the first question mark are literal. -/
theorem ofText_append_of_not_mem {plain : Text} (hplain : '?' ∉ plain) (rest : Text) :
    ofText (plain ++ rest) = plain.map .literal ++ ofText rest := by
  induction plain with
  | nil => rfl
  | cons c more ih =>
    obtain ⟨hc, hmore⟩ := not_or.mp (List.mem_cons.not.mp hplain)
    rw [List.cons_append, ofText_cons_of_ne (Ne.symm hc), ih hmore]
    rfl

theorem ofText_of_not_mem {plain : Text} (hplain : '?' ∉ plain) :
    ofText plain = plain.map .literal := by
  have happend := ofText_append_of_not_mem hplain []
  rwa [List.append_nil, ofText, List.append_nil] at happend

/-- A question mark that demands a conversion begins a hole. -/
theorem exists_ofText_hole {behind : Text} {s : Specifier}
    (h : Specifier.demand behind.head? = .ok s) :
    ∃ after, '?' :: behind = s.text ++ after ∧
      ofText ('?' :: behind) = .hole s :: ofText after := by
  cases behind with
  | nil =>
    cases h
    exact ⟨[], rfl, rfl⟩
  | cons next later =>
    have hselected : Specifier.ofNext? (some next) = some s := by
      rw [List.head?_cons, Specifier.demand] at h
      cases hnext : Specifier.ofNext? (some next) with
      | none => simp [hnext] at h
      | some s' => simpa [hnext] using h
    by_cases hs : s = .escaped
    · refine ⟨next :: later, by rw [hs]; rfl, ?_⟩
      simp [ofText, hselected, hs]
    · refine ⟨later, by rw [Specifier.text_of_ofNext? hselected hs]; rfl, ?_⟩
      simp [ofText, hselected, hs]

/-- A question mark before an unsupported character is a token of its own. -/
theorem ofText_unknown {behind : Text} {next : Char}
    (h : Specifier.demand behind.head? = .error next) :
    ofText ('?' :: behind) = .unknown next :: ofText behind := by
  cases behind with
  | nil => cases h
  | cons c later =>
    rw [List.head?_cons, Specifier.demand] at h
    cases hnext : Specifier.ofNext? (some c) with
    | some s => simp [hnext] at h
    | none =>
      simp only [hnext, Except.error.injEq] at h
      subst h
      simp [ofText, hnext]

end Token

namespace Text

/-- **A text, from one placeholder to the next**: there is no question mark in it; or the first one
stands before an unsupported character; or it begins a placeholder, and so on behind that.  Looking
for the next placeholder and reading the tokens find the same. -/
inductive Scans : Text → Prop
  /-- There is no question mark. -/
  | plain {t : Text} (hplain : '?' ∉ t) : Scans t
  /-- The first question mark stands before an unsupported character. -/
  | unsupported {t plain behind : Text} {next : Char} (hplain : '?' ∉ plain)
    (hfound : nextPlaceholder t = some (some (byteLength plain, .error next)))
    (htokens : Token.ofText t = plain.map .literal ++ .unknown next :: Token.ofText behind) :
    Scans t
  /-- The first question mark begins a placeholder. -/
  | hole {plain after : Text} {s : Specifier} (hplain : '?' ∉ plain)
    (hfound : nextPlaceholder (plain ++ (s.text ++ after)) = some (some (byteLength plain, .ok s)))
    (htokens : Token.ofText (plain ++ (s.text ++ after)) =
      plain.map .literal ++ .hole s :: Token.ofText after)
    (later : Scans after) : Scans (plain ++ (s.text ++ after))

/-- **Every text is like that.** -/
theorem scans (t : Text) : Scans t := by
  induction hlength : t.length using Nat.strong_induction_on generalizing t with
  | h n ih =>
    by_cases hmem : '?' ∈ t
    · obtain ⟨plain, behind, rfl, hplain⟩ := List.eq_append_cons_of_mem hmem
      have hfound := nextPlaceholder_append hplain behind
      have htokens := Token.ofText_append_of_not_mem hplain ('?' :: behind)
      cases hdemand : Specifier.demand behind.head? with
      | error next =>
        rw [hdemand] at hfound
        rw [Token.ofText_unknown hdemand] at htokens
        exact .unsupported hplain hfound htokens
      | ok s =>
        obtain ⟨after, hafter, hhole⟩ := Token.exists_ofText_hole hdemand
        rw [hdemand] at hfound
        rw [hhole] at htokens
        rw [hafter] at hfound htokens hlength ⊢
        refine .hole hplain hfound htokens (ih after.length ?_ after rfl)
        rw [← hlength, List.length_append, List.length_append, Specifier.text, List.length_cons]
        omega
    · exact .plain hmem

/-- The text behind a placeholder. -/
theorem sliceFrom?_placeholder (plain : Text) (s : Specifier) (after : Text) :
    sliceFrom? (byteLength plain + s.width) (plain ++ (s.text ++ after)) = some after := by
  refine sliceFrom?_eq_some_iff.mpr ⟨plain ++ s.text, by simp, ?_⟩
  rw [byteLength_append, Specifier.byteLength_text]

/-- **What is passed is one question mark**, and therefore something. -/
def PassesOne (before after : Text) : Prop :=
  ∃ passed, before = passed ++ after ∧ 1 ≤ byteLength passed ∧ passed.count '?' = 1

/-- A placeholder has one question mark. -/
theorem passesOne_placeholder {plain : Text} (hplain : '?' ∉ plain) (s : Specifier)
    (after : Text) : PassesOne (plain ++ (s.text ++ after)) after := by
  refine ⟨plain ++ s.text, (List.append_assoc ..).symm, ?_, ?_⟩
  · rw [byteLength_append, Specifier.text, byteLength_cons]
    have hpos := Char.utf8Size_pos '?'
    omega
  · have htext : s.text.count '?' = 1 := by cases s <;> rfl
    rw [List.count_append, List.count_eq_zero_of_not_mem hplain, htext]

end Text

end QueryTemplate
