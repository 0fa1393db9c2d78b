import QueryTemplate.Proofs.ByteBoundaries
import QueryTemplate.Templater

/-!
# What clipping keeps

A text that is too long for the log is clipped to the characters that fit.  They are counted off
from the start (`Text.fitting`), one by one, as long as there is room.  What is kept is the longest
start of the text that has whole characters only and fits into the limit (`Text.IsLongestFitting`):
every other one is a start of it.  It therefore ends at the last boundary that is not behind the
limit, the place that a search backwards from the limit comes to (`Text.boundaryUpTo`), and since a
character takes at most four bytes, at most three bytes of the limit are left unused.
-/

namespace QueryTemplate

namespace Text

/-- **The longest start of a text that fits** into some room and has whole characters only. -/
structure IsLongestFitting (room : Nat) (t q : Text) : Prop where
  /-- The text begins with it. -/
  start : q <+: t
  /-- It fits. -/
  fits : byteLength q ≤ room
  /-- Any other start that fits is a start of it. -/
  longest : ∀ p, p <+: t → byteLength p ≤ room → p <+: q

theorem fitting_isPrefix (room : Nat) (t : Text) : fitting room t <+: t := by
  induction t generalizing room with
  | nil => exact List.nil_prefix
  | cons c rest ih =>
    rw [fitting]
    split
    · exact List.cons_prefix_cons.mpr ⟨rfl, ih _⟩
    · exact List.nil_prefix

/-- What fits is counted off before the room is used up. -/
theorem isPrefix_fitting {room : Nat} {t p : Text} (hp : p <+: t) (hroom : byteLength p ≤ room) :
    p <+: fitting room t := by
  induction t generalizing room p with
  | nil => exact hp
  | cons c rest ih =>
    cases p with
    | nil => exact List.nil_prefix
    | cons first p =>
      obtain ⟨rfl, hrest⟩ := List.cons_prefix_cons.mp hp
      rw [byteLength_cons] at hroom
      rw [fitting, if_pos (by omega)]
      exact List.cons_prefix_cons.mpr ⟨rfl, ih hrest (by omega)⟩

/-- Counting off the characters that fit gives the longest start that fits. -/
theorem isLongestFitting_fitting (room : Nat) (t : Text) :
    IsLongestFitting room t (fitting room t) where
  start := fitting_isPrefix room t
  fits := byteLength_fitting_le room t
  longest _ := isPrefix_fitting

section IsLongestFitting
variable {room : Nat} {t q : Text}

/-- At most three bytes are left unused, for the next character would have fitted into four. -/
theorem IsLongestFitting.sub_three_le (h : IsLongestFitting room t q)
    (hlong : room < byteLength t) : room - 3 ≤ byteLength q := by
  obtain ⟨rest, rfl⟩ := h.start
  cases rest with
  | nil =>
    have hfits := h.fits
    rw [List.append_nil] at hlong
    omega
  | cons c rest =>
    have hnext : room < byteLength (q ++ [c]) := by
      apply Nat.lt_of_not_le
      intro hfits
      have hlonger := h.longest (q ++ [c]) ⟨rest, by simp⟩ hfits
      have hle := hlonger.length_le
      rw [List.length_append, List.length_singleton] at hle
      omega
    have hsize := c.utf8Size_le_four
    rw [byteLength_append, byteLength_cons, byteLength_nil] at hnext
    omega

/-- It ends where the search for a boundary, backwards from the limit, comes to an end. -/
theorem IsLongestFitting.byteLength_eq (h : IsLongestFitting room t q) :
    byteLength q = boundaryUpTo t room := by
  have hgreatest : IsGreatest {k | k ≤ room ∧ isBoundary t k = true} (byteLength q) := by
    obtain ⟨rest, hrest⟩ := h.start
    refine ⟨⟨h.fits, isBoundary_iff.mpr ⟨q, rest, hrest.symm, rfl⟩⟩, ?_⟩
    rintro k ⟨hk, hboundary⟩
    obtain ⟨front, back, rfl, rfl⟩ := isBoundary_iff.mp hboundary
    obtain ⟨more, rfl⟩ := h.longest front (List.prefix_append ..) hk
    rw [byteLength_append]
    omega
  exact hgreatest.unique (isGreatest_boundaryUpTo t room)

/-- Its bytes are the bytes in front of that boundary. -/
theorem IsLongestFitting.bytes_eq (h : IsLongestFitting room t q) :
    bytes q = (bytes t).take (boundaryUpTo t room) := by
  obtain ⟨rest, hrest⟩ := h.start
  rw [← h.byteLength_eq, ← hrest, take_bytes_append]

end IsLongestFitting

theorem clip_of_lt_byteLength {room : Nat} {t : Text} (h : room < byteLength t) :
    clip (some room) t = fitting room t ++ ellipsis := by
  simp [clip, Nat.not_le_of_lt h]

end Text

namespace Templater

open Text (IsLongestFitting boundaryUpTo byteLength bytes clip fitting)

/-- **The log shows whole characters, and as many as fit.**  Without a limit, or within it, a text
is shown as it is.  A longer one is shown as the longest start that has whole characters only and
fits, with three full stops behind it.  That start ends at the last boundary up to the limit and
leaves at most three bytes of it unused. -/
theorem clipForLog_keeps_whole_characters (t : Templater) (s : Text) :
    (t.config.logLimit = none → t.clipForLog s = s) ∧
    ∀ m : UInt64, t.config.logLimit = some m →
      (byteLength s ≤ m.toNat → t.clipForLog s = s) ∧
      (m.toNat < byteLength s → ∃ q, t.clipForLog s = q ++ ['.', '.', '.'] ∧
        IsLongestFitting m.toNat s q ∧
        m.toNat - 3 ≤ byteLength q ∧ byteLength q ≤ m.toNat ∧
        byteLength q = boundaryUpTo s m.toNat ∧
        bytes q = (bytes s).take (boundaryUpTo s m.toNat)) := by
  constructor
  · intro hlimit
    rw [clipForLog, hlimit]
    exact Text.clip_none s
  · intro m hlimit
    have hclip : t.clipForLog s = clip (some m.toNat) s := by
      rw [clipForLog, hlimit, Option.map_some]
    rw [hclip]
    constructor
    · intro hfits
      exact Text.clip_of_byteLength_le hfits
    · intro hlong
      have hlongest := Text.isLongestFitting_fitting m.toNat s
      exact ⟨fitting m.toNat s, Text.clip_of_lt_byteLength hlong, hlongest,
        hlongest.sub_three_le hlong, hlongest.fits, hlongest.byteLength_eq, hlongest.bytes_eq⟩

/-- A limit in the middle of a character drops it, a limit of zero leaves the full stops alone, and
a text that just fits is shown as it is. -/
theorem clipForLog_in_the_middle :
    (∃ q, (forDialect .mysql ⟨.error, some 3⟩).clipForLog ['ё', 'ё'] = q ++ ['.', '.', '.'] ∧
      byteLength q = 2) ∧
    (∃ q, (forDialect .mysql ⟨.error, some 0⟩).clipForLog ['𐍈'] = q ++ ['.', '.', '.'] ∧
      byteLength q = 0) ∧
    (forDialect .mysql ⟨.error, some 4⟩).clipForLog ['ё', 'ё'] = ['ё', 'ё'] ∧
    (forDialect .mysql ⟨.error, none⟩).clipForLog ['ё', 'ё'] = ['ё', 'ё'] := by
  refine ⟨?_, ?_, ?_, ?_⟩
  · have hclipped := ((clipForLog_keeps_whole_characters (forDialect .mysql ⟨.error, some 3⟩)
      ['ё', 'ё']).2 3 rfl).2 (by decide)
    obtain ⟨q, hq, -, -, -, hend, -⟩ := hclipped
    exact ⟨q, hq, hend.trans (by decide)⟩
  · have hclipped := ((clipForLog_keeps_whole_characters (forDialect .mysql ⟨.error, some 0⟩)
      ['𐍈']).2 0 rfl).2 (by decide)
    obtain ⟨q, hq, -, -, -, hend, -⟩ := hclipped
    exact ⟨q, hq, hend.trans (by decide)⟩
  · exact ((clipForLog_keeps_whole_characters (forDialect .mysql ⟨.error, some 4⟩)
      ['ё', 'ё']).2 4 rfl).1 (by decide)
  · exact (clipForLog_keeps_whole_characters (forDialect .mysql ⟨.error, none⟩) ['ё', 'ё']).1 rfl

end Templater

end QueryTemplate
