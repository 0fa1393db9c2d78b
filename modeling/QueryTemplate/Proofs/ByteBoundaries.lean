import Mathlib.Order.Bounds.Basic
import QueryTemplate.Text

/-!
# Boundaries between characters

Offsets are counted in bytes of UTF-8, but a text may be cut between two characters only.  Whether a
byte position is such a place can be seen from the byte that stands there: it must be the first byte
of a character, or there must be none because the text ends (`Text.isBoundary`).  This module shows
that the test on bytes does what it is meant to do: a position passes it if and only if some
characters at the start of the text take just as many bytes (`Text.isBoundary_iff`).

A position that fails the test can be moved back until it passes.  `Text.boundaryUpTo` looks for the
place step by step, and finds the last boundary that is not behind the position
(`Text.isGreatest_boundaryUpTo`).
-/

namespace QueryTemplate.Text

/-- The bytes of a text in UTF-8. -/
def bytes (t : Text) : List UInt8 :=
  t.flatMap String.utf8EncodeChar

@[simp] theorem bytes_cons (c : Char) (t : Text) :
    bytes (c :: t) = String.utf8EncodeChar c ++ bytes t := rfl

@[simp] theorem bytes_append (s t : Text) : bytes (s ++ t) = bytes s ++ bytes t :=
  List.flatMap_append

@[simp] theorem length_bytes (t : Text) : (bytes t).length = byteLength t := by
  induction t with
  | nil => rfl
  | cons c rest ih => simp [ih]

/-- The bytes of the first characters of a text are its first bytes. -/
theorem take_bytes_append (front back : Text) :
    (bytes (front ++ back)).take (byteLength front) = bytes front := by
  rw [bytes_append, ← length_bytes front, List.take_left]

/-- The bytes of the other characters are its other bytes. -/
theorem drop_bytes_append (front back : Text) :
    (bytes (front ++ back)).drop (byteLength front) = bytes back := by
  rw [bytes_append, ← length_bytes front, List.drop_left]

/-- A byte of the ASCII range is a character by itself. -/
theorem toNat_eq_of_mem_utf8EncodeChar {c : Char} {b : UInt8} (hb : b ∈ String.utf8EncodeChar c)
    (hascii : b.toNat < 128) : c.toNat = b.toNat := by
  have hvalue : c.val.toNat = c.toNat := rfl
  unfold String.utf8EncodeChar at hb
  simp only [hvalue] at hb
  split_ifs at hb with h1 h2 h3
  · rw [List.mem_singleton] at hb
    subst hb
    rw [UInt8.toNat_ofNat'] at hascii ⊢
    omega
  all_goals
    simp only [List.mem_cons, List.not_mem_nil, or_false] at hb
    have hlarge : 128 ≤ b.toNat := by
      rcases hb with rfl | rfl | rfl | rfl <;> rw [UInt8.toNat_ofNat'] <;> omega
    omega

/-- Looking for the byte of an ASCII character does not find any other character. -/
theorem ne_toUInt8_of_mem_utf8EncodeChar {c d : Char} {b : UInt8}
    (hb : b ∈ String.utf8EncodeChar c) (hne : c ≠ d) (hd : d.toNat < 128) : b ≠ d.toUInt8 := by
  rintro rfl
  have hbyte : d.toUInt8.toNat = d.toNat := by
    rw [Char.toUInt8, UInt32.toNat_toUInt8]
    exact Nat.mod_eq_of_lt (Nat.lt_trans hd (by decide))
  have hsame := toNat_eq_of_mem_utf8EncodeChar hb (by omega)
  exact hne (Char.toNat_inj.mp (hsame.trans hbyte))

/-- The bytes behind the first characters are the bytes of the other characters. -/
theorem getElem?_bytes_append (front back : Text) (i : Nat) :
    (bytes (front ++ back))[byteLength front + i]? = (bytes back)[i]? := by
  rw [bytes_append, List.getElem?_append_right (by simp), length_bytes, Nat.add_sub_cancel_left]

/-- **Whether a byte position lies between two characters**, at the start or at the end: a character
begins with the byte that stands there, or the text ends there. -/
def isBoundary (t : Text) (n : Nat) : Bool :=
  match (bytes t)[n]? with
  | some b => b.IsUTF8FirstByte
  | none => n = byteLength t

theorem isBoundary_nil_iff {n : Nat} : isBoundary [] n = true ↔ n = 0 :=
  decide_eq_true_iff

/-- Within the first character there is no boundary but the start. -/
theorem isBoundary_cons_of_lt {c : Char} {rest : Text} {n : Nat} (hlt : n < c.utf8Size) :
    isBoundary (c :: rest) n = true ↔ n = 0 := by
  have hlength : n < (String.utf8EncodeChar c).length := by
    rwa [String.length_utf8EncodeChar]
  have hbyte : (bytes (c :: rest))[n]? = (String.utf8EncodeChar c)[n]? :=
    List.getElem?_append_left hlength
  rw [isBoundary, hbyte, List.getElem?_eq_getElem hlength]
  exact decide_eq_true_iff.trans UInt8.isUTF8FirstByte_getElem_utf8EncodeChar

/-- Behind the first character, the boundaries are those of the other characters. -/
theorem isBoundary_cons_of_le {c : Char} {rest : Text} {n : Nat} (hle : c.utf8Size ≤ n) :
    isBoundary (c :: rest) n = isBoundary rest (n - c.utf8Size) := by
  have hbyte : (bytes (c :: rest))[n]? = (bytes rest)[n - c.utf8Size]? := by
    rw [bytes_cons, List.getElem?_append_right (by simpa using hle), String.length_utf8EncodeChar]
  have hend : n = byteLength (c :: rest) ↔ n - c.utf8Size = byteLength rest := by
    rw [byteLength_cons]
    omega
  simp only [isBoundary, hbyte, hend]

theorem isBoundary_zero (t : Text) : isBoundary t 0 = true := by
  cases t with
  | nil => rfl
  | cons c rest => exact (isBoundary_cons_of_lt c.utf8Size_pos).mpr rfl

/-- **Boundaries are what they are meant to be**: the characters in front of one take as many bytes
as its position says. -/
theorem isBoundary_iff {t : Text} {n : Nat} :
    isBoundary t n = true ↔ ∃ front back, t = front ++ back ∧ byteLength front = n := by
  induction t generalizing n with
  | nil =>
    rw [isBoundary_nil_iff]
    constructor
    · intro h
      exact ⟨[], [], rfl, h.symm⟩
    · rintro ⟨front, back, h, rfl⟩
      rw [(List.append_eq_nil_iff.mp h.symm).1]
      rfl
  | cons c rest ih =>
    constructor
    · intro h
      rcases Nat.lt_or_ge n c.utf8Size with hlt | hle
      · have hzero := (isBoundary_cons_of_lt hlt).mp h
        exact ⟨[], c :: rest, rfl, hzero.symm⟩
      · rw [isBoundary_cons_of_le hle] at h
        obtain ⟨front, back, hrest, hlength⟩ := ih.mp h
        refine ⟨c :: front, back, by rw [hrest, List.cons_append], ?_⟩
        rw [byteLength_cons]
        omega
    · rintro ⟨front, back, h, rfl⟩
      cases front with
      | nil => exact isBoundary_zero _
      | cons first front =>
        obtain ⟨rfl, hrest⟩ := List.cons.inj h
        rw [isBoundary_cons_of_le (by simp), byteLength_cons, Nat.add_sub_cancel_left]
        exact ih.mpr ⟨front, back, hrest, rfl⟩

theorem isBoundary_append (front back : Text) :
    isBoundary (front ++ back) (byteLength front) = true :=
  isBoundary_iff.mpr ⟨front, back, rfl, rfl⟩

/-! ## Moving back to a boundary -/

/-- **The search for a boundary**, from a position backwards. -/
def boundaryUpTo (t : Text) : Nat → Nat
  | 0 => 0
  | n + 1 => if isBoundary t (n + 1) then n + 1 else boundaryUpTo t n

/-- The search finds the last boundary that is not behind the position. -/
theorem isGreatest_boundaryUpTo (t : Text) (n : Nat) :
    IsGreatest {k | k ≤ n ∧ isBoundary t k = true} (boundaryUpTo t n) := by
  induction n with
  | zero => exact ⟨⟨Nat.le_refl 0, isBoundary_zero t⟩, fun k hk => hk.1⟩
  | succ n ih =>
    rw [boundaryUpTo]
    by_cases hboundary : isBoundary t (n + 1) = true
    · rw [if_pos hboundary]
      exact ⟨⟨Nat.le_refl _, hboundary⟩, fun k hk => hk.1⟩
    · rw [if_neg hboundary]
      obtain ⟨⟨hle, hfound⟩, hlast⟩ := ih
      refine ⟨⟨Nat.le_succ_of_le hle, hfound⟩, ?_⟩
      rintro k ⟨hk, hkBoundary⟩
      have hne : k ≠ n + 1 := fun h => hboundary (h ▸ hkBoundary)
      exact hlast ⟨by omega, hkBoundary⟩

end QueryTemplate.Text
