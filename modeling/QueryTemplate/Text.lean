/-!
# Text

Everything this library reads and writes — templates, arguments, SQL, command lines — is a list of
characters.  Offsets and limits are counted in **bytes of UTF-8**, because that is the unit in which
an editor or a log reports them; `byteLength` is the measure, and it is additive
(`byteLength_append`), so offsets can be added up along a text.

A text that is too long for its place is **clipped**: `clip` keeps the longest run of whole
characters that fits and marks the cut with three full stops.
-/

namespace QueryTemplate

/-- A text is a list of characters. -/
abbrev Text := List Char

namespace Text

/-- The length of a text in bytes of UTF-8. -/
def byteLength : Text → Nat
  | [] => 0
  | c :: rest => c.utf8Size + byteLength rest

@[simp] theorem byteLength_nil : byteLength [] = 0 := rfl

@[simp] theorem byteLength_cons (c : Char) (t : Text) :
    byteLength (c :: t) = c.utf8Size + byteLength t := rfl

@[simp] theorem byteLength_append (s t : Text) :
    byteLength (s ++ t) = byteLength s + byteLength t := by
  induction s with
  | nil => simp
  | cons c rest ih => rw [List.cons_append, byteLength_cons, byteLength_cons, ih, Nat.add_assoc]

/-- The longest run of whole characters at the start of a text that takes at most `room` bytes. -/
def fitting (room : Nat) : Text → Text
  | [] => []
  | c :: rest => if c.utf8Size ≤ room then c :: fitting (room - c.utf8Size) rest else []

theorem byteLength_fitting_le (room : Nat) (t : Text) : byteLength (fitting room t) ≤ room := by
  induction t generalizing room with
  | nil => simp [fitting]
  | cons c rest ih =>
    rw [fitting]
    split
    · rename_i fits
      have := ih (room - c.utf8Size)
      rw [byteLength_cons]
      omega
    · simp

/-- The mark that stands for what was cut off. -/
def ellipsis : Text := ['.', '.', '.']

/-- **Clipping.**  A text within the limit is left alone; a longer one is cut to the characters
that fit, and the cut is marked.  Without a limit nothing is cut. -/
def clip (limit : Option Nat) (t : Text) : Text :=
  match limit with
  | none => t
  | some room => if byteLength t ≤ room then t else fitting room t ++ ellipsis

theorem clip_none (t : Text) : clip none t = t := rfl

theorem clip_of_byteLength_le {room : Nat} {t : Text} (h : byteLength t ≤ room) :
    clip (some room) t = t := by
  simp [clip, h]

/-- A text in which every ASCII capital is replaced by its small letter; no other character
changes, so names are compared without regard to ASCII case only. -/
def asciiLowercase (t : Text) : Text :=
  t.map Char.toLower

end Text

end QueryTemplate
