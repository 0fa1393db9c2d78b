import QueryTemplate.Text

/-!
# Readers

A `Reader α` reads a value from the start of a text: it either fails or gives the value together
with the text that follows.  Readers are put together in `do` blocks, and `<|>` tries a second
reader where a first one failed, from the same place.

Repetition is bounded by the length of the text (`Reader.many`), so every reader terminates; an
item that consumes something can never exhaust that bound.
-/

namespace QueryTemplate

/-- **A reader**: from a text to a value and the rest of the text, or to failure. -/
abbrev Reader (α : Type) := StateT Text Option α

namespace Reader

variable {α : Type}

/-- The next character, consumed. -/
def next : Reader Char := do
  match ← get with
  | c :: rest => set rest; return c
  | [] => failure

/-- The next character, left in place; nothing at the end of the text. -/
def peek : Reader (Option Char) := do
  return (← get).head?

/-- One character that satisfies a test. -/
def satisfying (p : Char → Bool) : Reader Char := do
  let c ← next
  if p c then return c else failure

/-- One particular character. -/
def char (c : Char) : Reader Unit := do
  let _ ← satisfying (· = c)

/-- Consumes a particular character if it comes next, and tells whether it did. -/
def charIfNext (c : Char) : Reader Bool := do
  if (← peek) = some c then
    let _ ← next
    return true
  else return false

/-- One particular text. -/
def exactly (t : Text) : Reader Unit := do
  t.forM char

/-- As many characters as satisfy a test. -/
def takeWhile (p : Char → Bool) : Reader Text := do
  let t ← get
  set (t.dropWhile p)
  return t.takeWhile p

/-- As many characters as satisfy a test, but at least one. -/
def takeWhile1 (p : Char → Bool) : Reader Text := do
  let t ← takeWhile p
  if t = [] then failure else return t

/-- Exactly as many characters as asked for, all of which satisfy a test. -/
def takeExactly (p : Char → Bool) : Nat → Reader Text
  | 0 => return []
  | n + 1 => return (← satisfying p) :: (← takeExactly p n)

/-- Reads items until the item reader answers that there is none, at most `bound` of them. -/
def repeatUpTo (item : Reader (Option α)) : Nat → Reader (List α)
  | 0 => failure
  | bound + 1 => do
    match ← item with
    | some a => return a :: (← repeatUpTo item bound)
    | none => return []

/-- Reads items until the item reader answers that there is none. -/
def many (item : Reader (Option α)) : Reader (List α) := do
  repeatUpTo item ((← get).length + 1)

/-- Reads an item if one can be read here. -/
def optional (item : Reader α) : Reader (Option α) :=
  (some <$> item) <|> return none

/-- Reads a whole text as one value, with nothing left over. -/
def readAll? (r : Reader α) (t : Text) : Option α :=
  match r.run t with
  | some (a, []) => some a
  | _ => none

end Reader

end QueryTemplate
