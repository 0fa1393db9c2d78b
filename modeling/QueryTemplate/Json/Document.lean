import QueryTemplate.Json.Number
import QueryTemplate.Number.Hexadecimal

/-!
# Reading JSON

`Json.read?` reads a whole text as one value, strictly by the standard: no text before or after it
but blanks, no comments, no comma at the end of a list, no control characters in strings, and no
half of a surrogate pair on its own.  Containers may be nested up to `Json.maxDepth` deep.

`readArguments` reads the arguments of a template, which are the items of an array.
-/

namespace QueryTemplate.Json

/-- How deep arrays and objects may be nested. -/
def maxDepth : Nat := 127

/-- The blanks that may stand between the parts of a document. -/
def isBlank (c : Char) : Bool :=
  c = ' ' || c = '\t' || c = '\n' || c = '\x0d'

/-- Skips blanks. -/
def blanks : Reader Unit := do
  let _ ← Reader.takeWhile isBlank

/-! ## Strings -/

/-- A code unit of four hexadecimal digits. -/
def codeUnit : Reader Nat := do
  return hexNumber (← Reader.takeExactly isHexDigit 4)

/-- The character that a code unit stands for, together with the unit after it if it is the first
half of a surrogate pair. -/
def unicodeEscape : Reader Char := do
  let unit ← codeUnit
  if 0xD800 ≤ unit ∧ unit < 0xDC00 then
    Reader.exactly ['\x5c', 'u']
    let low ← codeUnit
    if 0xDC00 ≤ low ∧ low < 0xE000 then
      return Char.ofNat (0x10000 + (unit - 0xD800) * 0x400 + (low - 0xDC00))
    else failure
  else if 0xDC00 ≤ unit ∧ unit < 0xE000 then failure
  else return Char.ofNat unit

/-- The character that an escape stands for, after its backslash. -/
def escapedChar : Reader Char := do
  match ← Reader.next with
  | '\x22' => return '\x22'
  | '\x5c' => return '\x5c'
  | '/' => return '/'
  | 'b' => return '\x08'
  | 'f' => return '\x0c'
  | 'n' => return '\n'
  | 'r' => return '\x0d'
  | 't' => return '\t'
  | 'u' => unicodeEscape
  | _ => failure

/-- One character of a string; none at the closing quote. -/
def stringChar : Reader (Option Char) := do
  let c ← Reader.next
  if c = '\x22' then return none
  else if c = '\x5c' then some <$> escapedChar
  else if c < ' ' then failure
  else return some c

/-- The text of a string in quotes. -/
def stringText : Reader Text := do
  Reader.char '\x22'
  Reader.many stringChar

/-! ## Values -/

/-- Items with commas between them, up to a closing character. -/
def itemsUntil {α : Type} (item : Reader α) (close : Char) : Reader (List α) := do
  blanks
  if ← Reader.charIfNext close then return []
  let first ← item
  blanks
  let rest ← Reader.many do
    if ← Reader.charIfNext ',' then
      blanks
      let a ← item
      blanks
      return some a
    else return none
  Reader.char close
  return first :: rest

/-- A member of an object. -/
def memberOf (value : Reader Json) : Reader (Text × Json) := do
  let name ← stringText
  blanks
  Reader.char ':'
  blanks
  return (name, ← value)

/-- A value that holds no others. -/
def scalar : Reader Json := do
  match ← Reader.peek with
  | some 'n' => Reader.exactly ['n', 'u', 'l', 'l']; return .null
  | some 't' => Reader.exactly ['t', 'r', 'u', 'e']; return .bool true
  | some 'f' => Reader.exactly ['f', 'a', 'l', 's', 'e']; return .bool false
  | some '\x22' => .string <$> stringText
  | _ =>
    match (← Literal.read).toJson? with
    | some j => return j
    | none => failure

/-- A value in which containers are nested at most as deep as the bound says. -/
def value : Nat → Reader Json
  | 0 => scalar
  | depth + 1 => do
    match ← Reader.peek with
    | some '[' => Reader.char '['; .array <$> itemsUntil (value depth) ']'
    | some '\x7b' => Reader.char '\x7b'; ofMembers <$> itemsUntil (memberOf (value depth)) '\x7d'
    | _ => scalar

/-- **The value that a text writes.** -/
def read? (t : Text) : Option Json :=
  Reader.readAll? (do blanks; let j ← value maxDepth; blanks; return j) t

end QueryTemplate.Json

namespace QueryTemplate

/-- Why a text does not give arguments. -/
inductive ArgumentsError where
  /-- It is not a JSON document. -/
  | notJson
  /-- It is a document, but not an array. -/
  | notArray
  deriving DecidableEq

/-- **The arguments that a text writes**: the items of a JSON array. -/
def readArguments (t : Text) : Except ArgumentsError (List Argument) :=
  match Json.read? t with
  | some (.array items) => .ok (Json.toArguments items)
  | some _ => .error .notArray
  | none => .error .notJson

end QueryTemplate
