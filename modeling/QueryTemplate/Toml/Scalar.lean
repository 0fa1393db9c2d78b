import QueryTemplate.Number.Decimal
import QueryTemplate.Number.Hexadecimal
import QueryTemplate.Text.Reader
import QueryTemplate.Toml.Value

/-!
# Strings, numbers and dates in TOML

Strings stand between quotes of either kind, single or tripled.  Double quotes allow escapes and
single quotes do not; tripled quotes allow line ends, and up to two quotes right before the closing
ones.

Everything else that is not a container is one word (`Toml.wordValue?`): a truth value, an integer,
a float, or a date or time.  A word may have the shape of a number and yet denote none; it is a value
all the same (`Toml.badNumber`).
-/

namespace QueryTemplate.Toml

/-- The blanks within a line. -/
def isBlank (c : Char) : Bool :=
  c = ' ' || c = '\t'

/-- Skips blanks. -/
def blanks : Reader Unit := do
  let _ ← Reader.takeWhile isBlank

/-- The characters that may stand in a string or a comment: no control characters but the tab. -/
def isContent (c : Char) : Bool :=
  c = '\t' || (' ' ≤ c && c ≠ '\x7f')

/-- The end of a line, with or without a carriage return. -/
def newline : Reader Unit := do
  let _ ← Reader.charIfNext '\x0d'
  Reader.char '\n'

/-! ## Strings -/

/-- The character whose code point is written in a number of hexadecimal digits. -/
def codePoint (digits : Nat) : Reader Char := do
  match charOfCode? (hexNumber (← Reader.takeExactly isHexDigit digits)) with
  | some c => return c
  | none => failure

/-- The character that an escape stands for, after its backslash. -/
def escapedChar : Reader Char := do
  match ← Reader.next with
  | 'b' => return '\x08'
  | 't' => return '\t'
  | 'n' => return '\n'
  | 'f' => return '\x0c'
  | 'r' => return '\x0d'
  | 'e' => return '\x1b'
  | '\x22' => return '\x22'
  | '\x5c' => return '\x5c'
  | 'x' => codePoint 2
  | 'u' => codePoint 4
  | 'U' => codePoint 8
  | _ => failure

/-- A backslash at the end of a line: the line end, and all blank space after it, are left out. -/
def continuedLine : Reader Unit := do
  blanks
  newline
  let _ ← Reader.many (Reader.optional (Reader.satisfying isBlank *> pure () <|> newline))

/-- One character of a string on one line; none at the closing quote. -/
def lineChar (quote : Char) (escapes : Bool) : Reader (Option Char) := do
  let c ← Reader.next
  if c = quote then return none
  else if escapes ∧ c = '\x5c' then some <$> escapedChar
  else if isContent c then return some c
  else failure

/-- A piece of a string on several lines; none where the closing quotes begin. -/
def blockPiece (quote : Char) (escapes : Bool) : Reader (Option Text) := do
  match ← Reader.peek with
  | none => failure
  | some c =>
    if c = quote then
      if ([quote, quote, quote] : Text).isPrefixOf (← get) then return none
      else return some (← Reader.takeWhile (· = quote))
    else if c = '\x0d' ∨ c = '\n' then newline; return some ['\n']
    else
      let _ ← Reader.next
      if escapes ∧ c = '\x5c' then
        (continuedLine *> pure (some [])) <|> (do return some [← escapedChar])
      else if isContent c then return some [c]
      else failure

/-- The rest of a string on several lines, after its opening quotes.  Of the quotes at the end, the
last three close it and the others belong to it. -/
def blockText (quote : Char) (escapes : Bool) : Reader Text := do
  let _ ← Reader.optional newline
  let pieces ← Reader.many (blockPiece quote escapes)
  let quotes ← Reader.takeWhile (· = quote)
  if quotes.length ≤ 5 then return pieces.flatten ++ quotes.drop 3 else failure

/-- A string on one line, between quotes of one kind. -/
def lineString (quote : Char) (escapes : Bool) : Reader Text := do
  Reader.char quote
  Reader.many (lineChar quote escapes)

/-- A string between quotes of one kind, single or tripled. -/
def quotedString (quote : Char) (escapes : Bool) : Reader Text :=
  (Reader.exactly [quote, quote, quote] *> blockText quote escapes) <|> lineString quote escapes

/-! ## Numbers -/

/-- Whether every underscore in a text stands between two digits. -/
def isGrouped (isDigit : Char → Bool) (t : Text) : Bool :=
  t.head? ≠ some '_' && t.getLast? ≠ some '_' &&
    (t.zip t.tail).all fun (a, b) => (a ≠ '_' || isDigit b) && (b ≠ '_' || isDigit a)

/-- The digits of a number, at least one, in which single underscores may stand between two. -/
def digitGroups? (isDigit : Char → Bool) (t : Text) : Option Text :=
  let digits := t.filter (· ≠ '_')
  if digits ≠ [] ∧ digits.all isDigit ∧ isGrouped isDigit t then some digits else none

/-- Whether digits begin with a zero that more digits follow. -/
def hasLeadingZero (digits : Text) : Bool :=
  digits.head? = some '0' && digits ≠ ['0']

/-- Decimal digits without a leading zero. -/
def wholeDigits? (t : Text) : Option Text :=
  (digitGroups? Char.isDigit t).filter fun digits => !hasLeadingZero digits

/-- The number that digits denote in a base of at most sixteen. -/
def inBase (base : Nat) (digits : Text) : Int :=
  (digits.foldl (fun n c => base * n + (hexValue? c).getD 0) 0 : Nat)

/-- Whether a character is a digit in a base of at most sixteen. -/
def isDigitIn (base : Nat) (c : Char) : Bool :=
  match hexValue? c with
  | some v => v < base
  | none => false

/-- The integers that can be read: those of 128 bits, with a sign or without. -/
def InRange (i : Int) : Prop :=
  -(Nat.pow 2 127 : Int) ≤ i ∧ i < Nat.pow 2 128

instance (i : Int) : Decidable (InRange i) :=
  inferInstanceAs (Decidable (_ ∧ _))

/-- The value of a word that denotes an integer. -/
def ofInteger (i : Int) : Toml :=
  if InRange i then .integer i else .badNumber

/-- The value of an integer in a base other than ten, from what follows the mark of the base.  The
mark alone is a bad number. -/
def basedInteger? (base : Nat) (digits : Text) : Option Toml :=
  if digits = [] then some .badNumber
  else (digitGroups? (isDigitIn base) digits).map fun digits => ofInteger (inBase base digits)

/-- The value of an integer in base ten, with an optional sign.  From its first underscore on, such
a word may hold anything, as long as its underscores stand between digits of some base; it is a bad
number unless all of it is decimal. -/
def decimalInteger? (word : Text) : Option Toml :=
  let (negative, body) := splitSign word
  let afterDigits := (body.dropWhile Char.isDigit).head?
  if body ≠ [] ∧ !hasLeadingZero body ∧ isGrouped isHexDigit body ∧
      (afterDigits = none ∨ afterDigits = some '_') then
    let digits := body.filter (· ≠ '_')
    if digits.all Char.isDigit then some (ofInteger (signed negative (digitsValue digits)))
    else some .badNumber
  else none

/-- The exponent of a float without its underscores. -/
def exponentText? : Text → Option Text
  | [] => some []
  | 'e' :: rest | 'E' :: rest =>
    let mark := rest.takeWhile fun c => c = '+' || c = '-'
    if mark.length ≤ 1 then
      (digitGroups? Char.isDigit (rest.drop mark.length)).map fun digits => 'e' :: mark ++ digits
    else none
  | _ => none

/-- A float without its underscores: digits, then a fraction, an exponent or both. -/
def floatText? (unsignedWord : Text) : Option Text := do
  let inNumber (c : Char) := c.isDigit || c = '_'
  let whole ← wholeDigits? (unsignedWord.takeWhile inNumber)
  match unsignedWord.dropWhile inNumber with
  | '.' :: rest =>
    let fraction ← digitGroups? Char.isDigit (rest.takeWhile inNumber)
    return whole ++ '.' :: fraction ++ (← exponentText? (rest.dropWhile inNumber))
  | [] => none
  | rest => return whole ++ (← exponentText? rest)

/-- The value of a float with an optional sign.  One that is too large is a bad number; an infinity
must be written as such. -/
def float? (word : Text) : Option Toml :=
  let (negative, body) := splitSign word
  if body = ['i', 'n', 'f'] then some (.float (.infinite negative))
  else if body = ['n', 'a', 'n'] then some (.float .nan)
  else (floatText? body).map fun t =>
    match Decimal.readFinite? t with
    | some x => .float (.finite (if negative then x.negate else x))
    | none => .badNumber

/-- **The value of a number's word.**  A mark in front tells the base of an integer; a point or the
mark of an exponent tells a float. -/
def number? : Text → Option Toml
  | '0' :: 'x' :: digits => basedInteger? 16 digits
  | '0' :: 'o' :: digits => basedInteger? 8 digits
  | '0' :: 'b' :: digits => basedInteger? 2 digits
  | word =>
    if word.any fun c => c = '.' || c = 'e' || c = 'E' then float? word
    else decimalInteger? word <|> float? word

/-! ## Dates and times -/

/-- A number of exactly so many digits. -/
def fixedNumber (digits : Nat) : Reader Nat := do
  return digitsValue (← Reader.takeExactly Char.isDigit digits)

/-- A number of two digits between two bounds. -/
def twoDigits (least greatest : Nat) : Reader Unit := do
  let n ← fixedNumber 2
  unless least ≤ n ∧ n ≤ greatest do failure

/-- How many days a month has. -/
def daysInMonth (year month : Nat) : Nat :=
  if month = 2 then
    if year % 4 = 0 ∧ (year % 100 ≠ 0 ∨ year % 400 = 0) then 29 else 28
  else if month = 4 ∨ month = 6 ∨ month = 9 ∨ month = 11 then 30
  else 31

/-- A date. -/
def readDate : Reader Unit := do
  let year ← fixedNumber 4
  Reader.char '-'
  let month ← fixedNumber 2
  unless 1 ≤ month ∧ month ≤ 12 do failure
  Reader.char '-'
  twoDigits 1 (daysInMonth year month)

/-- A time of day; the seconds and their fraction may be left out. -/
def readTime : Reader Unit := do
  twoDigits 0 23
  Reader.char ':'
  twoDigits 0 59
  if ← Reader.charIfNext ':' then
    twoDigits 0 60
    if ← Reader.charIfNext '.' then
      let _ ← Reader.takeWhile1 Char.isDigit

/-- The offset of a time zone. -/
def readZone : Reader Unit := do
  match ← Reader.next with
  | 'Z' | 'z' => return
  | '+' | '-' =>
    twoDigits 0 23
    Reader.char ':'
    twoDigits 0 59
  | _ => failure

/-- A date, a date with a time and perhaps an offset, or a time. -/
def readDateTime : Reader Unit :=
  readTime <|> do
    readDate
    match ← Reader.peek with
    | none => return
    | some _ =>
      let _ ← Reader.satisfying fun c => c = 'T' || c = 't' || c = ' '
      readTime
      let _ ← Reader.optional readZone

/-- Whether a text is a date or time. -/
def isDateTime (t : Text) : Bool :=
  (Reader.readAll? readDateTime t).isSome

/-- Whether a text is a date and nothing more. -/
def isDate (t : Text) : Bool :=
  (Reader.readAll? readDate t).isSome

/-! ## Words -/

/-- **The value that a word writes.** -/
def wordValue? (word : Text) : Option Toml :=
  if word = "true".toList then some (.boolean true)
  else if word = "false".toList then some (.boolean false)
  else if isDateTime word then some (.dateTime word)
  else number? word

/-- The characters of a word: all but blanks, line ends and the marks that part values. -/
def isWordChar (c : Char) : Bool :=
  !isBlank c && c ∉ ['\n', '\x0d', '=', ',', '[', ']', '\x7b', '\x7d', '#']

/-- A word.  A date may be followed by a single space and a time, which then belong to it. -/
def word : Reader Text := do
  let first ← Reader.takeWhile isWordChar
  match ← get with
  | ' ' :: c :: _ =>
    if isDate first ∧ c.isDigit then
      Reader.char ' '
      return first ++ ' ' :: (← Reader.takeWhile isWordChar)
    else return first
  | _ => return first

/-- A value that is one word. -/
def scalar : Reader Toml := do
  match wordValue? (← word) with
  | some v => return v
  | none => failure

end QueryTemplate.Toml
