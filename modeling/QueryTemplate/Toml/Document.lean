import QueryTemplate.Toml.Scalar

/-!
# Reading TOML

A document is read in two steps.  The text is a sequence of lines, and each line that is not blank
is a **statement**: the header of a table, the header of another element of an array of tables, or
a key with its value (`Toml.Statement`).  The statements are then carried out in order
(`Toml.Builder.carryOut`), which builds the document's table and refuses whatever would define
something twice.

Containers within a value may be nested up to `Toml.maxDepth` deep, and lines may end in them
anywhere but within a key, even on either side of an equals sign.  A key with dots may lead as many
tables deep, and no deeper.
-/

namespace QueryTemplate.Toml

/-- How deep arrays and inline tables may be nested, and how many keys a key with dots may hold. -/
def maxDepth : Nat := 80

/-! ## Keys and values -/

/-- A key without dots: bare, or in quotes of either kind. -/
def simpleKey : Reader Text := do
  match ← Reader.peek with
  | some '\x22' => lineString '\x22' true
  | some '\x27' => lineString '\x27' false
  | _ => Reader.takeWhile1 fun c => c.isAlphanum || c = '_' || c = '-'

/-- A key with dots: the keys between them. -/
def key : Reader (List Text) := do
  let first ← simpleKey
  let rest ← Reader.many do
    blanks
    if ← Reader.charIfNext '.' then
      blanks
      return some (← simpleKey)
    else return none
  let path := first :: rest
  if path.length ≤ maxDepth then return path else failure

/-- A comment, up to the end of its line. -/
def comment : Reader Unit := do
  Reader.char '#'
  let _ ← Reader.takeWhile isContent

/-- Skips blanks, line ends and comments. -/
def gaps : Reader Unit := do
  let gap : Reader Unit := Reader.satisfying isBlank *> pure () <|> newline <|> comment
  let _ ← Reader.many (Reader.optional gap)

/-- Items with commas between them, perhaps one after the last, up to a closing character. -/
def itemsUntil {α : Type} (item : Reader α) (close : Char) : Reader (List α) := do
  let items ← Reader.many do
    gaps
    if (← Reader.peek) = some close then return none
    let a ← item
    gaps
    unless (← Reader.peek) = some close do Reader.char ','
    return some a
  Reader.char close
  return items

/-- A key, an equals sign, and a value.  `space` skips what may stand on either side of the equals
sign: blanks on a line, and also line ends and comments in an inline table. -/
def assignment (space : Reader Unit) (value : Reader Toml) : Reader (List Text × Toml) := do
  let path ← key
  space
  Reader.char '='
  space
  return (path, ← value)

/-- The inline table with the given lines. -/
def ofAssignments? (assignments : List (List Text × Toml)) : Option Toml :=
  (assignments.foldlM (fun entries (path, value) => assign path value entries) []).map
    (.table .inline)

/-- An inline table, after its opening brace. -/
def inlineTable (value : Reader Toml) : Reader Toml := do
  match ofAssignments? (← itemsUntil (assignment gaps value) '\x7d') with
  | some made => return made
  | none => failure

/-- A value in which containers are nested at most as deep as the bound says. -/
def value : Nat → Reader Toml
  | 0 => plain
  | depth + 1 => do
    match ← Reader.peek with
    | some '[' => Reader.char '['; .array <$> itemsUntil (value depth) ']'
    | some '\x7b' => Reader.char '\x7b'; inlineTable (value depth)
    | _ => plain
where
  /-- A value that holds no others. -/
  plain : Reader Toml := do
    match ← Reader.peek with
    | some '\x22' => .string <$> quotedString '\x22' true
    | some '\x27' => .string <$> quotedString '\x27' false
    | _ => scalar

/-! ## Statements -/

/-- **A statement of a document.** -/
inductive Statement where
  /-- The header of a table. -/
  | header (path : List Text)
  /-- The header of another element of an array of tables. -/
  | element (path : List Text)
  /-- A key and its value. -/
  | assignment (path : List Text) (value : Toml)

/-- A header, single or double. -/
def header : Reader Statement := do
  Reader.char '['
  let isDouble ← Reader.charIfNext '['
  blanks
  let path ← key
  blanks
  Reader.char ']'
  if isDouble then
    Reader.char ']'
    return .element path
  else return .header path

/-- The end of a statement's line. -/
def lineEnd : Reader Unit := do
  blanks
  let _ ← Reader.optional comment
  unless (← Reader.peek).isNone do newline

/-- A line, with the statement on it if there is one. -/
def line : Reader (Option Statement) := do
  blanks
  let statement ← match ← Reader.peek with
    | none | some '#' | some '\n' | some '\x0d' => pure none
    | some '[' => some <$> header
    | some _ => do
      let (path, v) ← assignment blanks (value maxDepth)
      pure (some (.assignment path v))
  lineEnd
  return statement

/-- The statements of a document. -/
def statements : Reader (List Statement) := do
  let lines ← Reader.many do
    if (← Reader.peek).isNone then return none else some <$> line
  return lines.filterMap id

/-! ## Carrying statements out -/

/-- A document under construction. -/
structure Builder where
  /-- The document's table. -/
  root : Entries
  /-- The path of the table that lines are put into. -/
  current : List Text

namespace Builder

/-- The document before its first statement. -/
def empty : Builder :=
  ⟨[], []⟩

/-- Opens a table at a path, and makes it current. -/
def openAt (b : Builder) (change : Text → TableChange) (path : List Text) : Option Builder := do
  let last ← path.getLast?
  return ⟨← within false (change last) path.dropLast .header b.root, path⟩

/-- Carries out a statement. -/
def carryOut (b : Builder) : Statement → Option Builder
  | .header path => b.openAt openTable path
  | .element path => b.openAt openElement path
  | .assignment path value => do
    let root ← within false (fun _ => assign path value) b.current .header b.root
    return { b with root }

end Builder

/-- The mark that may stand at the very start of a document. -/
def byteOrderMark : Char := '\ufeff'

/-- **The table that a text writes.** -/
def read? (t : Text) : Option Entries := do
  let body := if t.head? = some byteOrderMark then t.tail else t
  let b ← (← Reader.readAll? statements body).foldlM Builder.carryOut .empty
  return b.root

end QueryTemplate.Toml
