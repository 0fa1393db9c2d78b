import Mathlib.Tactic.SplitIfs
import QueryTemplate.Proofs.LiteralScanner

/-!
# Reading quoted text back

A database reads a quoted text from its opening quote up to the quote that closes it.  A quote that
is written twice is one quote of the text, in any dialect; in MySQL a backslash and the character
behind it stand for one character as well (`MySql.unescaped`), while PostgreSQL takes a backslash as
it is.  `readQuoted?` is that reader; it gives the text and what follows the closing quote.

Escaping is made for this reader.  What is written for one character is read as that character,
whatever follows (`Dialect.readBody?_escapeChar`), so a literal is read back as the text it was made
of, and the reader stops where the literal ends (`Dialect.readLiteral?_escapeText`).  Names are not
escaped, and are read back if they hold no quote (`Dialect.readName?_quoteName`).
-/

namespace QueryTemplate

namespace MySql

/-- The character that MySQL reads for a backslash and another character. -/
def unescaped (c : Char) : Char :=
  if c = '0' then '\x00'
  else if c = 'n' then '\n'
  else if c = 'r' then '\x0d'
  else if c = 't' then '\t'
  else if c = 'b' then '\x08'
  else if c = 'Z' then '\x1a'
  else c

theorem unescaped_of_escapeLetter? {c letter : Char} (h : escapeLetter? c = some letter) :
    unescaped letter = c := by
  unfold escapeLetter? at h
  split_ifs at h with hnul hnewline hreturn hsub hself
  · cases h
    exact hnul.symm
  · cases h
    exact hnewline.symm
  · cases h
    exact hreturn.symm
  · cases h
    exact hsub.symm
  · cases h
    rcases hself with rfl | rfl | rfl <;> rfl

end MySql

/-! ## The reader -/

/-- A reading with one more character in front. -/
def Reading.cons (c : Char) (read : Option (Text × Text)) : Option (Text × Text) :=
  read.map fun (text, rest) => (c :: text, rest)

/-- Reads up to the closing quote.  `isEscape` tells which characters make an escape together with
the next one. -/
def readBody? (quote : Char) (isEscape : Char → Bool) : Text → Option (Text × Text)
  | [] => none
  | c :: rest =>
    if c = quote then
      match rest with
      | [] => some ([], [])
      | next :: later =>
        if next = quote then Reading.cons quote (readBody? quote isEscape later)
        else some ([], next :: later)
    else if isEscape c then
      match rest with
      | [] => none
      | next :: later => Reading.cons (MySql.unescaped next) (readBody? quote isEscape later)
    else Reading.cons c (readBody? quote isEscape rest)

/-- **Reading quoted text**: the text and what follows its closing quote. -/
def readQuoted? (quote : Char) (isEscape : Char → Bool) : Text → Option (Text × Text)
  | [] => none
  | c :: rest => if c = quote then readBody? quote isEscape rest else none

namespace Dialect

/-- Whether a character makes an escape in the literals of a dialect. -/
def isEscape : Dialect → Char → Bool
  | .mysql, c => c = backslash
  | .postgres, _ => false

/-- The quote around the names of a dialect. -/
def nameQuote : Dialect → Char
  | .mysql => backtick
  | .postgres => doubleQuote

/-- Reads a string literal. -/
def readLiteral? (d : Dialect) : Text → Option (Text × Text) :=
  readQuoted? singleQuote d.isEscape

/-- Reads a quoted name. -/
def readName? (d : Dialect) : Text → Option (Text × Text) :=
  readQuoted? d.nameQuote fun _ => false

end Dialect

/-! ## One step of the reader -/

section Body
variable {quote : Char} {isEscape : Char → Bool}

theorem readBody?_doubled (rest : Text) :
    readBody? quote isEscape (quote :: quote :: rest) =
      Reading.cons quote (readBody? quote isEscape rest) := by
  rw [readBody?, if_pos rfl]
  exact if_pos rfl

theorem readBody?_closing {rest : Text} (h : rest.head? ≠ some quote) :
    readBody? quote isEscape (quote :: rest) = some ([], rest) := by
  rw [readBody?.eq_def]
  dsimp only
  rw [if_pos rfl]
  cases rest with
  | nil => rfl
  | cons next later =>
    have hne : next ≠ quote := fun heq => h (congrArg some heq)
    exact if_neg hne

theorem readBody?_escape {c : Char} (hquote : c ≠ quote) (hescape : isEscape c = true) (next : Char)
    (rest : Text) :
    readBody? quote isEscape (c :: next :: rest) =
      Reading.cons (MySql.unescaped next) (readBody? quote isEscape rest) := by
  rw [readBody?, if_neg hquote, if_pos hescape]

theorem readBody?_plain {c : Char} (hquote : c ≠ quote) (hescape : ¬ isEscape c = true)
    (rest : Text) :
    readBody? quote isEscape (c :: rest) = Reading.cons c (readBody? quote isEscape rest) := by
  rw [readBody?.eq_def]
  dsimp only
  rw [if_neg hquote, if_neg hescape]

/-- **Reading what was written character by character.**  If the reader reads what is written for
each character as that character, it reads the text back and stops behind the closing quote. -/
theorem readBody?_flatMap {write : Char → Text} {t : Text}
    (h : ∀ c ∈ t, ∀ rest, readBody? quote isEscape (write c ++ rest) =
      Reading.cons c (readBody? quote isEscape rest))
    {rest : Text} (hrest : rest.head? ≠ some quote) :
    readBody? quote isEscape (t.flatMap write ++ quote :: rest) = some (t, rest) := by
  induction t with
  | nil => exact readBody?_closing hrest
  | cons c more ih =>
    have hmore := ih fun c' hc' => h c' (List.mem_cons_of_mem _ hc')
    rw [List.flatMap_cons, List.append_assoc, h c (List.mem_cons_self ..), hmore]
    rfl

end Body

namespace Dialect

/-- The character as the dialect writes it in a literal. -/
def escapeChar : Dialect → Char → Text
  | .mysql => MySql.escapeChar
  | .postgres => Postgres.escapeChar

theorem escapeText_eq_flatMap (d : Dialect) (t : Text) :
    d.escaper.escapeText t = t.flatMap d.escapeChar := by
  cases d <;> rfl

/-- What is written for a character is read as that character, whatever follows. -/
theorem readBody?_escapeChar (d : Dialect) (c : Char) (rest : Text) :
    readBody? singleQuote d.isEscape (d.escapeChar c ++ rest) =
      Reading.cons c (readBody? singleQuote d.isEscape rest) := by
  cases d with
  | mysql =>
    rw [escapeChar, MySql.escapeChar]
    cases hletter : MySql.escapeLetter? c with
    | some letter =>
      have hescape : readBody? singleQuote (isEscape .mysql) (backslash :: letter :: rest) =
          Reading.cons (MySql.unescaped letter) (readBody? singleQuote (isEscape .mysql) rest) :=
        readBody?_escape (by decide) rfl letter rest
      rw [MySql.unescaped_of_escapeLetter? hletter] at hescape
      exact hescape
    | none =>
      obtain ⟨hbackslash, hquote⟩ := MySql.ne_of_escapeLetter?_eq_none hletter
      exact readBody?_plain hquote (fun h => hbackslash (of_decide_eq_true h)) rest
  | postgres =>
    rw [escapeChar, Postgres.escapeChar]
    by_cases hquote : c = singleQuote
    · rw [if_pos hquote, hquote]
      exact readBody?_doubled rest
    · rw [if_neg hquote]
      exact readBody?_plain hquote Bool.false_ne_true rest

/-- A literal is read back. -/
theorem readLiteral?_literal (d : Dialect) (t : Text) {rest : Text}
    (h : rest.head? ≠ some singleQuote) :
    d.readLiteral? (d.escaper.literal t ++ rest) = some (t, rest) := by
  have hbody := readBody?_flatMap (t := t) (fun c _ => d.readBody?_escapeChar c) h
  rw [← escapeText_eq_flatMap] at hbody
  rw [Escaper.literal, List.cons_append, List.append_assoc, readLiteral?, readQuoted?, if_pos rfl]
  exact hbody

/-- A quoted name that holds no quote is read back. -/
theorem readName?_quoteName (d : Dialect) {name rest : Text} (hname : d.nameQuote ∉ name)
    (hrest : rest.head? ≠ some d.nameQuote) :
    d.readName? (d.escaper.quoteName name ++ rest) = some (name, rest) := by
  have hwritten : d.escaper.quoteName name ++ rest =
      d.nameQuote :: (name.flatMap ([·]) ++ d.nameQuote :: rest) := by
    cases d <;> simp [escaper, MySql.escaper, Postgres.escaper, nameQuote]
  have hplain : ∀ c ∈ name, ∀ rest, readBody? d.nameQuote (fun _ => false) ([c] ++ rest) =
      Reading.cons c (readBody? d.nameQuote (fun _ => false) rest) := by
    intro c hc rest
    have hquote : c ≠ d.nameQuote := fun heq => hname (heq ▸ hc)
    exact readBody?_plain hquote Bool.false_ne_true rest
  rw [hwritten, readName?, readQuoted?, if_pos rfl]
  exact readBody?_flatMap hplain hrest

/-- **An escaped literal reads back as its text.**  Whatever the text is, and whatever follows the
literal, unless it is a quote: a reader of the dialect's literals stops exactly where the literal
ends, and has read the text. -/
theorem readLiteral?_escapeText (d : Dialect) (raw rest : Text)
    (h : rest.head? ≠ some singleQuote) :
    d.readLiteral? ([singleQuote] ++ d.escaper.escapeText raw ++ [singleQuote] ++ rest) =
      some (raw, rest) := by
  have hliteral : [singleQuote] ++ d.escaper.escapeText raw ++ [singleQuote] =
      d.escaper.literal raw := rfl
  rw [hliteral]
  exact d.readLiteral?_literal raw h

/-- A text that begins and ends with a quote and a backslash, and has a line end in it. -/
theorem readLiteral?_quotes_and_backslashes :
    ([',', ' '] : Text).head? ≠ some singleQuote ∧
    mysql.readLiteral? ([singleQuote] ++
        mysql.escaper.escapeText [singleQuote, backslash, '\n', backslash, singleQuote] ++
        [singleQuote] ++ [',', ' ']) =
      some ([singleQuote, backslash, '\n', backslash, singleQuote], [',', ' ']) ∧
    postgres.readLiteral? ([singleQuote] ++
        postgres.escaper.escapeText [singleQuote, backslash, '\n', backslash, singleQuote] ++
        [singleQuote] ++ [',', ' ']) =
      some ([singleQuote, backslash, '\n', backslash, singleQuote], [',', ' ']) := by
  have hrest : ([',', ' '] : Text).head? ≠ some singleQuote := by decide
  exact ⟨hrest, readLiteral?_escapeText .mysql _ _ hrest,
    readLiteral?_escapeText .postgres _ _ hrest⟩

end Dialect

end QueryTemplate
