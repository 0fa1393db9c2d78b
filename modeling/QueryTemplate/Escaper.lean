import QueryTemplate.Text

/-!
# Escaping

The library never talks to a database.  What it needs to know of the target database is how the
contents of a string literal are escaped and how a column name is quoted; an `Escaper` supplies the
two.  `Dialect` names the databases known here, and `Dialect.escaper` gives the rules of each:

* **MySQL** puts a backslash before a quote of either kind and before a backslash, and writes four
  control characters as a backslash and a letter.  Names stand in backticks.
* **PostgreSQL** writes a single quote twice and leaves all else as it is; a backslash is an
  ordinary character there.  Names stand in double quotes.

A column name is quoted as it is, without escaping: to pass a valid name is up to the caller.
-/

namespace QueryTemplate

/-- The single quote, which delimits string literals. -/
def singleQuote : Char := '\x27'

/-- The double quote. -/
def doubleQuote : Char := '\x22'

/-- The backtick. -/
def backtick : Char := '\x60'

/-- The backslash. -/
def backslash : Char := '\x5c'

/-- **What is needed of the target database.** -/
structure Escaper where
  /-- The contents of a string literal, escaped; the quotes around it are not included. -/
  escapeText : Text → Text
  /-- A column name with its quotes. -/
  quoteName : Text → Text

namespace Escaper

/-- A string literal: the escaped contents between single quotes. -/
def literal (e : Escaper) (t : Text) : Text :=
  singleQuote :: (e.escapeText t ++ [singleQuote])

end Escaper

namespace MySql

/-- The letter that stands after a backslash for a character that MySQL escapes. -/
def escapeLetter? (c : Char) : Option Char :=
  if c = '\x00' then some '0'
  else if c = '\n' then some 'n'
  else if c = '\x0d' then some 'r'
  else if c = '\x1a' then some 'Z'
  else if c = backslash ∨ c = singleQuote ∨ c = doubleQuote then some c
  else none

/-- A character as MySQL writes it in a string literal. -/
def escapeChar (c : Char) : Text :=
  match escapeLetter? c with
  | some letter => [backslash, letter]
  | none => [c]

/-- The rules of MySQL. -/
def escaper : Escaper where
  escapeText t := t.flatMap escapeChar
  quoteName name := backtick :: (name ++ [backtick])

end MySql

namespace Postgres

/-- A character as PostgreSQL writes it in a string literal. -/
def escapeChar (c : Char) : Text :=
  if c = singleQuote then [singleQuote, singleQuote] else [c]

/-- The rules of PostgreSQL. -/
def escaper : Escaper where
  escapeText t := t.flatMap escapeChar
  quoteName name := doubleQuote :: (name ++ [doubleQuote])

end Postgres

/-- The databases whose rules are known. -/
inductive Dialect where
  | mysql
  | postgres
  deriving DecidableEq

namespace Dialect

/-- The dialect that is used where none is chosen. -/
instance : Inhabited Dialect := ⟨.mysql⟩

/-- The rules of a dialect. -/
def escaper : Dialect → Escaper
  | .mysql => MySql.escaper
  | .postgres => Postgres.escaper

/-- The name of a dialect. -/
def name : Dialect → String
  | .mysql => "mysql"
  | .postgres => "postgres"

/-- The names under which a dialect is known, all in small letters. -/
def names : Dialect → List String
  | .mysql => ["mysql", "mariadb"]
  | .postgres => ["postgres", "postgresql", "pg"]

/-- The dialect known under a name, capitals or not. -/
def ofName? (given : Text) : Option Dialect :=
  let lowercase := Text.asciiLowercase given
  [Dialect.mysql, Dialect.postgres].find? fun d => d.names.any (·.toList = lowercase)

/-- The message for a name that no dialect is known under. -/
def unknownMessage (given : Text) : String :=
  s!"unknown dialect: {String.ofList (Text.asciiLowercase given)}"

end Dialect

end QueryTemplate
