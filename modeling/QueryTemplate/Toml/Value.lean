import QueryTemplate.Number.Binary64
import QueryTemplate.Text

/-!
# TOML values and tables

A TOML document is a table, built up statement by statement.  How a table came about decides what
later statements may still do to it, so each table carries its `TableForm`:

* a table with a **header** of its own is extended by the lines under that header only;
* a table that headers merely **passed through** may still get a header of its own, once;
* a table made by **dotted** keys is extended by dotted keys, and by headers of tables inside it;
* an **inline** table is complete where it stands.

`Toml.within` walks along a path of keys and changes the table at its end, making the tables on the
way that are not there yet.  In an array of tables the walk goes on in the last one.  Nothing is
ever defined twice: the change fails instead.

A document may hold numbers that nobody can read, such as ones that are too large.  Whoever looks at
a value decides whether that matters; `Toml.isReadable` says that no such number occurs in it.
-/

namespace QueryTemplate

/-- How a table came about. -/
inductive Toml.TableForm where
  /-- It is the document, or has a header. -/
  | header
  /-- Headers passed through it. -/
  | passedThrough
  /-- Dotted keys made it. -/
  | dotted
  /-- It was written in braces. -/
  | inline
  deriving DecidableEq

/-- **A TOML value.** -/
inductive Toml where
  | string (t : Text)
  | integer (i : Int)
  | float (x : Binary64)
  /-- What is written like a number but denotes none: digits are missing or foreign, or the number
  is too large. -/
  | badNumber
  | boolean (b : Bool)
  /-- A date, a time, or both, as it is written. -/
  | dateTime (t : Text)
  | array (items : List Toml)
  | table (form : Toml.TableForm) (entries : List (Text × Toml))
  /-- The tables under headers in double brackets. -/
  | tables (elements : List (List (Text × Toml)))

namespace Toml

/-- The entries of a table, in order; no two have the same key. -/
abbrev Entries := List (Text × Toml)

mutual

/-- **Whether a value can be read**: no bad number occurs in it. -/
def isReadable : Toml → Bool
  | .badNumber => false
  | .array items => areReadable items
  | .table _ entries => entriesReadable entries
  | .tables elements => elementsReadable elements
  | .string _ | .integer _ | .float _ | .boolean _ | .dateTime _ => true

/-- Whether the items of an array can be read. -/
def areReadable : List Toml → Bool
  | [] => true
  | item :: rest => isReadable item && areReadable rest

/-- Whether the values in a table can be read. -/
def entriesReadable : List (Text × Toml) → Bool
  | [] => true
  | (_, value) :: rest => isReadable value && entriesReadable rest

/-- Whether the values in an array of tables can be read. -/
def elementsReadable : List (List (Text × Toml)) → Bool
  | [] => true
  | entries :: rest => entriesReadable entries && elementsReadable rest

end

/-- The value under a key. -/
def lookup? (key : Text) (entries : Entries) : Option Toml :=
  (entries.find? fun entry => entry.1 = key).map Prod.snd

/-- Changes the value under a key.  The change is told what was there, and may fail. -/
def update (key : Text) (change : Option Toml → Option Toml) : Entries → Option Entries
  | [] => do return [(key, ← change none)]
  | (other, value) :: rest =>
    if other = key then do return (other, ← change (some value)) :: rest
    else do return (other, value) :: (← update key change rest)

/-- A change to a table: from its form and its entries to new entries, or to failure. -/
abbrev TableChange := TableForm → Entries → Option Entries

/-- Goes into the table under a key, to change it.  `dotted` says whether the walk follows a dotted
key or a header. -/
def enter (dotted : Bool) (change : TableChange) : Option Toml → Option Toml
  | none =>
    let form := if dotted then .dotted else .passedThrough
    (change form []).map (.table form)
  | some (.table form entries) =>
    if form = .inline ∨ (dotted ∧ form = .header) then none
    else (change form entries).map (.table form)
  | some (.tables elements) =>
    match elements.getLast? with
    | some last => (change .header last).map fun entries => .tables (elements.dropLast ++ [entries])
    | none => none
  | some _ => none

/-- **Walks along a path** of keys and changes the table at its end. -/
def within (dotted : Bool) (change : TableChange) : List Text → TableChange
  | [] => change
  | key :: path => fun _ entries => update key (enter dotted (within dotted change path)) entries

/-- Puts a value under a key that is not in use. -/
def define (key : Text) (value : Toml) : Entries → Option Entries :=
  update key fun
    | none => some value
    | some _ => none

/-- The line `path = value` in a table.  The last key of a dotted path must go into a table that
dotted keys made, and a single key must not. -/
def assign (path : List Text) (value : Toml) (entries : Entries) : Option Entries :=
  match path.getLast? with
  | none => none
  | some key =>
    let place : TableChange := fun form entries =>
      if (form = .dotted) = (path.dropLast = []) then none else define key value entries
    within true place path.dropLast .header entries

/-- Gives the table under a key its header. -/
def openTable (key : Text) : TableChange := fun _ =>
  update key fun
    | none => some (.table .header [])
    | some (.table .passedThrough entries) => some (.table .header entries)
    | some _ => none

/-- Begins another table in the array of tables under a key. -/
def openElement (key : Text) : TableChange := fun _ =>
  update key fun
    | none => some (.tables [[]])
    | some (.tables elements) => some (.tables (elements ++ [[]]))
    | some _ => none

end Toml

end QueryTemplate
