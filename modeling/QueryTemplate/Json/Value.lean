import QueryTemplate.Argument

/-!
# JSON values

A `Json` value is a document of that notation, as far as arguments are concerned: numbers are either
64-bit integers or finite doubles, so a value that was read never holds an infinity.  Objects keep
the order of their members, and no two members have the same name once they went through
`Json.member`.

Every value is an argument (`Json.toArgument`); a skip is none, because the notation cannot write
one.
-/

namespace QueryTemplate

/-- **A JSON value.** -/
inductive Json where
  | null
  | bool (b : Bool)
  | int (i : Int64)
  | float (x : Binary64.Finite)
  | string (t : Text)
  | array (items : List Json)
  | object (members : List (Text × Json))

namespace Json

/-- Adds a member to an object.  A name that was there before keeps its place and takes the new
value. -/
def member (name : Text) (value : Json) : List (Text × Json) → List (Text × Json)
  | [] => [(name, value)]
  | (other, old) :: rest =>
    if other = name then (other, value) :: rest else (other, old) :: member name value rest

/-- The object with the given members, of which a later one replaces an earlier one. -/
def ofMembers (members : List (Text × Json)) : Json :=
  .object (members.foldl (fun sofar (name, value) => member name value sofar) [])

mutual

/-- **The argument that a value stands for.** -/
def toArgument : Json → Argument
  | .null => .null
  | .bool b => .bool b
  | .int i => .int i
  | .float x => .float (.finite x)
  | .string t => .text t
  | .array items => .list (toArguments items)
  | .object members => .map (toEntries members)

/-- The arguments that the items of an array stand for. -/
def toArguments : List Json → List Argument
  | [] => []
  | item :: rest => toArgument item :: toArguments rest

/-- The named arguments that the members of an object stand for. -/
def toEntries : List (Text × Json) → List (Text × Argument)
  | [] => []
  | (name, value) :: rest => (name, toArgument value) :: toEntries rest

end

theorem toArguments_eq_map (items : List Json) : toArguments items = items.map toArgument := by
  induction items with
  | nil => rfl
  | cons item rest ih => rw [toArguments, ih, List.map_cons]

theorem toEntries_eq_map (members : List (Text × Json)) :
    toEntries members = members.map fun m => (m.1, toArgument m.2) := by
  induction members with
  | nil => rfl
  | cons m rest ih => rw [toEntries, ih, List.map_cons]

end Json

end QueryTemplate
