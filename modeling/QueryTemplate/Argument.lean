import QueryTemplate.Number.Binary64
import QueryTemplate.Text

/-!
# Arguments

An `Argument` is a dynamically typed value that a placeholder consumes.  `skip` is special: it is
no value but the request to leave out the block that consumes it, and it is distinct from `null`,
which is written as `NULL`.

`ToArgument` is the class of types whose values can be handed over as arguments directly.
-/

namespace QueryTemplate

/-- **A template argument.** -/
inductive Argument where
  /-- The absent value, written `NULL`. -/
  | null
  /-- A truth value. -/
  | bool (b : Bool)
  /-- A 64-bit integer. -/
  | int (i : Int64)
  /-- A double-precision number. -/
  | float (x : Binary64)
  /-- A text. -/
  | text (t : Text)
  /-- Several values. -/
  | list (items : List Argument)
  /-- Named values in order; a name may occur more than once. -/
  | map (entries : List (Text × Argument))
  /-- The request to drop the enclosing block. -/
  | skip

namespace Argument

/-- The kinds of argument, as error messages name them. -/
inductive Kind where
  | null | bool | int | float | text | list | map | skip
  deriving DecidableEq

/-- The name of a kind. -/
def Kind.name : Kind → String
  | .null => "null"
  | .bool => "bool"
  | .int => "int"
  | .float => "float"
  | .text => "text"
  | .list => "list"
  | .map => "map"
  | .skip => "skip"

/-- The kind of an argument. -/
def kind : Argument → Kind
  | .null => .null
  | .bool _ => .bool
  | .int _ => .int
  | .float _ => .float
  | .text _ => .text
  | .list _ => .list
  | .map _ => .map
  | .skip => .skip

/-- Whether the argument asks for its block to be dropped. -/
def isSkip : Argument → Bool
  | .skip => true
  | _ => false

/-- Whether the argument is the absent value. -/
def isNull : Argument → Bool
  | .null => true
  | _ => false

end Argument

/-- The types whose values are arguments. -/
class ToArgument (α : Type) where
  /-- The argument that a value stands for. -/
  toArgument : α → Argument

export ToArgument (toArgument)

instance : ToArgument Argument := ⟨id⟩
instance : ToArgument Bool := ⟨.bool⟩
instance : ToArgument Int64 := ⟨.int⟩
instance : ToArgument Int32 := ⟨fun i => .int i.toInt64⟩
instance : ToArgument Int16 := ⟨fun i => .int i.toInt64⟩
instance : ToArgument Int8 := ⟨fun i => .int i.toInt64⟩
instance : ToArgument UInt32 := ⟨fun i => .int (Int64.ofNat i.toNat)⟩
instance : ToArgument UInt16 := ⟨fun i => .int (Int64.ofNat i.toNat)⟩
instance : ToArgument UInt8 := ⟨fun i => .int (Int64.ofNat i.toNat)⟩
instance : ToArgument Binary64 := ⟨.float⟩
instance : ToArgument Binary32 := ⟨fun x => .float x.widen⟩
instance : ToArgument String := ⟨fun s => .text s.toList⟩

/-- A value that may be missing; a missing one is `null`. -/
instance {α : Type} [ToArgument α] : ToArgument (Option α) where
  toArgument
    | some a => toArgument a
    | none => .null

instance {α : Type} [ToArgument α] : ToArgument (List α) :=
  ⟨fun items => .list (items.map toArgument)⟩

/-- Named values become a map that keeps their order. -/
instance {α : Type} [ToArgument α] : ToArgument (List (Text × α)) :=
  ⟨fun entries => .map (entries.map fun (name, a) => (name, toArgument a))⟩

end QueryTemplate
