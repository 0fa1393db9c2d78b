import QueryTemplate.Argument
import QueryTemplate.Escaper
import QueryTemplate.Number.Shortest
import QueryTemplate.Template.Specifier

/-!
# Conversions

A conversion writes one argument as SQL.  It yields text, or it **halts**: with `skip` when the
argument asks for its block to be dropped, with a `Fault` when the argument cannot be written as
the placeholder demands.  A fault does not say which argument it was; whoever counts the arguments
adds that.

* `Conversion.int` writes an integer.  A double is rounded toward zero; a text must denote a whole
  number.  Either must lie in the range of 64-bit integers.
* `Conversion.float` writes a finite number with a decimal point.
* `Conversion.escaped` writes any single value, and `Conversion.column` a column name.
* `Conversion.flatten` applies one of the last two to each item of a list and to each value of a
  map, and joins the results with commas.  It does not descend further: a list inside a list
  cannot be written.
-/

namespace QueryTemplate

/-- The kinds of number that a placeholder may demand. -/
inductive NumericKind where
  | int
  | float
  deriving DecidableEq

/-- The name of a kind of number. -/
def NumericKind.name : NumericKind → String
  | .int => "int"
  | .float => "float"

/-- Why an argument cannot be written. -/
inductive Fault where
  /-- No argument of this kind can be written here. -/
  | wrongKind (kind : Argument.Kind)
  /-- The value, shown as text, is not a number of the kind demanded. -/
  | notNumeric (target : NumericKind) (value : Text)
  deriving DecidableEq

/-- Why a conversion yields no text. -/
inductive Halt where
  /-- The argument asks for its block to be dropped. -/
  | skip
  /-- The argument cannot be written. -/
  | fault (f : Fault)
  deriving DecidableEq

/-- The outcome of a conversion. -/
abbrev Converted := Except Halt Text

namespace Conversion

/-- How the absent value is written. -/
def nullText : Text := ['N', 'U', 'L', 'L']

/-- The number that a truth value counts as. -/
def truthNumber (b : Bool) : Int := if b then 1 else 0

/-- The refusal of an argument because of its kind. -/
def wrongKind (arg : Argument) : Converted :=
  .error (.fault (.wrongKind arg.kind))

/-- The refusal of a value that is not a number of the kind demanded. -/
def notNumeric (target : NumericKind) (value : Text) : Converted :=
  .error (.fault (.notNumeric target value))

/-! ## Integers -/

/-- The double just past all 64-bit integers.  The one of opposite sign is a 64-bit integer. -/
def int64Bound : Binary64 :=
  .ofInt 9223372036854775808

/-- Whether a number without a fractional part is no 64-bit integer. -/
def isOutOfRange (x : Binary64) : Bool :=
  !x.isFinite || int64Bound.atMost x || x.below int64Bound.negate

/-- The integer that a double is rounded to, toward zero, if it is in range. -/
def truncated? (x : Binary64) : Option Int :=
  if isOutOfRange x.wholePart then none else some x.wholePart.toInt64.toInt

/-- The integer that a text denotes: an integer literal, or a literal whose nearest double is
whole; in range in either case. -/
def wholeNumber? (t : Text) : Option Int :=
  match (readInteger? t).filter (fun i => decide (FitsInt64 i)) with
  | some i => some i
  | none => (Decimal.readFinite? t).bind fun x => if x.IsWhole then truncated? (.finite x) else none

/-- **The integer conversion.** -/
def int (arg : Argument) : Converted :=
  match arg with
  | .skip => .error .skip
  | .null => .ok nullText
  | .bool b => .ok (signedNumeral (truthNumber b))
  | .int i => .ok (signedNumeral i.toInt)
  | .float x =>
    match truncated? x with
    | some i => .ok (signedNumeral i)
    | none => notNumeric .int x.toText
  | .text t =>
    match wholeNumber? t with
    | some i => .ok (signedNumeral i)
    | none => notNumeric .int t
  | .list _ | .map _ => wrongKind arg

/-! ## Numbers with a decimal point -/

/-- The literal of a number, which must be finite. -/
def floatLiteral : Binary64 → Converted
  | .finite x => .ok x.literal
  | x => notNumeric .float x.toText

/-- **The conversion to a number with a decimal point.** -/
def float (arg : Argument) : Converted :=
  match arg with
  | .skip => .error .skip
  | .null => .ok nullText
  | .bool b => floatLiteral (.ofInt (truthNumber b))
  | .int i => floatLiteral (.ofInt i.toInt)
  | .float x => floatLiteral x
  | .text t =>
    match Decimal.readFinite? t with
    | some x => floatLiteral (.finite x)
    | none => notNumeric .float t
  | .list _ | .map _ => wrongKind arg

/-! ## Single values and column names -/

/-- **The conversion of a single value.** -/
def escaped (e : Escaper) (arg : Argument) : Converted :=
  match arg with
  | .skip => .error .skip
  | .null => .ok nullText
  | .bool b => .ok (signedNumeral (truthNumber b))
  | .int i => .ok (signedNumeral i.toInt)
  | .float x => floatLiteral x
  | .text t => .ok (e.literal t)
  | .list _ | .map _ => wrongKind arg

/-- **The conversion of a column name**, which must be a text. -/
def column (e : Escaper) (arg : Argument) : Converted :=
  match arg with
  | .skip => .error .skip
  | .text t => .ok (e.quoteName t)
  | _ => wrongKind arg

/-! ## Several values -/

/-- What stands between the parts of a list. -/
def separator : Text := [',', ' ']

/-- What stands between the name and the value of an entry. -/
def equals : Text := [' ', '=', ' ']

/-- The parts of a list, joined. -/
def joined (parts : List Text) : Text :=
  separator.intercalate parts

theorem joined_singleton (part : Text) : joined [part] = part :=
  List.intercalate_singleton

theorem joined_cons_cons (part next : Text) (parts : List Text) :
    joined (part :: next :: parts) = part ++ (separator ++ joined (next :: parts)) := by
  rw [joined, List.intercalate_cons_cons, List.append_assoc]
  rfl

/-- An entry of a map: its quoted name and its value. -/
def entry (e : Escaper) (element : Argument → Converted) (named : Text × Argument) : Converted := do
  let value ← element named.2
  return e.quoteName named.1 ++ equals ++ value

/-- **The conversion of several values.**  The first one that halts decides the outcome. -/
def flatten (e : Escaper) (element : Argument → Converted) : Argument → Converted
  | .list items => do return joined (← items.mapM element)
  | .map entries => do return joined (← entries.mapM (entry e element))
  | arg => element arg

end Conversion

/-- The conversion that a specifier selects. -/
def Specifier.convert (e : Escaper) : Specifier → Argument → Converted
  | .escaped => Conversion.escaped e
  | .int => Conversion.int
  | .float => Conversion.float
  | .array => Conversion.flatten e (Conversion.escaped e)
  | .column => Conversion.flatten e (Conversion.column e)

end QueryTemplate
