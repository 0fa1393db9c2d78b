import QueryTemplate.Cause

/-!
# Build events

A `BuildEvent` is what the log records of one build: that a query was built, out of how many
segments and arguments, or that it failed and why.  A build that writes to the log is a `Logged`
value, its outcome together with the events in order.
-/

namespace QueryTemplate

/-- **An entry of the log.**  Its texts have been clipped to the length that the log may show. -/
inductive BuildEvent where
  /-- A query was built. -/
  | built (segments argCount : Nat) (sql : Text)
  /-- A query could not be built. -/
  | failed (template : Text) (cause : Cause)
  deriving DecidableEq

/-- The headline of an entry. -/
def BuildEvent.message : BuildEvent → String
  | .built _ _ _ => "built query"
  | .failed _ _ => "failed to build query"

/-- How grave an entry is. -/
def BuildEvent.level : String := "DEBUG"

/-- The part of the program that writes the entries. -/
def BuildEvent.target : String := "sqltpl.build"

/-- The details of an entry, each with its name. -/
def BuildEvent.details : BuildEvent → Text
  | .built segments argCount sql =>
    s!"segments={segments} arg_count={argCount} sql=".toList ++ sql
  | .failed template cause =>
    "template=".toList ++ template ++ s!" error={cause.message}".toList

/-- An entry on one line. -/
def BuildEvent.line (e : BuildEvent) : Text :=
  s!"{level} {target}: {e.message} ".toList ++ e.details

/-- A value, and what was written to the log on the way to it. -/
structure Logged (α : Type) where
  /-- The value. -/
  result : α
  /-- The entries, in order. -/
  events : List BuildEvent

/-- Changes the value and leaves the log as it is. -/
def Logged.map {α β : Type} (f : α → β) (logged : Logged α) : Logged β :=
  ⟨f logged.result, logged.events⟩

end QueryTemplate
