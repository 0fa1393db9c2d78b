/-!
# Configuration

A `Config` says what happens when an argument asks for a block to be dropped but stands in none,
and how much of a text the log may show.  `Config.default` is the configuration where nothing is
chosen; the functions after it change one field each and leave the other alone.
-/

namespace QueryTemplate

/-- What to do with a skip that stands outside of every block. -/
inductive SkipPolicy where
  /-- Drop the top-level segment that the skip stands in. -/
  | dropSegment
  /-- Refuse to build. -/
  | error
  deriving DecidableEq

/-- The name of a policy in a configuration file. -/
def SkipPolicy.name : SkipPolicy → String
  | .dropSegment => "drop_segment"
  | .error => "error"

/-- **The configuration of a templater.** -/
structure Config where
  /-- What to do with a skip that stands outside of every block. -/
  skipOutsideBlock : SkipPolicy
  /-- How many bytes of a text the log may show; without a number there is no limit. -/
  logLimit : Option UInt64
  deriving DecidableEq

namespace Config

/-- The configuration where nothing is chosen. -/
def default : Config where
  skipOutsideBlock := .dropSegment
  logLimit := some 200

instance : Inhabited Config := ⟨default⟩

/-- Chooses the policy for skips outside of blocks. -/
def withSkipOutsideBlock (policy : SkipPolicy) (c : Config) : Config :=
  { c with skipOutsideBlock := policy }

/-- Limits the texts in the log to a number of bytes. -/
def withLogLimit (limit : UInt64) (c : Config) : Config :=
  { c with logLimit := some limit }

/-- Lets the log show texts of any length. -/
def withoutLogLimit (c : Config) : Config :=
  { c with logLimit := none }

end Config

end QueryTemplate
