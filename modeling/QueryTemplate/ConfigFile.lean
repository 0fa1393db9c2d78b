import QueryTemplate.Config
import QueryTemplate.Escaper
import QueryTemplate.Toml.Document

/-!
# Configuration files

A configuration file is a TOML document with two keys, both optional: `dialect` names a database,
and `template` is a table with the configuration of templates.  In that table `skip_outside_block`
names a policy and `log_sql_max_length` is the limit of texts in the log; other keys are ignored if
their values can be read, whereas no other key may stand beside the two on top.

A choice among names is written as a string, or as a table whose only key is the name and whose
value is empty.  The table of templates may also be written as an array of its values in order, and
what follows those is not looked at.  A date or time in its place counts as a table with none of the
keys.
-/

namespace QueryTemplate

/-- **The contents of a configuration file.** -/
structure ConfigFile where
  /-- The dialect; where none is named, the one used by default. -/
  dialect : Dialect
  /-- The configuration of templates. -/
  config : Config
  deriving DecidableEq

namespace ConfigFile

/-- What holds where there is no configuration file. -/
def default : ConfigFile :=
  ⟨Dialect.mysql, Config.default⟩

/-- A container with nothing in it. -/
def isEmptyContainer : Toml → Bool
  | .table _ entries => entries.isEmpty
  | .array items => items.isEmpty
  | _ => false

/-- The name that a choice among names gives. -/
def choice? : Toml → Option Text
  | .string name => some name
  | .table _ [(name, content)] => if isEmptyContainer content then some name else none
  | _ => none

/-- The dialect that a value names; only its proper name counts here. -/
def dialect? (v : Toml) : Option Dialect := do
  let name ← choice? v
  [Dialect.mysql, Dialect.postgres].find? fun d => d.name.toList = name

/-- The policy that a value names. -/
def policy? (v : Toml) : Option SkipPolicy := do
  let name ← choice? v
  [SkipPolicy.dropSegment, SkipPolicy.error].find? fun p => p.name.toList = name

/-- The limit that a value gives: an integer of 64 bits, without sign. -/
def logLimit? : Toml → Option UInt64
  | .integer i => if 0 ≤ i ∧ i < UInt64.size then some (UInt64.ofNat i.toNat) else none
  | _ => none

/-- The configuration with a policy and a limit; one that is missing keeps its default. -/
def configOf? (policy limit : Option Toml) : Option Config := do
  let c : Config := .default
  let c ← match policy with
    | some v => (policy? v).map (c.withSkipOutsideBlock ·)
    | none => some c
  match limit with
  | some v => (logLimit? v).map (c.withLogLimit ·)
  | none => some c

/-- The configuration that a value gives. -/
def config? : Toml → Option Config
  | .table _ entries =>
    if Toml.entriesReadable entries then
      configOf? (Toml.lookup? "skip_outside_block".toList entries)
        (Toml.lookup? "log_sql_max_length".toList entries)
    else none
  | .array items => configOf? items[0]? items[1]?
  | .tables elements =>
    configOf? (elements[0]?.map (.table .header)) (elements[1]?.map (.table .header))
  | .dateTime _ => some .default
  | _ => none

/-- Takes in one key of the document. -/
def take (f : ConfigFile) (entry : Text × Toml) : Option ConfigFile :=
  if entry.1 = "dialect".toList then
    (dialect? entry.2).map fun dialect => { f with dialect }
  else if entry.1 = "template".toList then
    (config? entry.2).map fun config => { f with config }
  else none

/-- **The contents that a text writes.** -/
def read? (t : Text) : Option ConfigFile := do
  (← Toml.read? t).foldlM take default

end ConfigFile

end QueryTemplate
