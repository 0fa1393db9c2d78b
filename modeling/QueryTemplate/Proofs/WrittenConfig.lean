import QueryTemplate.Proofs.Stages
import QueryTemplate.Proofs.TomlLines

/-!
# Configurations that can be written to a file

In code a configuration is made from the default one by choosing its policy and its limit, in any
order and any number of times (`Config.made`); the last choice of each counts.  A file with both
keys gives every policy and every limit of 64 bits (`ConfigFile.read?_written`).

There is no way to write that there is to be no limit.  TOML has no value for nothing, and a file
that does not mention the limit leaves it at its default, which is a number.  So a configuration
that was made in code can be written to a file exactly if its limit was not removed last
(`ConfigFile.exists_read?_eq_made_iff`).
-/

namespace QueryTemplate

/-! ## Configurations made in code -/

namespace Config

/-- **A choice that code can make.** -/
inductive Choice where
  /-- Chooses the policy for skips outside of blocks. -/
  | skipOutsideBlock (policy : SkipPolicy)
  /-- Limits the texts in the log. -/
  | logLimit (limit : UInt64)
  /-- Removes the limit. -/
  | noLogLimit

/-- Makes a choice. -/
def Choice.apply : Choice → Config → Config
  | .skipOutsideBlock policy => withSkipOutsideBlock policy
  | .logLimit limit => withLogLimit limit
  | .noLogLimit => withoutLogLimit

/-- What a choice says about the limit, if it is about the limit. -/
def Choice.logLimit? : Choice → Option (Option UInt64)
  | .skipOutsideBlock _ => none
  | .logLimit limit => some (some limit)
  | .noLogLimit => some none

/-- **The configuration that choices make**, one after the other. -/
def made (choices : List Choice) : Config :=
  choices.foldl (fun c choice => choice.apply c) .default

/-- One choice sets the limit to what it says and otherwise leaves it. -/
theorem Choice.logLimit_apply (choice : Choice) (c : Config) :
    (choice.apply c).logLimit = choice.logLimit?.getD c.logLimit := by
  cases choice <;> rfl

theorem logLimit_foldl (choices : List Choice) (c : Config) :
    (choices.foldl (fun c choice => choice.apply c) c).logLimit =
      (choices.filterMap Choice.logLimit?).getLast?.getD c.logLimit := by
  induction choices generalizing c with
  | nil => rfl
  | cons choice later ih =>
    rw [List.foldl_cons, ih, Choice.logLimit_apply, List.filterMap_cons]
    cases choice.logLimit? with
    | none => rfl
    | some limit => simp [List.getLast?_cons]

/-- **The last choice of a limit counts**; without one it is the default. -/
theorem logLimit_made (choices : List Choice) :
    (made choices).logLimit = (choices.filterMap Choice.logLimit?).getLast?.getD (some 200) :=
  logLimit_foldl choices .default

/-- There is no limit exactly if it was removed and not set again. -/
theorem logLimit_made_eq_none_iff (choices : List Choice) :
    (made choices).logLimit = none ↔
      (choices.filterMap Choice.logLimit?).getLast? = some none := by
  rw [logLimit_made]
  cases (choices.filterMap Choice.logLimit?).getLast? with
  | none => simp
  | some limit => simp

end Config

namespace ConfigFile

open Toml (Builder Reads InRange headerLine stringLine integerLine)

/-! ## What every file leaves set -/

theorem logLimit_ne_none_of_configOf? {policy limit : Option Toml} {c : Config}
    (h : configOf? policy limit = some c) : c.logLimit ≠ none := by
  cases limit with
  | some v =>
    cases policy <;> simp [configOf?, Option.bind_eq_some_iff, Config.withLogLimit] at h
    · obtain ⟨limit, -, rfl⟩ := h
      exact Option.some_ne_none _
    · obtain ⟨policy, -, limit, -, rfl⟩ := h
      exact Option.some_ne_none _
  | none =>
    cases policy <;> simp [configOf?, Config.withSkipOutsideBlock] at h
    · rw [← h]
      exact Option.some_ne_none _
    · obtain ⟨policy, -, rfl⟩ := h
      exact Option.some_ne_none _

/-- **No value removes the limit.** -/
theorem logLimit_ne_none_of_config? {v : Toml} {c : Config} (h : config? v = some c) :
    c.logLimit ≠ none := by
  cases v with
  | table form entries =>
    by_cases hreadable : Toml.entriesReadable entries = true
    · rw [config?, if_pos hreadable] at h
      exact logLimit_ne_none_of_configOf? h
    · rw [config?, if_neg hreadable] at h
      cases h
  | array items => exact logLimit_ne_none_of_configOf? h
  | tables elements => exact logLimit_ne_none_of_configOf? h
  | dateTime t =>
    cases h
    exact Option.some_ne_none _
  | string | integer | float | badNumber | boolean => cases h

/-- Nor does a file. -/
theorem logLimit_ne_none_of_read? {t : Text} {f : ConfigFile} (h : read? t = some f) :
    f.config.logLimit ≠ none := by
  obtain ⟨entries, -, htaken⟩ := exists_takenFrom_of_read? h
  obtain ⟨v, -, hconfig⟩ | ⟨-, hdefault⟩ := htaken.config
  · exact logLimit_ne_none_of_config? hconfig
  · rw [hdefault]
    exact Option.some_ne_none _

/-! ## Files that give any policy and any limit -/

/-- The lines of a file with a dialect, a policy and a limit. -/
def lines (dialect : Dialect) (policy : SkipPolicy) (limit : UInt64) :
    List (Text × Option Toml.Statement) :=
  [stringLine "dialect".toList dialect.name.toList,
    headerLine "template".toList,
    stringLine "skip_outside_block".toList policy.name.toList,
    integerLine "log_sql_max_length".toList limit.toNat]

/-- **A file with a dialect, a policy and a limit.** -/
def written (dialect : Dialect) (policy : SkipPolicy) (limit : UInt64) : Text :=
  (lines dialect policy limit).flatMap Prod.fst

section Written
variable (dialect : Dialect) (policy : SkipPolicy) (limit : UInt64)

theorem inRange_toNat : InRange limit.toNat := by
  have hlimit := limit.toNat_lt
  constructor
  · exact (Int.neg_nonpos_of_nonneg (Int.natCast_nonneg _)).trans (Int.natCast_nonneg _)
  · norm_num
    omega

theorem reads_of_mem_lines :
    ∀ line ∈ lines dialect policy limit, Reads line := by
  intro line hline
  simp only [lines, List.mem_cons, List.not_mem_nil, or_false] at hline
  obtain rfl | rfl | rfl | rfl := hline
  · apply Toml.reads_stringLine
    · decide
    · cases dialect <;> decide
    · cases dialect <;> decide
  · apply Toml.reads_headerLine
    decide
  · apply Toml.reads_stringLine
    · decide
    · cases policy <;> decide
    · cases policy <;> decide
  · exact Toml.reads_integerLine (by decide) (inRange_toNat limit)

theorem dialect?_name : dialect? (.string dialect.name.toList) = some dialect := by
  cases dialect <;> decide

theorem policy?_name : policy? (.string policy.name.toList) = some policy := by
  cases policy <;> decide

theorem logLimit?_toNat : logLimit? (.integer limit.toNat) = some limit := by
  have hlimit := limit.toNat_lt
  simp [logLimit?, UInt64.size]
  omega

theorem take_of_dialect (f : ConfigFile) {entry : Text × Toml}
    (hkey : entry.1 = "dialect".toList) :
    f.take entry = (dialect? entry.2).map fun dialect => { f with dialect } :=
  if_pos hkey

theorem take_of_template (f : ConfigFile) {entry : Text × Toml}
    (hkey : entry.1 = "template".toList) :
    f.take entry = (config? entry.2).map fun config => { f with config } := by
  have hne : entry.1 ≠ "dialect".toList := by
    rw [hkey]
    decide
  rw [take, if_neg hne, if_pos hkey]

/-- The table with a policy and a limit. -/
theorem config?_table :
    config? (.table .header [("skip_outside_block".toList, .string policy.name.toList),
        ("log_sql_max_length".toList, .integer limit.toNat)]) = some ⟨policy, some limit⟩ := by
  have hne : "skip_outside_block".toList ≠ "log_sql_max_length".toList := by decide
  rw [config?, if_pos (by rfl), Toml.lookup?_cons_self, Toml.lookup?_cons_of_ne hne,
    Toml.lookup?_cons_self, configOf?]
  simp only [policy?_name, logLimit?_toNat]
  rfl

/-- **Such a file gives what it was written for.** -/
theorem read?_written :
    read? (written dialect policy limit) = some ⟨dialect, ⟨policy, some limit⟩⟩ := by
  have hcarry : ((lines dialect policy limit).filterMap Prod.snd).foldlM Builder.carryOut .empty =
      some ⟨[("dialect".toList, .string dialect.name.toList),
        ("template".toList, .table .header
          [("skip_outside_block".toList, .string policy.name.toList),
            ("log_sql_max_length".toList, .integer limit.toNat)])], ["template".toList]⟩ := by
    simp [lines, stringLine, integerLine, headerLine, Toml.assignmentLine, Builder.carryOut,
      Builder.empty, Builder.openAt, Toml.within, Toml.assign, Toml.define, Toml.update,
      Toml.openTable, Toml.enter]
  have hmark : (written dialect policy limit).head? ≠ some Toml.byteOrderMark := by
    simp [written, lines, stringLine, Toml.assignmentLine, Toml.byteOrderMark]
  rw [read?, written, Toml.read?_eq (reads_of_mem_lines dialect policy limit) hmark, hcarry]
  simp only [Option.map_some, Option.bind_eq_bind, Option.bind_some, List.foldlM_cons,
    List.foldlM_nil]
  rw [take_of_dialect default rfl, dialect?_name, Option.map_some, Option.bind_some,
    take_of_template _ rfl, config?_table]
  rfl

end Written

/-- **What can be written to a file.**  With any dialect, a configuration that was made in code is
what some file gives, unless the last choice of a limit removes it. -/
theorem exists_read?_eq_made_iff (dialect : Dialect) (choices : List Config.Choice) :
    (∃ t, read? t = some ⟨dialect, Config.made choices⟩) ↔
      (choices.filterMap Config.Choice.logLimit?).getLast? ≠ some none := by
  rw [ne_eq, ← Config.logLimit_made_eq_none_iff]
  constructor
  · rintro ⟨t, ht⟩
    exact logLimit_ne_none_of_read? ht
  · intro hlimit
    obtain ⟨limit, hlimit⟩ := Option.ne_none_iff_exists'.mp hlimit
    refine ⟨written dialect (Config.made choices).skipOutsideBlock limit, ?_⟩
    rw [read?_written, ← hlimit]

/-- No file gives the configuration without a limit. -/
theorem not_exists_read?_withoutLogLimit :
    ¬ ∃ t, read? t = some ⟨.mysql, Config.made [.noLogLimit]⟩ := by
  rintro ⟨t, ht⟩
  exact logLimit_ne_none_of_read? ht rfl

end ConfigFile

end QueryTemplate
