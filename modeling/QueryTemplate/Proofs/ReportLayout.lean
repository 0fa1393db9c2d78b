import Mathlib.Data.List.Basic
import Mathlib.Tactic.SplitIfs
import QueryTemplate.Report

/-!
# The lines of a report

A report is read line by line.  The texts that it shows come from a template and may hold anything,
line ends among it, but they are quoted, and quoted text stays on its line
(`Text.newline_not_mem_quoted`).  So a report has the lines that it is meant to have
(`Report.lines_render`): two that begin at the margin, and an indented one for each segment and for
each placeholder.  In particular just one line states a number of placeholders, whatever the
template is, and it states the right one (`Report.statedCounts_render`).
-/

namespace QueryTemplate

/-! ## Text that stays on its line -/

/-- A character that is no digit of any base stands in no numeral. -/
theorem not_mem_toDigits {c : Char} (hc : ∀ n, Nat.digitChar n ≠ c) {base : Nat} (hbase : 1 < base)
    (n : Nat) : c ∉ Nat.toDigits base n := by
  induction n using Nat.strongRecOn with
  | ind n ih =>
    rw [Nat.toDigits_eq_if hbase]
    split
    · exact fun hmem => hc n (List.mem_singleton.mp hmem).symm
    · have hsmaller : n / base < n := Nat.div_lt_self (by omega) hbase
      rw [List.mem_append, List.mem_singleton]
      exact fun hmem => hmem.elim (ih _ hsmaller) fun hlast => hc _ hlast.symm

theorem newline_not_mem_toDigits {base : Nat} (hbase : 1 < base) (n : Nat) :
    '\n' ∉ Nat.toDigits base n :=
  not_mem_toDigits (fun _ => Nat.digitChar_ne '\n' rfl) hbase n

namespace Text

theorem shortEscape?_ne_newline (c : Char) : shortEscape? c ≠ some '\n' := by
  unfold shortEscape?
  split_ifs with hnul htab hreturn hnewline hself
  · decide
  · decide
  · decide
  · decide
  · rintro ⟨⟩
    exact absurd hself (by decide)
  · decide

/-- Quoting writes no line end, for a line end has an escape of its own. -/
theorem newline_not_mem_quotedChar (c : Char) : '\n' ∉ quotedChar c := by
  unfold quotedChar
  cases hshort : shortEscape? c with
  | some letter =>
    have hletter : '\n' ≠ letter := by
      rintro rfl
      exact shortEscape?_ne_newline c hshort
    simp [hletter]
  | none =>
    have hc : '\n' ≠ c := by
      rintro rfl
      cases hshort
    dsimp only
    split
    · simpa using hc
    · simp [codePointEscape, newline_not_mem_toDigits]

theorem newline_not_mem_quoted (t : Text) : '\n' ∉ quoted t := by
  simp [quoted, newline_not_mem_quotedChar]

end Text

namespace Report

/-- The lines of a text that ends with a line end. -/
def lines (t : Text) : List Text :=
  (t.splitOn '\n').dropLast

theorem lines_line_append {content : Text} (h : '\n' ∉ content) (rest : Text) :
    lines (line content ++ rest) = content :: lines rest := by
  rw [lines, line, List.append_assoc, List.singleton_append,
    List.splitOn_append_cons_self_of_not_mem h,
    List.dropLast_cons_of_ne_nil (List.splitOn_ne_nil _ _)]
  rfl

/-! ## Indented lines -/

/-- Whether a text is a single line that is indented. -/
def IsIndented (t : Text) : Prop :=
  ∃ content, t = line content ∧ content.head? = some ' ' ∧ '\n' ∉ content

theorem toString_string (s : String) : toString s = s := rfl

theorem isIndented_segmentLine (index : Nat) (s : Segment) : IsIndented (segmentLine index s) := by
  refine ⟨_, rfl, ?_, ?_⟩
  · simp [toString_string]
  · cases s.kind <;>
      simp [toString_string, kindName, newline_not_mem_toDigits, Text.newline_not_mem_quoted]

theorem isIndented_placeholderLine (number : Nat) (p : Placeholder) :
    IsIndented (placeholderLine number p) := by
  have hspecifier : '\n' ∉ p.specifier.text := by cases p.specifier <;> decide
  refine ⟨_, rfl, ?_, ?_⟩
  · simp [toString_string]
  · cases p.inBlock <;> simp [toString_string, blockNote, newline_not_mem_toDigits, hspecifier]

/-- Indented lines, one behind the other, are read one by one. -/
theorem exists_lines_flatten {parts : List Text} (h : ∀ part ∈ parts, IsIndented part)
    (rest : Text) :
    ∃ indented, indented.map line = parts ∧ (∀ l ∈ indented, l.head? = some ' ') ∧
      lines (parts.flatten ++ rest) = indented ++ lines rest := by
  induction parts with
  | nil => exact ⟨[], rfl, nofun, rfl⟩
  | cons part parts ih =>
    obtain ⟨content, rfl, hhead, hcontent⟩ := h part (List.mem_cons_self ..)
    obtain ⟨indented, hparts, hheads, hlines⟩ :=
      ih fun part hpart => h part (List.mem_cons_of_mem _ hpart)
    refine ⟨content :: indented, congrArg (List.cons _) hparts, ?_, ?_⟩
    · rintro l (_ | ⟨_, hl⟩)
      · exact hhead
      · exact hheads l hl
    · rw [List.flatten_cons, List.append_assoc, lines_line_append hcontent, hlines]
      rfl

/-! ## The whole report -/

/-- **The lines of a report**: the number of segments, the indented lines for them, the number of
placeholders, and the indented lines for these. -/
theorem lines_render (segments : List Segment) (placeholders : List Placeholder) :
    ∃ segmentLines placeholderLines,
      segmentLines.map line = segments.mapIdx segmentLine ∧
      placeholderLines.map line = placeholders.mapIdx (fun i p => placeholderLine (i + 1) p) ∧
      (∀ l ∈ segmentLines ++ placeholderLines, l.head? = some ' ') ∧
      lines (render segments placeholders) =
        s!"segments: {segments.length}".toList ::
          (segmentLines ++ s!"placeholders: {placeholders.length}".toList :: placeholderLines) := by
  have hsegments : ∀ part ∈ segments.mapIdx segmentLine, IsIndented part := by
    intro part hpart
    obtain ⟨index, hindex, rfl⟩ := List.mem_mapIdx.mp hpart
    exact isIndented_segmentLine _ _
  have hplaceholders : ∀ part ∈ placeholders.mapIdx fun i p => placeholderLine (i + 1) p,
      IsIndented part := by
    intro part hpart
    obtain ⟨index, hindex, rfl⟩ := List.mem_mapIdx.mp hpart
    exact isIndented_placeholderLine _ _
  have hsegmentCount : '\n' ∉ s!"segments: {segments.length}".toList := by
    simp [toString_string, newline_not_mem_toDigits]
  have hplaceholderCount : '\n' ∉ s!"placeholders: {placeholders.length}".toList := by
    simp [toString_string, newline_not_mem_toDigits]
  obtain ⟨placeholderLines, hplaceholderParts, hplaceholderHeads, hplaceholderLines⟩ :=
    exists_lines_flatten hplaceholders []
  obtain ⟨segmentLines, hsegmentParts, hsegmentHeads, hsegmentLines⟩ :=
    exists_lines_flatten hsegments
      (line s!"placeholders: {placeholders.length}".toList ++
        ((placeholders.mapIdx fun i p => placeholderLine (i + 1) p).flatten ++ []))
  refine ⟨segmentLines, placeholderLines, hsegmentParts, hplaceholderParts, ?_, ?_⟩
  · exact List.forall_mem_append.mpr ⟨hsegmentHeads, hplaceholderHeads⟩
  · have hend : lines [] = [] := rfl
    rw [lines_line_append hplaceholderCount, hplaceholderLines, hend, List.append_nil,
      List.append_nil] at hsegmentLines
    rw [render, ← hsegmentLines, ← lines_line_append hsegmentCount]
    simp only [List.append_assoc]

/-! ## The number of placeholders -/

/-- What stands before the number of placeholders. -/
def countLabel : Text :=
  ['p', 'l', 'a', 'c', 'e', 'h', 'o', 'l', 'd', 'e', 'r', 's', ':', ' ']

/-- The numbers on the lines of a report that begin with `placeholders: `. -/
def statedCounts (report : Text) : List (Option Nat) :=
  ((lines report).filterMap (·.dropPrefix? countLabel)).map readNatural?

theorem dropPrefix?_countLabel_eq_none {l : Text} (h : l.head? ≠ some 'p') :
    l.dropPrefix? countLabel = none := by
  rw [Option.eq_none_iff_forall_ne_some]
  intro rest hdrop
  obtain ⟨label, rfl, hlabel⟩ := List.dropPrefix?_eq_some_iff.mp hdrop
  rw [eq_of_beq hlabel] at h
  exact h rfl

/-- **A report states the number of placeholders once.** -/
theorem statedCounts_render (segments : List Segment) (placeholders : List Placeholder) :
    statedCounts (render segments placeholders) = [some placeholders.length] := by
  obtain ⟨segmentLines, placeholderLines, -, -, hheads, hlines⟩ :=
    lines_render segments placeholders
  have hindented : ∀ l ∈ segmentLines ++ placeholderLines, l.dropPrefix? countLabel = none := by
    intro l hl
    refine dropPrefix?_countLabel_eq_none ?_
    rw [hheads l hl]
    decide
  have hfirst : s!"segments: {segments.length}".toList.dropPrefix? countLabel = none := by
    refine dropPrefix?_countLabel_eq_none ?_
    simp [toString_string]
  have hcount : s!"placeholders: {placeholders.length}".toList.dropPrefix? countLabel =
      some (numeral placeholders.length) := by
    have hline : s!"placeholders: {placeholders.length}".toList =
        countLabel ++ numeral placeholders.length := by
      simp [toString_string, countLabel, numeral]
    rw [hline]
    exact List.dropPrefix?_append_of_beq _ (by simp)
  obtain ⟨hsegments, hplaceholders⟩ := List.forall_mem_append.mp hindented
  rw [statedCounts, hlines]
  simp only [List.filterMap_cons, List.filterMap_append, hfirst, hcount,
    List.filterMap_eq_nil_iff.mpr hsegments, List.filterMap_eq_nil_iff.mpr hplaceholders,
    List.nil_append, List.map_singleton, readNatural?_numeral]

end Report

end QueryTemplate
