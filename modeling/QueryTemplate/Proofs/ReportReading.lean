import QueryTemplate.Number.Hexadecimal
import QueryTemplate.Proofs.BlockGrammar
import QueryTemplate.Proofs.Inspection

/-!
# What a report tells about its template

A report can be read back.  Its lines for the segments are the indented ones between its first line
and the line with the number of placeholders (`Report.segmentLines_render`), for no text of a
segment reaches beyond its line.  Within such a line everything has its end: the number of the
segment and the offset are digits before a character that is no digit, the names of the two kinds
are equally long, and a quoted text ends at the first quote that is not escaped.  The last is the
heart of the matter: what quoting writes for a character never begins with a quote, and from where
it begins one can tell the character and where it ends (`Text.QuotedAs.append_inj`).

So the lines tell the segments (`Report.segmentLine_injective`), and the segments, put together
again, are the template.  Two templates with the same report are the same
(`describe_tells_template`).
-/

namespace QueryTemplate

/-! ## Hexadecimal numerals -/

theorem hexValue?_digitChar {d : Nat} (h : d < 16) : hexValue? (Nat.digitChar d) = some d := by
  have hdigits : ∀ d : Fin 16, hexValue? (Nat.digitChar d) = some d.val := by decide
  exact hdigits ⟨d, h⟩

theorem hexNumber_append_singleton (digits : Text) (c : Char) :
    hexNumber (digits ++ [c]) = 16 * hexNumber digits + (hexValue? c).getD 0 := by
  simp [hexNumber]

/-- Hexadecimal numerals read back. -/
theorem hexNumber_toDigits (n : Nat) : hexNumber (Nat.toDigits 16 n) = n := by
  induction n using Nat.strongRecOn with
  | ind n ih =>
    rw [Nat.toDigits_eq_if (by decide)]
    by_cases hlt : n < 16
    · rw [if_pos hlt, ← List.nil_append [_], hexNumber_append_singleton, hexValue?_digitChar hlt]
      simp [hexNumber]
    · have hsmaller : n / 16 < n := Nat.div_lt_self (by omega) (by decide)
      rw [if_neg hlt, hexNumber_append_singleton, ih _ hsmaller,
        hexValue?_digitChar (Nat.mod_lt n (by decide)), Option.getD_some]
      omega

namespace Text

/-! ## Where a part of a text ends -/

/-- A part that ends at the first occurrence of a character. -/
theorem append_cons_inj {mark : Char} {s s' rest rest' : Text} (h : mark ∉ s) (h' : mark ∉ s')
    (heq : s ++ mark :: rest = s' ++ mark :: rest') : s = s' ∧ rest = rest' := by
  induction s generalizing s' with
  | nil =>
    cases s' with
    | nil => exact ⟨rfl, (List.cons.inj heq).2⟩
    | cons c' s' =>
      obtain ⟨rfl, -⟩ := List.cons.inj heq
      exact absurd (List.mem_cons_self ..) h'
  | cons c s ih =>
    rw [List.mem_cons, not_or] at h
    cases s' with
    | nil =>
      obtain ⟨rfl, -⟩ := List.cons.inj heq
      exact absurd rfl h.1
    | cons c' s' =>
      rw [List.mem_cons, not_or] at h'
      obtain ⟨rfl, hmore⟩ := List.cons.inj heq
      obtain ⟨rfl, hrest⟩ := ih h.2 h'.2 hmore
      exact ⟨rfl, hrest⟩

/-! ## Quoted characters -/

/-- The characters that have an escape of their own, each with what stands behind the backslash. -/
def shortEscapes : List (Char × Char) :=
  [('\x00', '0'), ('\t', 't'), ('\x0d', 'r'), ('\n', 'n'), ('\x22', '\x22'), ('\x5c', '\x5c')]

theorem mem_shortEscapes {c letter : Char} (h : shortEscape? c = some letter) :
    (c, letter) ∈ shortEscapes := by
  unfold shortEscape? at h
  split_ifs at h with hnul htab hreturn hnewline hself
  · obtain ⟨rfl⟩ := h
    simp [hnul, shortEscapes]
  · obtain ⟨rfl⟩ := h
    simp [htab, shortEscapes]
  · obtain ⟨rfl⟩ := h
    simp [hreturn, shortEscapes]
  · obtain ⟨rfl⟩ := h
    simp [hnewline, shortEscapes]
  · obtain ⟨rfl⟩ := h
    rcases hself with rfl | rfl <;> decide

/-- An escape of its own tells the character. -/
theorem shortEscape?_inj {c d letter : Char} (hc : shortEscape? c = some letter)
    (hd : shortEscape? d = some letter) : c = d := by
  have hpairs : ∀ p ∈ shortEscapes, ∀ q ∈ shortEscapes, p.2 = q.2 → p.1 = q.1 := by decide
  exact hpairs _ (mem_shortEscapes hc) _ (mem_shortEscapes hd) rfl

/-- The letter that begins a code point belongs to no character. -/
theorem shortEscape?_ne_u (c : Char) : shortEscape? c ≠ some 'u' := by
  intro h
  have hletters : ∀ p ∈ shortEscapes, p.2 ≠ 'u' := by decide
  exact hletters _ (mem_shortEscapes h) rfl

theorem shortEscape?_backslash : shortEscape? '\x5c' = some '\x5c' := by decide

theorem shortEscape?_quote : shortEscape? '\x22' = some '\x22' := by decide

/-- **The three forms of a quoted character**: an escape of its own, its code point, or the
character as it is. -/
inductive QuotedAs (c : Char) : Text → Prop where
  /-- A backslash and a letter or sign. -/
  | short {letter : Char} (h : shortEscape? c = some letter) : QuotedAs c ['\x5c', letter]
  /-- The code point, between braces. -/
  | code : QuotedAs c ('\x5c' :: 'u' :: '\x7b' :: (Nat.toDigits 16 c.toNat ++ ['\x7d']))
  /-- The character, which then is no backslash and no quote. -/
  | raw (hbackslash : c ≠ '\x5c') (hquote : c ≠ '\x22') : QuotedAs c [c]

theorem quotedAs_quotedChar (c : Char) : QuotedAs c (quotedChar c) := by
  unfold quotedChar
  cases hshort : shortEscape? c with
  | some letter => exact .short hshort
  | none =>
    dsimp only
    by_cases hprintable : isPrintable c = true
    · rw [if_pos hprintable]
      refine .raw ?_ ?_
      · rintro rfl
        rw [shortEscape?_backslash] at hshort
        cases hshort
      · rintro rfl
        rw [shortEscape?_quote] at hshort
        cases hshort
    · rw [if_neg hprintable]
      exact .code

/-- Code points between braces tell the character. -/
theorem codePoint_append_inj {c d : Char} {s t : Text}
    (h : Nat.toDigits 16 c.toNat ++ ['\x7d'] ++ s = Nat.toDigits 16 d.toNat ++ ['\x7d'] ++ t) :
    c = d ∧ s = t := by
  have hbrace : ∀ n, '\x7d' ∉ Nat.toDigits 16 n :=
    not_mem_toDigits (fun _ => Nat.digitChar_ne '\x7d' rfl) (by decide)
  rw [List.append_assoc, List.append_assoc] at h
  obtain ⟨hdigits, hrest⟩ := append_cons_inj (hbrace _) (hbrace _) h
  have hcode : c.toNat = d.toNat := by
    rw [← hexNumber_toDigits c.toNat, hdigits, hexNumber_toDigits]
  exact ⟨Char.toNat_inj.mp hcode, hrest⟩

/-- **A quoted character can be told from the start of a text**, and so can the place where it
ends. -/
theorem QuotedAs.append_inj {c d : Char} {q r s t : Text} (hc : QuotedAs c q) (hd : QuotedAs d r)
    (h : q ++ s = r ++ t) : c = d ∧ s = t := by
  -- what follows a backslash tells an escape of its own from a code point
  cases hc with
  | short hc =>
    cases hd with
    | short hd =>
      simp only [List.cons_append, List.nil_append, List.cons.injEq, true_and] at h
      obtain ⟨rfl, hrest⟩ := h
      exact ⟨shortEscape?_inj hc hd, hrest⟩
    | code =>
      simp only [List.cons_append, List.cons.injEq, true_and] at h
      exact absurd (h.1 ▸ hc) (shortEscape?_ne_u c)
    | raw hbackslash _ =>
      exact absurd (List.cons.inj h).1.symm hbackslash
  | code =>
    cases hd with
    | short hd =>
      simp only [List.cons_append, List.cons.injEq, true_and] at h
      exact absurd (h.1 ▸ hd) (shortEscape?_ne_u d)
    | code =>
      simp only [List.cons_append, List.cons.injEq, true_and] at h
      exact codePoint_append_inj h
    | raw hbackslash _ =>
      exact absurd (List.cons.inj h).1.symm hbackslash
  | raw hbackslash _ =>
    cases hd with
    | short _ => exact absurd (List.cons.inj h).1 hbackslash
    | code => exact absurd (List.cons.inj h).1 hbackslash
    | raw _ _ => exact List.cons.inj h

/-- No quoted character begins with a quote. -/
theorem QuotedAs.append_ne_quote {c : Char} {q : Text} (h : QuotedAs c q) (s t : Text) :
    q ++ s ≠ '\x22' :: t := by
  intro heq
  have hhead := congrArg List.head? heq
  cases h with
  | short _ => simp at hhead
  | code => simp at hhead
  | raw _ hquote => simp [hquote] at hhead

/-- **A quoted text can be told from the start of a text**: it ends at the first quote that is not
part of an escape. -/
theorem quoted_append_inj {s t rest rest' : Text} (h : quoted s ++ rest = quoted t ++ rest') :
    s = t ∧ rest = rest' := by
  simp only [quoted, List.cons_append, List.append_assoc, List.cons.injEq, true_and,
    List.nil_append] at h
  induction s generalizing t with
  | nil =>
    cases t with
    | nil => exact ⟨rfl, (List.cons.inj h).2⟩
    | cons d t =>
      rw [List.flatMap_cons, List.append_assoc] at h
      exact absurd h.symm ((quotedAs_quotedChar d).append_ne_quote _ _)
  | cons c s ih =>
    rw [List.flatMap_cons, List.append_assoc] at h
    cases t with
    | nil => exact absurd h ((quotedAs_quotedChar c).append_ne_quote _ _)
    | cons d t =>
      rw [List.flatMap_cons, List.append_assoc] at h
      obtain ⟨rfl, hmore⟩ := (quotedAs_quotedChar c).append_inj (quotedAs_quotedChar d) h
      obtain ⟨rfl, hrest⟩ := ih hmore
      exact ⟨rfl, hrest⟩

end Text

namespace Report

/-! ## The lines for the segments -/

/-- **The lines for the segments**: the indented lines of a report that follow its first line, up to
one that is not indented. -/
def segmentLines (report : Text) : List Text :=
  ((lines report).tail.takeWhile fun l => l.head? = some ' ').map line

theorem segmentLines_render (segments : List Segment) (placeholders : List Placeholder) :
    segmentLines (render segments placeholders) = segments.mapIdx segmentLine := by
  obtain ⟨indented, placeholderLines, hparts, -, hheads, hlines⟩ :=
    lines_render segments placeholders
  have hindented : ∀ l ∈ indented, decide (l.head? = some ' ') = true := by
    intro l hl
    exact decide_eq_true (hheads l (List.mem_append_left _ hl))
  have hmargin : (s!"placeholders: {placeholders.length}".toList :: placeholderLines).takeWhile
      (fun l => l.head? = some ' ') = [] := by
    simp [toString_string]
  rw [segmentLines, hlines, List.tail_cons, List.takeWhile_append_of_pos hindented, hmargin,
    List.append_nil, hparts]

/-- What stands in the line for a segment. -/
theorem segmentLine_eq (index : Nat) (s : Segment) :
    segmentLine index s =
      [' ', ' ', '['] ++ (numeral index ++ ']' :: ' ' :: ((kindName s.kind).toList ++
        ' ' :: '@' :: (numeral s.offset ++ ':' :: ' ' :: (Text.quoted s.text ++ ['\n'])))) := by
  simp [segmentLine, line, toString_string, numeral]

theorem numeral_injective {m n : Nat} (h : numeral m = numeral n) : m = n := by
  rw [← digitsValue_numeral m, h, digitsValue_numeral]

/-- The names of the two kinds begin differently. -/
theorem kindName_append_inj {k k' : SegmentKind} {rest rest' : Text}
    (h : (kindName k).toList ++ rest = (kindName k').toList ++ rest') : k = k' ∧ rest = rest' := by
  cases k with
  | always =>
    cases k' with
    | always => exact ⟨rfl, List.append_cancel_left h⟩
    | block => simp [kindName] at h
  | block =>
    cases k' with
    | always => simp [kindName] at h
    | block => exact ⟨rfl, List.append_cancel_left h⟩

/-- **The line for a segment tells the segment.** -/
theorem segmentLine_injective {index : Nat} {s s' : Segment}
    (h : segmentLine index s = segmentLine index s') : s = s' := by
  rw [segmentLine_eq, segmentLine_eq, List.append_right_inj, List.append_right_inj] at h
  simp only [List.cons.injEq, true_and] at h
  obtain ⟨hkind, hplace⟩ := kindName_append_inj h
  simp only [List.cons.injEq, true_and] at hplace
  obtain ⟨hoffset, htext⟩ :=
    Text.append_cons_inj (not_mem_numeral rfl _) (not_mem_numeral rfl _) hplace
  obtain ⟨htext, -⟩ := Text.quoted_append_inj (List.cons.inj htext).2
  obtain ⟨text, kind, offset⟩ := s
  obtain ⟨text', kind', offset'⟩ := s'
  cases htext
  cases hkind
  cases numeral_injective hoffset
  rfl

/-- The lines for segments tell the segments. -/
theorem mapIdx_segmentLine_injective {segments segments' : List Segment}
    (h : segments.mapIdx segmentLine = segments'.mapIdx segmentLine) : segments = segments' := by
  apply List.ext_getElem?
  intro i
  have hi : (segments.mapIdx segmentLine)[i]? = (segments'.mapIdx segmentLine)[i]? := by rw [h]
  rw [List.getElem?_mapIdx, List.getElem?_mapIdx] at hi
  exact Option.map_injective (fun _ _ => segmentLine_injective) hi

end Report

/-! ## Templates -/

/-- **A report is unambiguous.**  The lines for the segments can be found in it whatever the
template holds, they tell the segments, and the segments, put together again, are the template.  So
templates with the same report are the same. -/
theorem describe_tells_template :
    (∀ source source' report, describe source = .ok report → describe source' = .ok report →
      source = source') ∧
    (∀ source report, describe source = .ok report →
      ∃ segments, Segment.split source = .ok segments ∧
        Report.segmentLines report = segments.mapIdx Report.segmentLine ∧
        Segment.reassembled segments = source) ∧
    ∀ segments segments' : List Segment,
      segments.mapIdx Report.segmentLine = segments'.mapIdx Report.segmentLine →
        segments = segments' := by
  have htells : ∀ source report, describe source = .ok report →
      ∃ segments, Segment.split source = .ok segments ∧
        Report.segmentLines report = segments.mapIdx Report.segmentLine ∧
        Segment.reassembled segments = source := by
    intro source report hreport
    obtain ⟨template, placeholders, hparse, -, rfl⟩ := describe_eq_ok_iff.mp hreport
    obtain ⟨segments, hsplit, rfl⟩ := Template.parse_eq_ok_iff.mp hparse
    exact ⟨segments, hsplit, Report.segmentLines_render segments placeholders,
      (Segment.split_eq_ok_iff_isCut.mp hsplit).2⟩
  refine ⟨?_, htells, fun _ _ => Report.mapIdx_segmentLine_injective⟩
  intro source source' report hreport hreport'
  obtain ⟨segments, -, hlines, rfl⟩ := htells source report hreport
  obtain ⟨segments', -, hlines', rfl⟩ := htells source' report hreport'
  rw [Report.mapIdx_segmentLine_injective (hlines.symm.trans hlines')]

/-- A line end in the template, with the start of a line behind it, stays within the one line for
its segment. -/
theorem describe_text_like_a_line :
    ∃ report, describe "\x22\n  [1] \x5c".toList = .ok report ∧
      Report.segmentLines report =
        ["  [0] text  @0: \x22\x5c\x22\x5cn  [1] \x5c\x5c\x22\n".toList] ∧
      ∀ source, describe source = .ok report → source = "\x22\n  [1] \x5c".toList := by
  have hsplit : Segment.split "\x22\n  [1] \x5c".toList =
      .ok [⟨"\x22\n  [1] \x5c".toList, .always, 0⟩] := rfl
  have hdescribed : ∃ report, describe "\x22\n  [1] \x5c".toList = .ok report := by
    refine exists_describe_eq_ok_iff.mpr ⟨_, hsplit, ?_⟩
    intro q hq
    cases hq
  obtain ⟨report, hreport⟩ := hdescribed
  obtain ⟨segments, hsegments, hlines, -⟩ := describe_tells_template.2.1 _ _ hreport
  cases hsplit.symm.trans hsegments
  refine ⟨report, hreport, hlines.trans (by decide +kernel), ?_⟩
  intro source hsource
  exact describe_tells_template.1 _ _ _ hsource hreport

end QueryTemplate
