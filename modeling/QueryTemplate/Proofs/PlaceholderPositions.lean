import QueryTemplate.Proofs.BlockGrammar
import QueryTemplate.Proofs.Questions
import QueryTemplate.Proofs.Substitution
import QueryTemplate.Proofs.Traversals

/-!
# Where the placeholders of a template stand

The offset of a placeholder is added up along its segment, token by token, and the segment's own
offset along the template.  To see that nothing is lost or found twice on the way, this module looks
for question marks in a second manner: character by character.  A `Mark` is a question mark with the
place where it stands and the character behind it in its segment, and `Mark.ofSegments` lists those
of all segments.  Listing the placeholders is going through the marks (`Placeholder.ofSegments_eq`),
so it fails at the leftmost mark that no supported character follows.

The marks of an accepted template are in turn all question marks of its text
(`Mark.map_offset_ofSegments`), because what stands between two segments is a brace; and cutting the
template at a mark tells its segment, what is behind it, and the last brace in front of it
(`Segment.IsCut.exists_around_mark`).
-/

namespace QueryTemplate

open Text (byteLength braces cut?)

namespace Text

/-! ## Occurrences of a character -/

/-- The occurrences of a character in a text that begins at some position: where each one stands, in
bytes, and the text behind it. -/
def occurrences (wanted : Char) : Nat → Text → List (Nat × Text)
  | _, [] => []
  | position, c :: rest =>
    if c = wanted then (position, rest) :: occurrences wanted (position + c.utf8Size) rest
    else occurrences wanted (position + c.utf8Size) rest

variable {wanted : Char}

theorem occurrences_self (start : Nat) (rest : Text) :
    occurrences wanted start (wanted :: rest) =
      (start, rest) :: occurrences wanted (start + wanted.utf8Size) rest := if_pos rfl

theorem occurrences_of_ne (start : Nat) {c : Char} (rest : Text) (h : c ≠ wanted) :
    occurrences wanted start (c :: rest) = occurrences wanted (start + c.utf8Size) rest := if_neg h

/-- A character occurs where the text can be cut in front of it. -/
theorem mem_occurrences_iff {start n : Nat} {t after : Text} :
    (n, after) ∈ occurrences wanted start t ↔
      ∃ before, t = before ++ wanted :: after ∧ n = start + byteLength before := by
  induction t generalizing start with
  | nil => simp [occurrences]
  | cons c rest ih =>
    have hlater : (n, after) ∈ occurrences wanted (start + c.utf8Size) rest ↔
        ∃ before, rest = before ++ wanted :: after ∧ n = start + byteLength (c :: before) := by
      rw [ih]
      simp only [byteLength_cons, Nat.add_assoc]
    rw [occurrences]
    constructor
    · intro h
      split at h
      · rename_i hc
        rcases List.mem_cons.mp h with h | h
        · cases h
          exact ⟨[], by rw [hc]; rfl, rfl⟩
        · obtain ⟨before, rfl, hn⟩ := hlater.mp h
          exact ⟨c :: before, rfl, hn⟩
      · obtain ⟨before, rfl, hn⟩ := hlater.mp h
        exact ⟨c :: before, rfl, hn⟩
    · rintro ⟨before, ht, hn⟩
      cases before with
      | nil =>
        cases ht
        rw [if_pos rfl]
        exact List.mem_cons.mpr (.inl (by rw [hn]; rfl))
      | cons first before =>
        cases ht
        have hmem := hlater.mpr ⟨before, rfl, hn⟩
        split
        · exact List.mem_cons_of_mem _ hmem
        · exact hmem

/-- Occurrences are listed from left to right. -/
theorem pairwise_occurrences (wanted : Char) (start : Nat) (t : Text) :
    ((occurrences wanted start t).map Prod.fst).Pairwise (· < ·) := by
  induction t generalizing start with
  | nil => exact .nil
  | cons c rest ih =>
    rw [occurrences]
    split
    · refine List.pairwise_cons.mpr ⟨fun n hn => ?_, ih _⟩
      obtain ⟨⟨_, after⟩, hmem, rfl⟩ := List.mem_map.mp hn
      obtain ⟨before, -, hplace⟩ := mem_occurrences_iff.mp hmem
      have := c.utf8Size_pos
      omega
    · exact ih _

/-- The places in two texts, one after the other, are those in the first and those in the second. -/
theorem map_fst_occurrences_append (start : Nat) (s t : Text) :
    (occurrences wanted start (s ++ t)).map Prod.fst =
      (occurrences wanted start s).map Prod.fst ++
        (occurrences wanted (start + byteLength s) t).map Prod.fst := by
  induction s generalizing start with
  | nil => rfl
  | cons c rest ih =>
    rw [List.cons_append, byteLength_cons, ← Nat.add_assoc]
    by_cases hc : c = wanted
    · subst hc
      rw [occurrences_self, occurrences_self, List.map_cons, List.map_cons, ih, List.cons_append]
    · rw [occurrences_of_ne _ _ hc, occurrences_of_ne _ _ hc, ih]

end Text

/-! ## Specifiers by the character behind a question mark -/

namespace Specifier

/-- The characters that may follow a question mark. -/
def supported : List Char := ['d', 'f', 'a', '#', ' ', ',']

theorem ofNext?_eq_none_iff {c : Char} : ofNext? (some c) = none ↔ c ∉ supported := by
  rw [ofNext?, isBoundary]
  constructor
  · intro h hmem
    simp only [supported, List.mem_cons, List.not_mem_nil, or_false] at hmem
    rcases hmem with rfl | rfl | rfl | rfl | rfl | rfl <;> cases h
  · intro hmem
    simp only [supported, List.mem_cons, List.not_mem_nil, or_false, not_or] at hmem
    obtain ⟨hd, hf, ha, hhash, hspace, hcomma⟩ := hmem
    rw [if_neg (by simp [hspace, hcomma])]
    unfold ofLetter?
    split
    · exact absurd rfl hd
    · exact absurd rfl hf
    · exact absurd rfl ha
    · exact absurd rfl hhash
    · rfl

theorem demand_eq_error_iff {next : Option Char} {c : Char} :
    demand next = .error c ↔ next = some c ∧ c ∉ supported := by
  rw [← ofNext?_eq_none_iff]
  cases next with
  | none => exact iff_of_false (fun h => by cases h) (fun h => by cases h.1)
  | some c' =>
    rw [demand]
    cases hselected : ofNext? (some c') with
    | some s =>
      refine iff_of_false (fun h => by cases h) ?_
      rintro ⟨⟨⟩, h⟩
      rw [hselected] at h
      cases h
    | none =>
      constructor
      · rintro ⟨⟩
        exact ⟨rfl, hselected⟩
      · rintro ⟨⟨⟩, -⟩
        rfl

/-- The general specifier stands at the end of a segment, or before a space or a comma. -/
theorem next_of_demand_escaped {next : Option Char} (h : demand next = .ok .escaped) :
    ∀ c ∈ next, c = ' ' ∨ c = ',' := by
  rintro c ⟨⟩
  rw [demand, ofNext?] at h
  by_cases hboundary : isBoundary c = true
  · simpa [isBoundary] using hboundary
  · rw [if_neg hboundary] at h
    cases hletter : ofLetter? c with
    | none =>
      rw [hletter] at h
      cases h
    | some s =>
      rw [hletter] at h
      cases h
      unfold ofLetter? at hletter
      split at hletter <;> cases hletter

/-- The text of a placeholder stands at its question mark.  The general one takes in nothing that is
behind it. -/
theorem exists_text_append {next : Option Char} {s : Specifier} (h : demand next = .ok s)
    {rest : Text} (hrest : ∀ c, next = some c → rest.head? = some c) :
    ∃ after, '?' :: rest = s.text ++ after ∧ (s = .escaped → after = rest) := by
  by_cases hs : s = .escaped
  · subst hs
    exact ⟨rest, rfl, fun _ => rfl⟩
  · cases next with
    | none =>
      cases h
      exact absurd rfl hs
    | some c =>
      obtain ⟨after, rfl⟩ := List.head?_eq_some_iff.mp (hrest c rfl)
      have hselected : ofNext? (some c) = some s := by
        rw [demand] at h
        split at h
        · rename_i hsome
          cases h
          exact hsome
        · cases h
      exact ⟨after, by rw [text_of_ofNext? hselected hs]; rfl, fun h => absurd h hs⟩

end Specifier

/-! ## Marks -/

/-- **A question mark and its place**: the index of its segment, its position in the template in
bytes, whether it stands in a block, and the character behind it in its segment. -/
structure Mark where
  /-- The index of the segment. -/
  segment : Nat
  /-- The position in the template. -/
  offset : Nat
  /-- Whether the segment is a block. -/
  inBlock : Bool
  /-- The character behind the question mark, with `none` for the end of the segment. -/
  next : Option Char

namespace Mark

/-- The placeholder that stands at a mark. -/
def placeholder (m : Mark) : Except Cause Placeholder :=
  match Specifier.demand m.next with
  | .ok s => .ok ⟨m.segment, m.offset, s, m.inBlock⟩
  | .error next => .error (.unsupportedSpecifier next)

/-- The marks of a text that begins at some position. -/
def ofText (segment : Nat) (inBlock : Bool) (start : Nat) (t : Text) : List Mark :=
  (Text.occurrences '?' start t).map fun (offset, after) =>
    ⟨segment, offset, inBlock, after.head?⟩

/-- The marks of a list of segments.  The index is that of the first segment. -/
def ofSegments (index : Nat) : List Segment → List Mark
  | [] => []
  | s :: later => ofText index s.isBlock s.offset s.text ++ ofSegments (index + 1) later

theorem ofText_questionMark (segment : Nat) (inBlock : Bool) (start : Nat) (rest : Text) :
    ofText segment inBlock start ('?' :: rest) =
      ⟨segment, start, inBlock, rest.head?⟩ :: ofText segment inBlock (start + 1) rest := rfl

theorem ofText_of_ne (segment : Nat) (inBlock : Bool) (start : Nat) {c : Char} (rest : Text)
    (h : c ≠ '?') :
    ofText segment inBlock start (c :: rest) =
      ofText segment inBlock (start + c.utf8Size) rest := by
  rw [ofText, Text.occurrences_of_ne _ _ h]
  rfl

theorem placeholder_eq_ok_iff {m : Mark} {p : Placeholder} :
    m.placeholder = .ok p ↔
      Specifier.demand m.next = .ok p.specifier ∧
        p = ⟨m.segment, m.offset, p.specifier, m.inBlock⟩ := by
  rw [placeholder]
  cases Specifier.demand m.next with
  | error next => exact iff_of_false (fun h => by cases h) (fun h => by cases h.1)
  | ok s =>
    constructor
    · rintro ⟨⟩
      exact ⟨rfl, rfl⟩
    · rintro ⟨⟨⟩, hp⟩
      exact congrArg Except.ok hp.symm

theorem placeholder_eq_error_iff {m : Mark} {cause : Cause} :
    m.placeholder = .error cause ↔
      ∃ next, Specifier.demand m.next = .error next ∧ cause = .unsupportedSpecifier next := by
  rw [placeholder]
  cases Specifier.demand m.next with
  | ok s => exact iff_of_false (fun h => by cases h) (fun ⟨_, h, _⟩ => by cases h)
  | error next =>
    constructor
    · rintro ⟨⟩
      exact ⟨next, rfl, rfl⟩
    · rintro ⟨_, ⟨⟩, rfl⟩
      rfl

/-- The marks of a text are the places where it can be cut at a question mark. -/
theorem mem_ofText_iff {segment start : Nat} {inBlock : Bool} {t : Text} {m : Mark} :
    m ∈ ofText segment inBlock start t ↔ ∃ before after, t = before ++ '?' :: after ∧
      m = ⟨segment, start + byteLength before, inBlock, after.head?⟩ := by
  rw [ofText, List.mem_map]
  constructor
  · rintro ⟨⟨offset, after⟩, hmem, rfl⟩
    obtain ⟨before, ht, rfl⟩ := Text.mem_occurrences_iff.mp hmem
    exact ⟨before, after, ht, rfl⟩
  · rintro ⟨before, after, ht, rfl⟩
    exact ⟨_, Text.mem_occurrences_iff.mpr ⟨before, ht, rfl⟩, rfl⟩

theorem map_offset_ofText (segment : Nat) (inBlock : Bool) (start : Nat) (t : Text) :
    (ofText segment inBlock start t).map offset = (Text.occurrences '?' start t).map Prod.fst := by
  rw [ofText, List.map_map]
  rfl

/-- The marks of a list of segments are those of one of them, with its index. -/
theorem mem_ofSegments_iff {index : Nat} {segments : List Segment} {m : Mark} :
    m ∈ ofSegments index segments ↔ ∃ before s after, segments = before ++ s :: after ∧
      m ∈ ofText (index + before.length) s.isBlock s.offset s.text := by
  induction segments generalizing index with
  | nil => simp [ofSegments]
  | cons s later ih =>
    rw [ofSegments, List.mem_append, ih]
    constructor
    · rintro (h | ⟨before, s', after, rfl, h⟩)
      · exact ⟨[], s, later, rfl, h⟩
      · refine ⟨s :: before, s', after, rfl, ?_⟩
        rwa [List.length_cons, ← Nat.add_assoc, Nat.add_right_comm]
    · rintro ⟨before, s', after, hsegments, h⟩
      cases before with
      | nil =>
        cases hsegments
        exact .inl h
      | cons first before =>
        cases hsegments
        refine .inr ⟨before, s', after, rfl, ?_⟩
        rwa [List.length_cons, ← Nat.add_assoc, Nat.add_right_comm] at h

/-- The places of the marks of a template are all places of question marks in its text, from left to
right: what stands between the texts of two segments is a brace. -/
theorem map_offset_ofSegments (index : Nat) {start : Nat} {segments : List Segment}
    (h : Segment.IsCut start segments) :
    (ofSegments index segments).map offset =
      (Text.occurrences '?' start (Segment.reassembled segments)).map Prod.fst := by
  induction segments generalizing index start with
  | nil => rfl
  | cons s later ih =>
    obtain ⟨-, -, -, hoffset, hlater⟩ := Segment.isCut_cons_iff.mp h
    have hopening : ∀ n, Text.occurrences '?' n s.opening = [] := by
      intro n
      unfold Segment.opening
      cases s.kind <;> rfl
    have hclosing : ∀ n, Text.occurrences '?' n (Segment.closing s.kind) = [] := by
      intro n
      cases s.kind <;> rfl
    have henclosed : (Text.occurrences '?' start s.enclosed).map Prod.fst =
        (Text.occurrences '?' s.offset s.text).map Prod.fst := by
      rw [Segment.enclosed, Text.map_fst_occurrences_append, Text.map_fst_occurrences_append,
        hopening, hclosing, List.map_nil, List.append_nil, List.nil_append, hoffset]
    rw [ofSegments, List.map_append, map_offset_ofText, ih (index + 1) hlater,
      Segment.reassembled_cons, Text.map_fst_occurrences_append, henclosed]

/-- Marks are listed from left to right. -/
theorem pairwise_ofSegments (index : Nat) {segments : List Segment}
    (h : Segment.IsCut 0 segments) :
    (ofSegments index segments).Pairwise fun m m' => m.offset < m'.offset := by
  have hpairwise := Text.pairwise_occurrences '?' 0 (Segment.reassembled segments)
  rw [← map_offset_ofSegments index h] at hpairwise
  exact List.pairwise_map.mp hpairwise

end Mark

/-! ## Listing the placeholders is going through the marks -/

namespace Placeholder

/-- **The tokens of a text, and its marks.**  A letter that a token takes in is no question mark, so
no mark is passed over with it. -/
theorem ofTokens_ofText (segment : Nat) (inBlock : Bool) (offset : Nat) (t : Text) :
    ofTokens segment inBlock offset (Token.ofText t) =
      (Mark.ofText segment inBlock offset t).mapM Mark.placeholder := by
  fun_induction Token.ofText t generalizing offset with
  | case1 => rfl
  | case2 => rfl
  | case3 next later unsupported ih =>
    have hdemand : Specifier.demand (some next) = .error next := by
      rw [Specifier.demand, unsupported]
    have hmark : Mark.placeholder ⟨segment, offset, inBlock, some next⟩ =
        .error (.unsupportedSpecifier next) :=
      Mark.placeholder_eq_error_iff.mpr ⟨next, hdemand, rfl⟩
    rw [ofTokens_unknown, Mark.ofText_questionMark]
    exact (mapM_cons_of_error hmark _).symm
  | case4 next later s selected ih_boundary ih_letter =>
    have hdemand : Specifier.demand (some next) = .ok s := by
      rw [Specifier.demand, selected]
    have hmark : Mark.placeholder ⟨segment, offset, inBlock, some next⟩ =
        .ok ⟨segment, offset, s, inBlock⟩ := Mark.placeholder_eq_ok_iff.mpr ⟨hdemand, rfl⟩
    rw [ofTokens_hole, Mark.ofText_questionMark]
    refine Eq.trans ?_ (mapM_cons_of_ok hmark _).symm
    refine congrArg (Except.map _) ?_
    split
    · rename_i hboundary
      subst hboundary
      exact ih_boundary (offset + 1)
    · rename_i hletter
      have htext := Specifier.text_of_ofNext? selected hletter
      have hwidth : s.width = 1 + next.utf8Size := by
        rw [← Specifier.byteLength_text, htext]
        rfl
      have hnext : next ≠ '?' := by
        rintro rfl
        rw [Specifier.ofNext?_questionMark] at selected
        cases selected
      rw [ih_letter, Mark.ofText_of_ne _ _ _ _ hnext, hwidth, Nat.add_assoc]
  | case5 c rest plain ih =>
    rw [ofTokens_literal, ih, Mark.ofText_of_ne _ _ _ _ plain]

theorem ofSegments_eq (index : Nat) (segments : List Segment) :
    ofSegments index segments = (Mark.ofSegments index segments).mapM Mark.placeholder := by
  induction segments generalizing index with
  | nil => rfl
  | cons s later ih =>
    rw [ofSegments, Mark.ofSegments, List.mapM_append, Segment.tokens, ofTokens_ofText, ih]

end Placeholder

/-! ## Around a mark -/

namespace Segment

theorem reassembled_append (before after : List Segment) :
    reassembled (before ++ after) = reassembled before ++ reassembled after :=
  List.flatMap_append

/-- Behind segments as they stand in a template, no block is open. -/
theorem getLast?_braces_reassembled_ne {segments : List Segment}
    (hbraceless : ∀ s ∈ segments, '{' ∉ s.text ∧ '}' ∉ s.text) :
    (braces (reassembled segments)).getLast? ≠ some '{' := by
  induction segments with
  | nil => exact nofun
  | cons s later ih =>
    obtain ⟨hs, hlater⟩ := List.forall_mem_cons.mp hbraceless
    rw [reassembled_cons, Text.braces_append, List.getLast?_append, enclosed, Text.braces_append,
      Text.braces_append, Text.braces_eq_nil_iff.mpr hs, opening]
    cases hlast : (braces (reassembled later)).getLast? with
    | some c =>
      intro h
      exact ih hlater (hlast.trans h)
    | none => cases s.kind <;> decide

namespace IsCut
variable {start : Nat} {segments : List Segment}

theorem start_le_offset (h : IsCut start segments) {s : Segment} (hs : s ∈ segments) :
    start ≤ s.offset := by
  obtain ⟨before, after, hsegments⟩ := List.append_of_mem hs
  rw [h.placed before s after hsegments]
  exact Nat.le_add_right ..

/-- The texts of two segments do not overlap. -/
theorem end_le_offset (h : IsCut start segments) {i j : Nat} {s s' : Segment}
    (hi : segments[i]? = some s) (hj : segments[j]? = some s') (hlt : i < j) :
    s.offset + byteLength s.text ≤ s'.offset := by
  induction segments generalizing start i j with
  | nil => cases hi
  | cons first later ih =>
    obtain ⟨-, -, -, hoffset, hlater⟩ := isCut_cons_iff.mp h
    cases j with
    | zero => exact absurd hlt (Nat.not_lt_zero i)
    | succ j =>
      rw [List.getElem?_cons_succ] at hj
      cases i with
      | succ i => exact ih hlater hi hj (Nat.lt_of_succ_lt_succ hlt)
      | zero =>
        cases hi
        have hle := hlater.start_le_offset (List.mem_of_getElem? hj)
        rw [enclosed, Text.byteLength_append, Text.byteLength_append] at hle
        omega

/-- What stands behind the text of a segment is a brace, or nothing. -/
theorem head?_behind {before after : List Segment} {s : Segment}
    (h : IsCut start (before ++ s :: after)) :
    ∀ c ∈ (closing s.kind ++ reassembled after).head?, c = '{' ∨ c = '}' := by
  cases hkind : s.kind with
  | block =>
    rintro c ⟨⟩
    exact .inr rfl
  | always =>
    cases after with
    | nil => exact nofun
    | cons next later =>
      obtain ⟨-, hchain, -⟩ := List.isChain_append.mp h.separate
      have hnext := (List.isChain_cons.mp hchain).1 next rfl
      have hblock : next.kind = .block := by
        cases hnextKind : next.kind with
        | block => rfl
        | always => exact absurd ⟨hkind, hnextKind⟩ hnext
      rw [reassembled_cons, enclosed, opening, hblock]
      rintro c ⟨⟩
      exact .inl rfl

/-- **Around a mark.**  A template can be cut at a mark: there stands a question mark, and behind it
is the next character of the segment, or else a brace or nothing; and the last brace in front of it
opens a block exactly if the segment is a block. -/
theorem exists_around_mark (h : IsCut 0 segments) {m : Mark}
    (hm : m ∈ Mark.ofSegments 0 segments) :
    ∃ before after, reassembled segments = before ++ '?' :: after ∧
      byteLength before = m.offset ∧
      (∀ c, m.next = some c → after.head? = some c) ∧
      (m.next = none → ∀ c ∈ after.head?, c = '{' ∨ c = '}') ∧
      ((braces before).getLast? = some '{' ↔ m.inBlock = true) := by
  obtain ⟨earlier, s, later, rfl, hmark⟩ := Mark.mem_ofSegments_iff.mp hm
  obtain ⟨front, rest, htext, rfl⟩ := Mark.mem_ofText_iff.mp hmark
  have hbraceless := h.braceless s (List.mem_append_right _ (List.mem_cons_self ..))
  refine ⟨reassembled earlier ++ s.opening ++ front,
    rest ++ (closing s.kind ++ reassembled later), ?_, ?_, ?_, ?_, ?_⟩
  · rw [reassembled_append, reassembled_cons, enclosed, htext]
    simp only [List.append_assoc, List.cons_append]
  · rw [Text.byteLength_append]
    exact congrArg (· + byteLength front)
      ((Nat.zero_add _).symm.trans (h.placed earlier s later rfl).symm)
  · intro c hc
    have hrest : rest.head? = some c := hc
    rw [List.head?_append, hrest]
    rfl
  · intro hnone
    rw [List.head?_eq_none_iff.mp hnone, List.nil_append]
    exact h.head?_behind
  · have hfront : braces front = [] := by
      rw [htext] at hbraceless
      exact Text.braces_eq_nil_iff.mpr
        (hbraceless.imp (mt (List.mem_append_left _)) (mt (List.mem_append_left _)))
    have hearlier := getLast?_braces_reassembled_ne fun s' hs' =>
      h.braceless s' (List.mem_append_left _ hs')
    rw [Text.braces_append, Text.braces_append, hfront, List.append_nil, opening]
    change _ ↔ s.isBlock = true
    rw [isBlock]
    cases s.kind with
    | always =>
      rw [Text.braces_eq_nil_iff.mpr ⟨List.not_mem_nil, List.not_mem_nil⟩, List.append_nil]
      exact iff_of_false hearlier (by decide)
    | block => exact iff_of_true List.getLast?_concat (by decide)

end IsCut

end Segment

/-! ## Sound and complete -/

/-- A question mark of a template that no supported character follows in its segment: where it
stands, and the character that does follow. -/
def Template.UnsupportedAt (t : Template) (position : Nat) (next : Char) : Prop :=
  ∃ s ∈ t.segments, ∃ before after, s.text = before ++ '?' :: next :: after ∧
    position = s.offset + byteLength before ∧ next ∉ Specifier.supported

/-- **A placeholder of a template** stands where it is said to stand. -/
structure Placeholder.StandsIn (t : Template) (p : Placeholder) : Prop where
  /-- The bytes of the template from its offset on, as many as it takes, are its text; a general one
  stands before a space, a comma, a brace or the end; and it stands in a block if the last brace in
  front of it opens one. -/
  text : ∃ before rest after, t.source.cut? p.offset = some (before, rest) ∧
    rest.cut? p.specifier.width = some (p.specifier.text, after) ∧
    (p.specifier = .escaped → ∀ c ∈ after.head?, c = ' ' ∨ c = ',' ∨ c = '{' ∨ c = '}') ∧
    (p.inBlock = true ↔ (braces before).getLast? = some '{')
  /-- Its segment is the one whose bytes include its offset. -/
  segment : ∀ i, i = p.segment ↔ ∃ s, t.segments[i]? = some s ∧
    s.offset ≤ p.offset ∧ p.offset < s.offset + byteLength s.text

section Listing
variable {source : Text} {segments : List Segment}

/-- The unsupported question marks are the marks at which there is no placeholder. -/
theorem Template.unsupportedAt_iff {position : Nat} {next : Char} :
    Template.UnsupportedAt ⟨source, segments⟩ position next ↔
      ∃ m ∈ Mark.ofSegments 0 segments, m.offset = position ∧
        m.placeholder = .error (.unsupportedSpecifier next) := by
  constructor
  · rintro ⟨s, hs, before, after, htext, rfl, hnext⟩
    obtain ⟨earlier, later, hsegments⟩ := List.append_of_mem hs
    refine ⟨⟨0 + earlier.length, s.offset + byteLength before, s.isBlock, some next⟩,
      Mark.mem_ofSegments_iff.mpr ⟨earlier, s, later, hsegments,
        Mark.mem_ofText_iff.mpr ⟨before, next :: after, htext, rfl⟩⟩, rfl, ?_⟩
    exact Mark.placeholder_eq_error_iff.mpr
      ⟨next, Specifier.demand_eq_error_iff.mpr ⟨rfl, hnext⟩, rfl⟩
  · rintro ⟨m, hm, rfl, hplaceholder⟩
    obtain ⟨earlier, s, later, hsegments, hmark⟩ := Mark.mem_ofSegments_iff.mp hm
    obtain ⟨before, after, htext, rfl⟩ := Mark.mem_ofText_iff.mp hmark
    obtain ⟨_, hdemand, ⟨⟩⟩ := Mark.placeholder_eq_error_iff.mp hplaceholder
    obtain ⟨hhead, hnext⟩ := Specifier.demand_eq_error_iff.mp hdemand
    obtain ⟨rest, rfl⟩ := List.head?_eq_some_iff.mp hhead
    have hs : s ∈ segments := hsegments ▸ List.mem_append_right _ (List.mem_cons_self ..)
    exact ⟨s, hs, before, rest, htext, rfl, hnext⟩

/-- **Where the listing stops**: at the leftmost mark at which there is no placeholder. -/
theorem Placeholder.ofSegments_eq_error_iff (h : Segment.IsCut 0 segments) {cause : Cause} :
    ofSegments 0 segments = .error cause ↔
      ∃ m ∈ Mark.ofSegments 0 segments, m.placeholder = .error cause ∧
        ∀ m' ∈ Mark.ofSegments 0 segments, ∀ cause', m'.placeholder = .error cause' →
          m.offset ≤ m'.offset := by
  have hpairwise := Mark.pairwise_ofSegments 0 h
  rw [ofSegments_eq, mapM_eq_error_iff]
  constructor
  · rintro ⟨before, m, after, hmarks, hbefore, hm⟩
    rw [hmarks] at hpairwise ⊢
    refine ⟨m, List.mem_append_right _ (List.mem_cons_self ..), hm, fun m' hm' cause' hcause' => ?_⟩
    rcases List.mem_append.mp hm' with hm' | hm'
    · obtain ⟨p, hp⟩ := hbefore m' hm'
      rw [hp] at hcause'
      cases hcause'
    · rcases List.mem_cons.mp hm' with rfl | hm'
      · exact Nat.le_refl _
      · have hlater := (List.pairwise_append.mp hpairwise).2.1
        exact Nat.le_of_lt ((List.pairwise_cons.mp hlater).1 m' hm')
  · rintro ⟨m, hm, hcause, hleftmost⟩
    obtain ⟨before, after, hmarks⟩ := List.append_of_mem hm
    refine ⟨before, m, after, hmarks, fun m' hm' => ?_, hcause⟩
    cases hplaceholder : m'.placeholder with
    | ok p => exact ⟨p, rfl⟩
    | error cause' =>
      -- a mark in front of the leftmost one
      rw [hmarks] at hpairwise hleftmost
      have hlt := (List.pairwise_append.mp hpairwise).2.2 m' hm' m (List.mem_cons_self ..)
      have hle := hleftmost m' (List.mem_append_left _ hm') cause' hplaceholder
      omega

/-- **A placeholder that is listed** stands where it is said to stand. -/
theorem Placeholder.standsIn_of_mark (h : Segment.IsCut 0 segments) {m : Mark}
    (hm : m ∈ Mark.ofSegments 0 segments) {p : Placeholder} (hp : m.placeholder = .ok p) :
    p.StandsIn ⟨Segment.reassembled segments, segments⟩ := by
  obtain ⟨hdemand, hplace⟩ := Mark.placeholder_eq_ok_iff.mp hp
  constructor
  · obtain ⟨before, rest, htemplate, hlength, hnext, hend, hbraces⟩ := h.exists_around_mark hm
    obtain ⟨after, hrest, hgeneral⟩ := Specifier.exists_text_append hdemand hnext
    rw [hrest] at htemplate
    refine ⟨before, p.specifier.text ++ after, after, ?_, ?_, ?_, ?_⟩
    · rw [hplace, ← hlength, htemplate, Text.cut?_byteLength_append]
    · rw [← Specifier.byteLength_text, Text.cut?_byteLength_append]
    · intro hescaped c hc
      rw [hgeneral hescaped] at hc
      rw [hescaped] at hdemand
      cases hm_next : m.next with
      | none => exact .inr (.inr (hend hm_next c hc))
      | some c' =>
        cases (hnext c' hm_next).symm.trans hc
        rcases Specifier.next_of_demand_escaped hdemand c hm_next with hspace | hcomma
        · exact .inl hspace
        · exact .inr (.inl hcomma)
    · rw [hbraces, hplace]
  · obtain ⟨earlier, s, later, hsegments, hmark⟩ := Mark.mem_ofSegments_iff.mp hm
    obtain ⟨front, rest, htext, rfl⟩ := Mark.mem_ofText_iff.mp hmark
    have hat : segments[p.segment]? = some s := by
      rw [hplace, hsegments, Nat.zero_add]
      exact List.getElem?_append_right (Nat.le_refl _) |>.trans (by rw [Nat.sub_self]; rfl)
    have hoffset : p.offset = s.offset + byteLength front := by rw [hplace]
    have hlength : byteLength s.text = byteLength front + (1 + byteLength rest) := by
      rw [htext, Text.byteLength_append, Text.byteLength_cons]
      rfl
    intro i
    constructor
    · rintro rfl
      exact ⟨s, hat, by omega, by omega⟩
    · rintro ⟨s', hi, hstart, hend⟩
      rcases Nat.lt_trichotomy i p.segment with hlt | heq | hgt
      · have hle := h.end_le_offset hi hat hlt
        omega
      · exact heq
      · have hle := h.end_le_offset hat hi hgt
        omega

/-- **Where listing the placeholders fails**: at the leftmost question mark that no supported
character follows. -/
theorem Template.placeholders_eq_error_iff (h : Segment.IsCut 0 segments) {e : BuildError} :
    Template.placeholders ⟨source, segments⟩ = .error e ↔
      ∃ position next, Template.UnsupportedAt ⟨source, segments⟩ position next ∧
        (∀ position' next', Template.UnsupportedAt ⟨source, segments⟩ position' next' →
          position ≤ position') ∧
        e = ⟨source, .unsupportedSpecifier next⟩ := by
  rw [placeholders, failing_eq_error_iff]
  constructor
  · rintro ⟨cause, hcause, rfl⟩
    obtain ⟨m, hm, hmark, hleftmost⟩ := (Placeholder.ofSegments_eq_error_iff h).mp hcause
    obtain ⟨next, -, rfl⟩ := Mark.placeholder_eq_error_iff.mp hmark
    refine ⟨m.offset, next, unsupportedAt_iff.mpr ⟨m, hm, rfl, hmark⟩, ?_, rfl⟩
    intro position' next' hunsupported
    obtain ⟨m', hm', rfl, hmark'⟩ := unsupportedAt_iff.mp hunsupported
    exact hleftmost m' hm' _ hmark'
  · rintro ⟨position, next, hunsupported, hleftmost, rfl⟩
    obtain ⟨m, hm, rfl, hmark⟩ := unsupportedAt_iff.mp hunsupported
    refine ⟨_, (Placeholder.ofSegments_eq_error_iff h).mpr ⟨m, hm, hmark, ?_⟩, rfl⟩
    intro m' hm' cause' hmark'
    obtain ⟨next', -, rfl⟩ := Mark.placeholder_eq_error_iff.mp hmark'
    exact hleftmost m'.offset next' (unsupportedAt_iff.mpr ⟨m', hm', rfl, hmark'⟩)

/-- Listing the placeholders fails if any question mark is not supported. -/
theorem Template.exists_placeholders_eq_error_iff (h : Segment.IsCut 0 segments) :
    (∃ e, Template.placeholders ⟨source, segments⟩ = .error e) ↔
      ∃ position next, Template.UnsupportedAt ⟨source, segments⟩ position next := by
  constructor
  · rintro ⟨e, he⟩
    obtain ⟨position, next, hunsupported, -⟩ := (placeholders_eq_error_iff h).mp he
    exact ⟨position, next, hunsupported⟩
  · rintro ⟨position, next, hunsupported⟩
    obtain ⟨m, hm, -, hmark⟩ := unsupportedAt_iff.mp hunsupported
    cases hlisted : Template.placeholders ⟨source, segments⟩ with
    | error e => exact ⟨e, rfl⟩
    | ok found =>
      -- then there is a placeholder at every mark
      rw [placeholders, failing_eq_ok_iff, Placeholder.ofSegments_eq, mapM_eq_ok_iff] at hlisted
      have hmem : m.placeholder ∈ found.map Except.ok := hlisted ▸ List.mem_map_of_mem hm
      obtain ⟨p, -, hp⟩ := List.mem_map.mp hmem
      rw [hmark] at hp
      cases hp

end Listing

/-- **Listing the placeholders is sound and complete.**  It fails exactly if some question mark is
followed in its segment by a character that is not supported, and names the character behind the
leftmost one.  Otherwise the offsets are the byte positions of all question marks of the template,
in increasing order, and each placeholder stands where it is said to stand. -/
theorem Template.placeholders_sound_and_complete {source : Text} {t : Template}
    (h : Template.parse source = .ok t) :
    ((∃ e, t.placeholders = .error e) ↔ ∃ position next, t.UnsupportedAt position next) ∧
    (∀ e, t.placeholders = .error e ↔
      ∃ position next, t.UnsupportedAt position next ∧
        (∀ position' next', t.UnsupportedAt position' next' → position ≤ position') ∧
        e = ⟨source, .unsupportedSpecifier next⟩) ∧
    ∀ found, t.placeholders = .ok found →
      (found.map Placeholder.offset).Pairwise (· < ·) ∧
      (∀ n, n ∈ found.map Placeholder.offset ↔
        ∃ before after, source = before ++ '?' :: after ∧ n = byteLength before) ∧
      ∀ p ∈ found, p.StandsIn t := by
  obtain ⟨segments, hsplit, rfl⟩ := Template.parse_eq_ok_iff.mp h
  obtain ⟨hcut, rfl⟩ := Segment.split_eq_ok_iff_isCut.mp hsplit
  refine ⟨exists_placeholders_eq_error_iff hcut, fun e => placeholders_eq_error_iff hcut,
    fun found hfound => ?_⟩
  rw [placeholders, failing_eq_ok_iff, Placeholder.ofSegments_eq] at hfound
  have hoffset : ∀ (m : Mark) (p : Placeholder), m.placeholder = .ok p → p.offset = m.offset := by
    intro m p hp
    rw [(Mark.placeholder_eq_ok_iff.mp hp).2]
  have hoffsets := map_eq_map_of_mapM hoffset hfound
  rw [Mark.map_offset_ofSegments 0 hcut] at hoffsets
  refine ⟨?_, fun n => ?_, fun p hp => ?_⟩
  · rw [hoffsets]
    exact Text.pairwise_occurrences ..
  · rw [hoffsets, List.mem_map]
    constructor
    · rintro ⟨⟨n, after⟩, hmem, rfl⟩
      obtain ⟨before, hsource, hn⟩ := Text.mem_occurrences_iff.mp hmem
      rw [Nat.zero_add] at hn
      exact ⟨before, after, hsource, hn⟩
    · rintro ⟨before, after, hsource, hn⟩
      rw [← Nat.zero_add (byteLength before)] at hn
      exact ⟨(n, after), Text.mem_occurrences_iff.mpr ⟨before, hsource, hn⟩, rfl⟩
  · obtain ⟨m, hm, hmark⟩ := exists_of_mem_mapM hfound hp
    exact Placeholder.standsIn_of_mark hcut hm hmark

/-- A general placeholder before a brace, behind a character of two bytes; and a template whose
second question mark is followed by such a character. -/
theorem Template.placeholders_around_braces :
    (∃ t, Template.parse "é?\x7b ?a\x7d?#".toList = .ok t ∧
      t.placeholders =
        .ok [⟨0, 2, .escaped, false⟩, ⟨1, 5, .array, true⟩, ⟨2, 8, .column, false⟩] ∧
      Placeholder.StandsIn t ⟨0, 2, .escaped, false⟩ ∧
      Placeholder.StandsIn t ⟨1, 5, .array, true⟩) ∧
    ∃ t, Template.parse "\x7b?d\x7d?é?x".toList = .ok t ∧ t.UnsupportedAt 4 'é' ∧
      ∃ e, t.placeholders = .error e := by
  constructor
  · have hparse : Template.parse "é?\x7b ?a\x7d?#".toList =
        .ok ⟨"é?\x7b ?a\x7d?#".toList, [⟨"é?".toList, .always, 0⟩, ⟨" ?a".toList, .block, 4⟩,
          ⟨"?#".toList, .always, 8⟩]⟩ := rfl
    have hstands := ((placeholders_sound_and_complete hparse).2.2 _ rfl).2.2
    exact ⟨_, hparse, rfl, hstands _ (List.mem_cons_self ..),
      hstands _ (List.mem_cons_of_mem _ (List.mem_cons_self ..))⟩
  · have hparse : Template.parse "\x7b?d\x7d?é?x".toList =
        .ok ⟨"\x7b?d\x7d?é?x".toList,
          [⟨"?d".toList, .block, 1⟩, ⟨"?é?x".toList, .always, 4⟩]⟩ := rfl
    have hunsupported : Template.UnsupportedAt ⟨"\x7b?d\x7d?é?x".toList,
        [⟨"?d".toList, .block, 1⟩, ⟨"?é?x".toList, .always, 4⟩]⟩ 4 'é' :=
      ⟨⟨"?é?x".toList, .always, 4⟩, by decide, [], "?x".toList, rfl, rfl, by decide⟩
    exact ⟨_, hparse, hunsupported,
      (placeholders_sound_and_complete hparse).1.mpr ⟨4, 'é', hunsupported⟩⟩

end QueryTemplate
