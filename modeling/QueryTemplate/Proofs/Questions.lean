import QueryTemplate.Template.Basic

/-!
# The question marks of a template

`Token.ofText` reads a segment token by token, and what it reads decides everything that happens
to the segment afterwards.  To say what a build does without following that reading, this module
looks at a text directly: `Text.demands` goes through its characters and notes, for each question
mark, what the character behind it demands (`Specifier.demand`).

The two views agree (`Token.demands_ofText`): every question mark of a text begins a token of its
own, because no letter that selects a conversion is itself a question mark.  A `Question` is a
demand together with the kind of the segment in which it stands, and `Question.ofSegments` numbers
the question marks of a template from left to right, across all of its segments.  Where the
placeholders can be listed, they are the question marks (`Placeholder.ofSegments_eq_ok`).
-/

namespace QueryTemplate

/-- What a question mark demands: a conversion, or, where the character behind it selects none,
that character. -/
abbrev Demand := Except Char Specifier

namespace Specifier

/-- The demand of a question mark, given the character behind it, with `none` for the end of the
segment. -/
def demand : Option Char → Demand
  | none => .ok .escaped
  | some next =>
    match ofNext? (some next) with
    | some s => .ok s
    | none => .error next

/-- A question mark behind a question mark selects no conversion. -/
theorem ofNext?_questionMark : ofNext? (some '?') = none := rfl

end Specifier

namespace Text

/-- **The demands of a text**, one for each of its question marks, from left to right. -/
def demands : Text → List Demand
  | [] => []
  | c :: rest => if c = '?' then Specifier.demand rest.head? :: demands rest else demands rest

theorem demands_cons_of_ne {c : Char} (rest : Text) (h : c ≠ '?') :
    demands (c :: rest) = demands rest := if_neg h

theorem demands_questionMark (rest : Text) :
    demands ('?' :: rest) = Specifier.demand rest.head? :: demands rest := if_pos rfl

end Text

namespace Token

/-- The demand of a token that stands for a question mark. -/
def demand? : Token → Option Demand
  | .literal _ => none
  | .hole s => some (.ok s)
  | .unknown next => some (.error next)

/-- The demands of a list of tokens, in order. -/
def demands (tokens : List Token) : List Demand :=
  tokens.filterMap demand?

@[simp] theorem demands_literal (c : Char) (rest : List Token) :
    demands (.literal c :: rest) = demands rest := rfl

@[simp] theorem demands_hole (s : Specifier) (rest : List Token) :
    demands (.hole s :: rest) = .ok s :: demands rest := rfl

@[simp] theorem demands_unknown (next : Char) (rest : List Token) :
    demands (.unknown next :: rest) = .error next :: demands rest := rfl

/-- **Every question mark begins a token of its own**: the demands of the tokens of a text are the
demands of the text. -/
theorem demands_ofText (t : Text) : demands (ofText t) = Text.demands t := by
  fun_induction ofText t with
  | case1 => rfl
  | case2 => rfl
  | case3 next later unsupported ih =>
    have hdemand : Specifier.demand (some next) = .error next := by
      rw [Specifier.demand, unsupported]
    rw [demands_unknown, ih, Text.demands_questionMark, List.head?_cons, hdemand]
  | case4 next later s selected ih_boundary ih_letter =>
    have hdemand : Specifier.demand (some next) = .ok s := by
      rw [Specifier.demand, selected]
    rw [demands_hole, Text.demands_questionMark, List.head?_cons, hdemand]
    refine congrArg (List.cons (Except.ok s)) ?_
    split
    · exact ih_boundary
    · -- a letter that selects a conversion is skipped by the tokens, and is no question mark
      have hnext : next ≠ '?' := by
        rintro rfl
        rw [Specifier.ofNext?_questionMark] at selected
        cases selected
      rw [ih_letter, Text.demands_cons_of_ne later hnext]
  | case5 c rest plain ih =>
    rw [demands_literal, ih, Text.demands_cons_of_ne rest plain]

end Token

/-- **A question mark of a template.** -/
structure Question where
  /-- What it demands. -/
  demand : Demand
  /-- The kind of the segment in which it stands. -/
  kind : SegmentKind

/-- The question marks of a segment. -/
def Segment.questions (s : Segment) : List Question :=
  (Text.demands s.text).map (⟨·, s.kind⟩)

/-- The tokens of a segment demand what its question marks demand. -/
theorem Segment.demands_tokens (s : Segment) :
    Token.demands s.tokens = s.questions.map Question.demand := by
  rw [Segment.tokens, Token.demands_ofText, Segment.questions, List.map_map]
  exact (List.map_id _).symm

theorem Segment.length_demands_tokens (s : Segment) :
    (Token.demands s.tokens).length = s.questions.length := by
  rw [demands_tokens, List.length_map]

/-- A demand of the tokens of a segment is that of one of its question marks. -/
theorem Segment.exists_question_of_demand {s : Segment} {i : Nat} {d : Demand}
    (h : (Token.demands s.tokens)[i]? = some d) :
    ∃ q, s.questions[i]? = some q ∧ q.demand = d := by
  rw [demands_tokens, List.getElem?_map] at h
  exact Option.map_eq_some_iff.mp h

/-- The question marks of a list of segments, from left to right across all of them. -/
def Question.ofSegments (segments : List Segment) : List Question :=
  segments.flatMap Segment.questions

namespace Question

@[simp] theorem ofSegments_nil : ofSegments [] = [] := rfl

@[simp] theorem ofSegments_cons (s : Segment) (later : List Segment) :
    ofSegments (s :: later) = s.questions ++ ofSegments later := rfl

@[simp] theorem ofSegments_append (before after : List Segment) :
    ofSegments (before ++ after) = ofSegments before ++ ofSegments after :=
  List.flatMap_append

/-- The question marks of a segment come behind those of the segments before it. -/
theorem getElem?_ofSegments {before later : List Segment} {s : Segment} {i : Nat} {q : Question}
    (h : s.questions[i]? = some q) :
    (ofSegments (before ++ s :: later))[(ofSegments before).length + i]? = some q := by
  have hlt : i < s.questions.length := (List.getElem?_eq_some_iff.mp h).1
  rw [ofSegments_append, List.getElem?_append_right (Nat.le_add_right ..),
    Nat.add_sub_cancel_left, ofSegments_cons, List.getElem?_append_left hlt, h]

end Question

/-! ## Placeholders are question marks -/

namespace Placeholder

theorem ofTokens_literal (segment : Nat) (inBlock : Bool) (offset : Nat) (c : Char)
    (rest : List Token) :
    ofTokens segment inBlock offset (.literal c :: rest) =
      ofTokens segment inBlock (offset + c.utf8Size) rest := rfl

theorem ofTokens_unknown (segment : Nat) (inBlock : Bool) (offset : Nat) (next : Char)
    (rest : List Token) :
    ofTokens segment inBlock offset (.unknown next :: rest) =
      .error (.unsupportedSpecifier next) := rfl

theorem ofTokens_hole (segment : Nat) (inBlock : Bool) (offset : Nat) (s : Specifier)
    (rest : List Token) :
    ofTokens segment inBlock offset (.hole s :: rest) =
      (ofTokens segment inBlock (offset + s.width) rest).map
        (⟨segment, offset, s, inBlock⟩ :: ·) := by
  rw [← Specifier.byteLength_text s]
  rfl

/-- The question mark that a placeholder stands for. -/
def question (p : Placeholder) : Question :=
  ⟨.ok p.specifier, if p.inBlock then .block else .always⟩

/-- The placeholders found among tokens answer their demands one by one, know their segment, and
stand no earlier than the first token. -/
theorem ofTokens_eq_ok {segment : Nat} {inBlock : Bool} {offset : Nat} {tokens : List Token}
    {found : List Placeholder} (h : ofTokens segment inBlock offset tokens = .ok found) :
    Token.demands tokens = found.map (fun p => .ok p.specifier) ∧
      ∀ p ∈ found, p.segment = segment ∧ p.inBlock = inBlock ∧ offset ≤ p.offset := by
  induction tokens generalizing offset found with
  | nil =>
    cases h
    exact ⟨rfl, fun p hp => by cases hp⟩
  | cons token rest ih =>
    cases token with
    | literal c =>
      rw [ofTokens_literal] at h
      obtain ⟨hdemands, hplaces⟩ := ih h
      refine ⟨hdemands, fun p hp => ?_⟩
      obtain ⟨hsegment, hblock, hoffset⟩ := hplaces p hp
      exact ⟨hsegment, hblock, by omega⟩
    | unknown next => cases h
    | hole s =>
      rw [ofTokens_hole] at h
      cases hrest : ofTokens segment inBlock (offset + s.width) rest with
      | error cause =>
        rw [hrest] at h
        cases h
      | ok later =>
        rw [hrest] at h
        cases h
        obtain ⟨hdemands, hplaces⟩ := ih hrest
        refine ⟨?_, ?_⟩
        · rw [Token.demands_hole, hdemands]
          rfl
        · rintro p (_ | ⟨_, hp⟩)
          · exact ⟨rfl, rfl, Nat.le_refl _⟩
          · obtain ⟨hsegment, hblock, hoffset⟩ := hplaces p hp
            exact ⟨hsegment, hblock, by omega⟩

/-- Tokens that all demand a known conversion have placeholders. -/
theorem exists_ofTokens_eq_ok (segment : Nat) (inBlock : Bool) (offset : Nat)
    {tokens : List Token} (h : ∀ d ∈ Token.demands tokens, ∃ s, d = .ok s) :
    ∃ found, ofTokens segment inBlock offset tokens = .ok found := by
  induction tokens generalizing offset with
  | nil => exact ⟨[], rfl⟩
  | cons token rest ih =>
    cases token with
    | literal c => exact ih (offset + c.utf8Size) h
    | unknown next =>
      obtain ⟨s, hs⟩ := h (.error next) (List.mem_cons_self ..)
      cases hs
    | hole s =>
      obtain ⟨later, hlater⟩ :=
        ih (offset + s.width) fun d hd => h d (List.mem_cons_of_mem _ hd)
      exact ⟨_, by rw [ofTokens_hole, hlater]; rfl⟩

/-- The placeholders of a list of segments are those of the first, then those of the others. -/
theorem ofSegments_cons_eq_ok_iff {index : Nat} {s : Segment} {later : List Segment}
    {found : List Placeholder} :
    ofSegments index (s :: later) = .ok found ↔
      ∃ here rest, ofTokens index s.isBlock s.offset s.tokens = .ok here ∧
        ofSegments (index + 1) later = .ok rest ∧ found = here ++ rest := by
  rw [ofSegments]
  cases ofTokens index s.isBlock s.offset s.tokens with
  | error cause =>
    exact ⟨fun h => (by cases h), fun ⟨_, _, h, _⟩ => (by cases h)⟩
  | ok here =>
    cases ofSegments (index + 1) later with
    | error cause =>
      exact ⟨fun h => (by cases h), fun ⟨_, _, _, h, _⟩ => (by cases h)⟩
    | ok rest =>
      constructor
      · intro h
        cases h
        exact ⟨here, rest, rfl, rfl, rfl⟩
      · rintro ⟨_, _, ⟨⟩, ⟨⟩, rfl⟩
        rfl

theorem questions_eq_map {index : Nat} {s : Segment} {here : List Placeholder}
    (h : ofTokens index s.isBlock s.offset s.tokens = .ok here) :
    s.questions = here.map question := by
  obtain ⟨hdemands, hplaces⟩ := ofTokens_eq_ok h
  rw [Segment.tokens, Token.demands_ofText] at hdemands
  rw [Segment.questions, hdemands, List.map_map]
  -- a placeholder keeps whether it stands in a block, from which the kind is read back
  refine List.map_congr_left fun p hp => ?_
  obtain ⟨-, hblock, -⟩ := hplaces p hp
  rw [Function.comp_apply, question, hblock, Segment.isBlock]
  cases s.kind <;> rfl

/-- **Placeholders are question marks**: where the placeholders of a list of segments can be listed,
they are its question marks, one by one; and none belongs to an earlier segment. -/
theorem ofSegments_eq_ok {index : Nat} {segments : List Segment} {found : List Placeholder}
    (h : ofSegments index segments = .ok found) :
    Question.ofSegments segments = found.map question ∧ ∀ p ∈ found, index ≤ p.segment := by
  induction segments generalizing index found with
  | nil =>
    cases h
    exact ⟨rfl, fun p hp => by cases hp⟩
  | cons s later ih =>
    obtain ⟨here, rest, hhere, hrest, rfl⟩ := ofSegments_cons_eq_ok_iff.mp h
    obtain ⟨hquestions, hsegments⟩ := ih hrest
    refine ⟨?_, fun p hp => ?_⟩
    · rw [Question.ofSegments_cons, questions_eq_map hhere, hquestions, List.map_append]
    · rcases List.mem_append.mp hp with hp | hp
      · exact Nat.le_of_eq ((ofTokens_eq_ok hhere).2 p hp).1.symm
      · exact Nat.le_of_succ_le (hsegments p hp)

/-- The placeholders can be listed if every question mark demands a known conversion. -/
theorem exists_ofSegments_eq_ok (index : Nat) {segments : List Segment}
    (h : ∀ q ∈ Question.ofSegments segments, ∃ s, q.demand = .ok s) :
    ∃ found, ofSegments index segments = .ok found := by
  induction segments generalizing index with
  | nil => exact ⟨[], rfl⟩
  | cons s later ih =>
    have hhere : ∀ d ∈ Token.demands s.tokens, ∃ s, d = .ok s := by
      intro d hd
      rw [Segment.tokens, Token.demands_ofText] at hd
      exact h ⟨d, s.kind⟩ (List.mem_append_left _ (List.mem_map_of_mem hd))
    obtain ⟨here, hhere⟩ := exists_ofTokens_eq_ok index s.isBlock s.offset hhere
    obtain ⟨rest, hrest⟩ := ih (index + 1) fun q hq => h q (List.mem_append_right _ hq)
    exact ⟨here ++ rest, ofSegments_cons_eq_ok_iff.mpr ⟨here, rest, hhere, hrest, rfl⟩⟩

/-- Listing the placeholders among tokens fails at the first demand that selects no conversion. -/
theorem ofTokens_eq_error {segment : Nat} {inBlock : Bool} {offset : Nat} {tokens : List Token}
    {cause : Cause} (h : ofTokens segment inBlock offset tokens = .error cause) :
    ∃ before next after, Token.demands tokens = before ++ .error next :: after ∧
      (∀ d ∈ before, ∃ s, d = .ok s) ∧ cause = .unsupportedSpecifier next := by
  induction tokens generalizing offset with
  | nil => cases h
  | cons token rest ih =>
    cases token with
    | literal c =>
      rw [ofTokens_literal] at h
      exact ih h
    | unknown next =>
      rw [ofTokens_unknown] at h
      cases h
      exact ⟨[], next, Token.demands rest, rfl, nofun, rfl⟩
    | hole s =>
      rw [ofTokens_hole] at h
      cases hrest : ofTokens segment inBlock (offset + s.width) rest with
      | ok later =>
        rw [hrest] at h
        cases h
      | error found =>
        rw [hrest] at h
        cases h
        obtain ⟨before, next, after, hdemands, hbefore, hcause⟩ := ih hrest
        refine ⟨.ok s :: before, next, after, ?_, ?_, hcause⟩
        · rw [Token.demands_hole, hdemands]
          rfl
        · exact List.forall_mem_cons.mpr ⟨⟨s, rfl⟩, hbefore⟩

/-- **Where the placeholders cannot be listed**, that is because of the leftmost question mark that
selects no conversion. -/
theorem ofSegments_eq_error {index : Nat} {segments : List Segment} {cause : Cause}
    (h : ofSegments index segments = .error cause) :
    ∃ before next kind after,
      Question.ofSegments segments = before ++ ⟨.error next, kind⟩ :: after ∧
      (∀ q ∈ before, ∃ s, q.demand = .ok s) ∧ cause = .unsupportedSpecifier next := by
  induction segments generalizing index with
  | nil => cases h
  | cons s later ih =>
    rw [ofSegments] at h
    cases hhere : ofTokens index s.isBlock s.offset s.tokens with
    | error found =>
      rw [hhere] at h
      cases h
      obtain ⟨before, next, after, hdemands, hbefore, hcause⟩ := ofTokens_eq_error hhere
      rw [Segment.tokens, Token.demands_ofText] at hdemands
      refine ⟨before.map (⟨·, s.kind⟩), next, s.kind,
        after.map (⟨·, s.kind⟩) ++ Question.ofSegments later, ?_, ?_, hcause⟩
      · rw [Question.ofSegments_cons, Segment.questions, hdemands, List.map_append, List.map_cons,
          List.append_assoc, List.cons_append]
      · exact List.forall_mem_map.mpr hbefore
    | ok here =>
      rw [hhere] at h
      cases hlater : ofSegments (index + 1) later with
      | ok rest =>
        rw [hlater] at h
        cases h
      | error found =>
        rw [hlater] at h
        cases h
        obtain ⟨before, next, kind, after, hquestions, hbefore, hcause⟩ := ih hlater
        refine ⟨s.questions ++ before, next, kind, after, ?_, ?_, hcause⟩
        · rw [Question.ofSegments_cons, hquestions, List.append_assoc]
        · rw [questions_eq_map hhere]
          exact List.forall_mem_append.mpr
            ⟨List.forall_mem_map.mpr fun p _ => ⟨p.specifier, rfl⟩, hbefore⟩

end Placeholder

end QueryTemplate
