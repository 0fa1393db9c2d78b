import QueryTemplate.Proofs.Questions
import QueryTemplate.Templater

/-!
# What filling does

`fillTokens`, `fillAll` and `Template.fill` hand a supply of arguments along and stop at the first
thing that is wrong.  This module takes the two apart.

All that a template learns of its arguments is what they **reply** (`Replies`): given the position
of an argument and a conversion, the outcome of that conversion.  From the replies, a question mark
either has a `Question.complaint?` or has none, and the first complaint of a template is what stops
the build (`Question.firstComplaint?`).  Where nobody complains, each segment becomes a text, or
nothing if a skip was among the replies (`Token.filled?`, `Segment.fillings`).

The three functions are then equal to "the first complaint, or else the texts" (`fillTokens_eq`,
`fillAll_eq`, `Template.fill_eq`), with the supply after `n` arguments being simply the arguments
without the first `n`.  So a build succeeds where nobody complains and no argument is left over
(`Templater.build_eq_ok_iff`).  Everything said later about builds rests on these equations and does
not open the functions again.
-/

namespace QueryTemplate

/-- **What the arguments of a build reply**: for the position of an argument, counted from zero, and
a conversion, the outcome of that conversion; nothing where there is no such argument. -/
abbrev Replies := Nat → Specifier → Option Converted

/-- The replies of a list of arguments. -/
def replies (e : Escaper) (args : List Argument) : Replies :=
  fun position s => args[position]?.map (s.convert e)

theorem replies_of_lt (e : Escaper) {args : List Argument} {position : Nat}
    (h : position < args.length) (s : Specifier) :
    replies e args position s = some (s.convert e args[position]) := by
  rw [replies, List.getElem?_eq_getElem h, Option.map_some]

theorem replies_of_length_le (e : Escaper) {args : List Argument} {position : Nat}
    (h : args.length ≤ position) (s : Specifier) : replies e args position s = none := by
  rw [replies, List.getElem?_eq_none h, Option.map_none]

/-- Why an outcome is not a text, if it is none. -/
def Converted.halt? : Converted → Option Halt
  | .ok _ => none
  | .error h => some h

theorem Converted.halt?_eq_some_iff {outcome : Converted} {h : Halt} :
    outcome.halt? = some h ↔ outcome = .error h := by
  cases outcome with
  | ok text => exact ⟨fun h => (by cases h), fun h => (by cases h)⟩
  | error h' => exact ⟨fun h => congrArg Except.error (Option.some.inj h), congrArg Converted.halt?⟩

namespace Question

/-- **What is wrong with a question mark**, if anything.  `position` counts the question marks
before it.  The tests are made in this order: the character behind it, whether there is an argument,
whether the argument can be written, whether a skip is allowed. -/
def complaint? (policy : SkipPolicy) (r : Replies) (position : Nat) (q : Question) : Option Cause :=
  match q.demand with
  | .error next => some (.unsupportedSpecifier next)
  | .ok s =>
    match r position s with
    | none => some (.missingArgument (position + 1))
    | some (.ok _) => none
    | some (.error (.fault f)) => some (.badArgument (position + 1) f)
    | some (.error .skip) =>
      if q.kind = .always ∧ policy = .error then some (.skipOutsideBlock (position + 1)) else none

/-- Whether an argument makes a question mark halt with a skip. -/
def skips (e : Escaper) (q : Question) (arg : Argument) : Bool :=
  match q.demand with
  | .ok s => Converted.halt? (s.convert e arg) = some .skip
  | .error _ => false

theorem skips_eq_true_iff {e : Escaper} {q : Question} {arg : Argument} :
    q.skips e arg = true ↔ ∃ s, q.demand = .ok s ∧ s.convert e arg = .error .skip := by
  unfold skips
  cases q.demand with
  | error next => exact ⟨fun h => (by cases h), fun ⟨_, h, _⟩ => (by cases h)⟩
  | ok s =>
    rw [decide_eq_true_iff]
    constructor
    · intro h
      exact ⟨s, rfl, Converted.halt?_eq_some_iff.mp h⟩
    · rintro ⟨_, ⟨⟩, h⟩
      exact Converted.halt?_eq_some_iff.mpr h

/-- The complaint of the leftmost question mark that has one.  `position` is that of the first. -/
def firstComplaint? (policy : SkipPolicy) (r : Replies) : Nat → List Question → Option Cause
  | _, [] => none
  | position, q :: later =>
    (q.complaint? policy r position).or (firstComplaint? policy r (position + 1) later)

theorem firstComplaint?_cons (policy : SkipPolicy) (r : Replies) (position : Nat) (q : Question)
    (later : List Question) :
    firstComplaint? policy r position (q :: later) =
      (q.complaint? policy r position).or (firstComplaint? policy r (position + 1) later) := rfl

theorem firstComplaint?_append (policy : SkipPolicy) (r : Replies) (position : Nat)
    (before after : List Question) :
    firstComplaint? policy r position (before ++ after) =
      (firstComplaint? policy r position before).or
        (firstComplaint? policy r (position + before.length) after) := by
  induction before generalizing position with
  | nil => rfl
  | cons q later ih =>
    rw [List.cons_append, firstComplaint?_cons, firstComplaint?_cons, ih, Option.or_assoc,
      List.length_cons, Nat.add_right_comm, Nat.add_assoc]

/-- A question mark without a complaint demands a known conversion and has its argument. -/
theorem of_complaint?_eq_none {e : Escaper} {policy : SkipPolicy} {args : List Argument}
    {position : Nat} {q : Question}
    (h : q.complaint? policy (replies e args) position = none) :
    (∃ s, q.demand = .ok s) ∧ position < args.length := by
  unfold complaint? at h
  cases hdemand : q.demand with
  | error next =>
    rw [hdemand] at h
    cases h
  | ok s =>
    refine ⟨⟨s, rfl⟩, Nat.lt_of_not_le fun hle => ?_⟩
    simp only [hdemand, replies_of_length_le e hle] at h
    cases h

/-- Where nobody complains, every question mark demands a known conversion and there are enough
arguments. -/
theorem of_firstComplaint?_eq_none {e : Escaper} {policy : SkipPolicy} {args : List Argument}
    {position : Nat} {questions : List Question} (hposition : position ≤ args.length)
    (h : firstComplaint? policy (replies e args) position questions = none) :
    (∀ q ∈ questions, ∃ s, q.demand = .ok s) ∧
      position + questions.length ≤ args.length := by
  induction questions generalizing position with
  | nil => exact ⟨fun q hq => (by cases hq), hposition⟩
  | cons q later ih =>
    rw [firstComplaint?_cons, Option.or_eq_none_iff] at h
    obtain ⟨hhead, hlater⟩ := h
    obtain ⟨hdemand, hlt⟩ := of_complaint?_eq_none hhead
    obtain ⟨hdemands, hcount⟩ := ih hlt hlater
    refine ⟨?_, by rw [List.length_cons]; omega⟩
    rintro q' (_ | ⟨_, hq⟩)
    · exact hdemand
    · exact hdemands q' hq

end Question

/-! ## The texts of tokens and segments -/

/-- The text of tokens whose holes are filled with what the arguments reply; nothing if some hole
gets no text.  `position` is that of the first question mark. -/
def Token.filled? (r : Replies) : Nat → List Token → Option Text
  | _, [] => some []
  | position, .literal c :: rest => (filled? r position rest).map ([c] ++ ·)
  | _, .unknown _ :: _ => none
  | position, .hole s :: rest =>
    match r position s with
    | some (.ok text) => (filled? r (position + 1) rest).map (text ++ ·)
    | _ => none

/-- A skip among the replies leaves no text. -/
theorem Token.filled?_eq_none {r : Replies} {tokens : List Token} {position i : Nat} {s : Specifier}
    (hdemand : (Token.demands tokens)[i]? = some (.ok s))
    (hskip : r (position + i) s = some (.error .skip)) : filled? r position tokens = none := by
  induction tokens generalizing position i with
  | nil => cases hdemand
  | cons token rest ih =>
    cases token with
    | literal c => rw [filled?, ih hdemand hskip, Option.map_none]
    | unknown next => rfl
    | hole s' =>
      rw [filled?]
      cases i with
      | zero =>
        cases hdemand
        rw [show r position s = some (.error .skip) from hskip]
      | succ i =>
        rw [demands_hole, List.getElem?_cons_succ] at hdemand
        rw [Nat.add_comm i, ← Nat.add_assoc] at hskip
        rw [ih hdemand hskip]
        split <;> rfl

/-- The stretches of template text between holes: the one before the first hole, and those that
follow a hole. -/
def Token.stretches : List Token → Text × List Text
  | [] => ([], [])
  | .literal c :: rest => (c :: (stretches rest).1, (stretches rest).2)
  | .unknown _ :: rest => ('?' :: (stretches rest).1, (stretches rest).2)
  | .hole _ :: rest => ([], (stretches rest).1 :: (stretches rest).2)

/-- The stretches of template text in a segment. -/
def Segment.stretches (s : Segment) : List Text :=
  (Token.stretches s.tokens).1 :: (Token.stretches s.tokens).2

/-- The stretches of template text of a segment, with a text inserted between each and the next. -/
def Token.interleaved (tokens : List Token) (inserted : List Text) : Text :=
  (stretches tokens).1 ++ (List.zipWith (· ++ ·) inserted (stretches tokens).2).flatten

/-- **No template text is lost in filling**: the text of tokens is their stretches of template text,
with one text inserted for each question mark. -/
theorem Token.exists_interleaved_of_filled? {r : Replies} {tokens : List Token} {position : Nat}
    {text : Text} (h : filled? r position tokens = some text) :
    ∃ inserted, inserted.length = (demands tokens).length ∧
      text = interleaved tokens inserted := by
  induction tokens generalizing position text with
  | nil =>
    cases h
    exact ⟨[], rfl, rfl⟩
  | cons token rest ih =>
    cases token with
    | unknown next => cases h
    | literal c =>
      rw [filled?] at h
      obtain ⟨later, hlater, rfl⟩ := Option.map_eq_some_iff.mp h
      obtain ⟨inserted, hlength, rfl⟩ := ih hlater
      exact ⟨inserted, hlength, rfl⟩
    | hole s =>
      rw [filled?] at h
      split at h
      · rename_i here _
        obtain ⟨later, hlater, rfl⟩ := Option.map_eq_some_iff.mp h
        obtain ⟨inserted, hlength, rfl⟩ := ih hlater
        refine ⟨here :: inserted, ?_, ?_⟩
        · rw [List.length_cons, hlength, demands_hole, List.length_cons]
        · simp only [interleaved, stretches, List.zipWith_cons_cons, List.flatten_cons,
            List.nil_append, List.append_assoc]
      · cases h

/-- The text that each segment of a template becomes, or nothing where it is dropped. -/
def Segment.fillings (r : Replies) : Nat → List Segment → List (Option Text)
  | _, [] => []
  | position, s :: later =>
    Token.filled? r position s.tokens :: fillings r (position + s.questions.length) later

theorem Segment.fillings_append (r : Replies) (position : Nat) (before after : List Segment) :
    fillings r position (before ++ after) =
      fillings r position before ++
        fillings r (position + (Question.ofSegments before).length) after := by
  induction before generalizing position with
  | nil => rfl
  | cons s later ih =>
    rw [List.cons_append, fillings, fillings, ih, Question.ofSegments_cons, List.length_append,
      Nat.add_assoc]
    rfl

/-! ## Replies that agree

Two builds may get the same replies at different positions, or replies that differ in their texts
only.  Both are told by the halts among the replies. -/

/-- The same cause, where a number of arguments come before those that it is about. -/
def Cause.later (n : Nat) : Cause → Cause
  | .badArgument index f => .badArgument (n + index) f
  | .missingArgument index => .missingArgument (n + index)
  | .skipOutsideBlock index => .skipOutsideBlock (n + index)
  | .extraArguments consumed given => .extraArguments (n + consumed) (n + given)
  | .malformedBlock e => .malformedBlock e
  | .unsupportedSpecifier next => .unsupportedSpecifier next

theorem Cause.later_zero (c : Cause) : c.later 0 = c := by
  cases c <;> simp [later]

theorem Cause.later_later (m n : Nat) (c : Cause) : (c.later m).later n = c.later (n + m) := by
  cases c <;> simp [later, Nat.add_assoc]

namespace Question
variable {policy : SkipPolicy} {r r' : Replies} {n position : Nat}

theorem complaint?_of_demand_ok {q : Question} {s : Specifier} (h : q.demand = .ok s) :
    q.complaint? policy r position =
      match (r position s).map Converted.halt? with
      | none => some (.missingArgument (position + 1))
      | some none => none
      | some (some (.fault f)) => some (.badArgument (position + 1) f)
      | some (some .skip) =>
        if q.kind = .always ∧ policy = .error then some (.skipOutsideBlock (position + 1))
        else none := by
  unfold complaint?
  rw [h]
  dsimp only
  rcases r position s with _ | (_ | f) | text <;> rfl

theorem complaint?_later {q : Question}
    (h : ∀ s, q.demand = .ok s →
      (r (n + position) s).map Converted.halt? = (r' position s).map Converted.halt?) :
    q.complaint? policy r (n + position) =
      (q.complaint? policy r' position).map (Cause.later n) := by
  cases hdemand : q.demand with
  | error next =>
    unfold complaint?
    rw [hdemand]
    rfl
  | ok s =>
    rw [complaint?_of_demand_ok hdemand, complaint?_of_demand_ok hdemand, h s hdemand]
    rcases (r' position s).map Converted.halt? with _ | _ | _ | f
    · rfl
    · rfl
    · dsimp only
      split <;> rfl
    · rfl

/-- **Builds that halt alike complain alike.** -/
theorem firstComplaint?_later {questions : List Question}
    (h : ∀ i q s, questions[i]? = some q → q.demand = .ok s →
      (r (n + (position + i)) s).map Converted.halt? =
        (r' (position + i) s).map Converted.halt?) :
    firstComplaint? policy r (n + position) questions =
      (firstComplaint? policy r' position questions).map (Cause.later n) := by
  induction questions generalizing position with
  | nil => rfl
  | cons q later ih =>
    have hhead : q.complaint? policy r (n + position) =
        (q.complaint? policy r' position).map (Cause.later n) :=
      complaint?_later fun s hs => h 0 q s rfl hs
    have hlater : firstComplaint? policy r (n + position + 1) later =
        (firstComplaint? policy r' (position + 1) later).map (Cause.later n) := by
      refine @ih (position + 1) fun i q' s hq hs => ?_
      rw [Nat.add_assoc position, Nat.add_comm 1]
      exact h (i + 1) q' s hq hs
    rw [firstComplaint?_cons, firstComplaint?_cons, hhead, hlater]
    cases q.complaint? policy r' position <;> rfl

theorem firstComplaint?_congr {questions : List Question}
    (h : ∀ i q s, questions[i]? = some q → q.demand = .ok s →
      (r (position + i) s).map Converted.halt? = (r' (position + i) s).map Converted.halt?) :
    firstComplaint? policy r position questions = firstComplaint? policy r' position questions := by
  have hzero : Cause.later 0 = id := funext Cause.later_zero
  have hlater : firstComplaint? policy r (0 + position) questions =
      (firstComplaint? policy r' position questions).map (Cause.later 0) :=
    firstComplaint?_later (by simpa only [Nat.zero_add] using h)
  rwa [Nat.zero_add, hzero, Option.map_id] at hlater

end Question

/-! ## The three functions -/

/-- The supply once some number of arguments has been consumed. -/
def Supply.after (args : List Argument) (consumed : Nat) : Supply :=
  ⟨consumed, args.drop consumed⟩

theorem Supply.start_eq_after (args : List Argument) : Supply.start args = .after args 0 := rfl

theorem Supply.unread_after_eq_nil_iff (args : List Argument) (consumed : Nat) :
    (Supply.after args consumed).unread = [] ↔ args.length ≤ consumed :=
  List.drop_eq_nil_iff

/-- The first complaint, or else a value. -/
def Cause.orElse {α : Type} (complaint : Option Cause) (a : α) : Except Cause α :=
  complaint.elim (.ok a) .error

@[simp] theorem Cause.orElse_none {α : Type} (a : α) : Cause.orElse none a = .ok a := rfl

@[simp] theorem Cause.orElse_some {α : Type} (c : Cause) (a : α) :
    Cause.orElse (some c) a = .error c := rfl

theorem Cause.map_orElse {α β : Type} (f : α → β) (complaint : Option Cause) (a : α) :
    (Cause.orElse complaint a).map f = Cause.orElse complaint (f a) := by
  cases complaint <;> rfl

section Filling
variable (e : Escaper) (policy : SkipPolicy) (args : List Argument)

/-- One hole, told by the reply that it gets. -/
theorem fillTokens_hole (strict : Bool) (s : Specifier) (rest : List Token) (position : Nat) :
    fillTokens e strict (.hole s :: rest) (.after args position) =
      match replies e args position s with
      | none => .error (.missingArgument (position + 1))
      | some (.ok text) =>
        (fillTokens e strict rest (.after args (position + 1))).map (.prepend text)
      | some (.error (.fault f)) => .error (.badArgument (position + 1) f)
      | some (.error .skip) =>
        if strict then .error (.skipOutsideBlock (position + 1))
        else (fillTokens e strict rest (.after args (position + 1))).map .drop := by
  by_cases hlt : position < args.length
  · have hdrop := List.drop_eq_getElem_cons hlt
    rw [replies_of_lt e hlt]
    simp only [fillTokens, Supply.after, hdrop, Supply.nextIndex]
    rcases s.convert e args[position] with (_ | f) | text <;> rfl
  · have hle := Nat.le_of_not_lt hlt
    have hdrop : args.drop position = [] := List.drop_eq_nil_of_le hle
    rw [replies_of_length_le e hle]
    simp only [fillTokens, Supply.after, hdrop, Supply.nextIndex]

/-- **Filling the tokens of a segment** gives the first complaint, or else the segment's text and
the supply after as many arguments as there are question marks. -/
theorem fillTokens_eq (kind : SegmentKind) (tokens : List Token) (position : Nat) :
    fillTokens e (kind = .always && policy = .error) tokens (.after args position) =
      Cause.orElse
        (Question.firstComplaint? policy (replies e args) position
          ((Token.demands tokens).map (⟨·, kind⟩)))
        (Token.filled? (replies e args) position tokens,
          Supply.after args (position + (Token.demands tokens).length)) := by
  induction tokens generalizing position with
  | nil => rfl
  | cons token rest ih =>
    cases token with
    | literal c =>
      rw [fillTokens, ih, Cause.map_orElse, Token.demands_literal]
      rfl
    | unknown next => rfl
    | hole s =>
      have hcount : position + ((Token.demands rest).length + 1) =
          position + 1 + (Token.demands rest).length := by omega
      rw [Token.demands_hole, List.map_cons, Question.firstComplaint?_cons, List.length_cons,
        Token.filled?, fillTokens_hole, ih, hcount, Question.complaint?]
      dsimp only
      rcases replies e args position s with _ | (_ | f) | text
      · rfl
      · -- a skip: an error where it is forbidden, and otherwise the segment has no text
        by_cases hstrict : kind = .always ∧ policy = .error
        · simp [hstrict]
        · simp [hstrict, Cause.map_orElse, Filled.drop]
      · rfl
      · exact Cause.map_orElse _ _ _

/-- Filling a segment. -/
theorem Segment.fill_eq (s : Segment) (position : Nat) :
    s.fill e policy (.after args position) =
      Cause.orElse (Question.firstComplaint? policy (replies e args) position s.questions)
        (Token.filled? (replies e args) position s.tokens,
          Supply.after args (position + s.questions.length)) := by
  have h := fillTokens_eq e policy args s.kind s.tokens position
  rw [Segment.tokens, Token.demands_ofText] at h
  rw [Segment.questions, List.length_map]
  exact h

/-- **Filling segments one after the other** gives the first complaint among all their question
marks, or else the text of each segment. -/
theorem fillAll_eq (segments : List Segment) (position : Nat) :
    fillAll e policy segments (.after args position) =
      Cause.orElse
        (Question.firstComplaint? policy (replies e args) position (Question.ofSegments segments))
        (Segment.fillings (replies e args) position segments,
          Supply.after args (position + (Question.ofSegments segments).length)) := by
  induction segments generalizing position with
  | nil => rfl
  | cons s later ih =>
    rw [fillAll, Segment.fill_eq, Question.ofSegments_cons, Question.firstComplaint?_append,
      List.length_append, ← Nat.add_assoc]
    cases Question.firstComplaint? policy (replies e args) position s.questions with
    | some cause => rfl
    | none =>
      rw [Option.none_or, Cause.orElse_none]
      dsimp only [bind, Except.bind]
      rw [ih]
      cases Question.firstComplaint? policy (replies e args) (position + s.questions.length)
        (Question.ofSegments later) <;> rfl

/-- **Filling a template** gives the first complaint; or else complains about arguments left over;
or else gives the texts that were kept, one after the other. -/
theorem Template.fill_eq (t : Template) :
    t.fill e policy args =
      (Question.firstComplaint? policy (replies e args) 0 (Question.ofSegments t.segments)).elim
        (if args.length ≤ (Question.ofSegments t.segments).length then
          .ok (keptText (Segment.fillings (replies e args) 0 t.segments))
        else .error (.extraArguments (Question.ofSegments t.segments).length args.length))
        .error := by
  rw [Template.fill, Supply.start_eq_after, fillAll_eq, Nat.zero_add]
  cases Question.firstComplaint? policy (replies e args) 0 (Question.ofSegments t.segments) with
  | some cause => rfl
  | none =>
    rw [Cause.orElse_none, Option.elim_none]
    dsimp only [bind, Except.bind]
    simp only [Supply.unread_after_eq_nil_iff]
    rfl

/-- A template is filled where nobody complains and no argument is left over. -/
theorem Template.fill_eq_ok_iff (t : Template) (out : Text) :
    t.fill e policy args = .ok out ↔
      Question.firstComplaint? policy (replies e args) 0 (Question.ofSegments t.segments) = none ∧
        args.length = (Question.ofSegments t.segments).length ∧
        keptText (Segment.fillings (replies e args) 0 t.segments) = out := by
  rw [Template.fill_eq]
  cases hfirst :
      Question.firstComplaint? policy (replies e args) 0 (Question.ofSegments t.segments) with
  | some cause => exact ⟨fun h => (by cases h), fun ⟨h, _⟩ => (by cases h)⟩
  | none =>
    have hle := (Question.of_firstComplaint?_eq_none (Nat.zero_le _) hfirst).2
    rw [Option.elim_none]
    constructor
    · intro h
      split at h
      · rename_i hge
        cases h
        exact ⟨rfl, by omega, rfl⟩
      · cases h
    · rintro ⟨-, hcount, rfl⟩
      rw [if_pos (Nat.le_of_eq hcount)]

end Filling

/-! ## Templates as texts -/

/-- The segments of a template's text; none where its braces do not form blocks. -/
def Text.segments (source : Text) : List Segment :=
  (Segment.split source).toOption.getD []

/-- The question marks of a template's text. -/
def Text.questions (source : Text) : List Question :=
  Question.ofSegments source.segments

theorem Text.segments_of_split {source : Text} {segments : List Segment}
    (h : Segment.split source = .ok segments) : source.segments = segments := by
  rw [Text.segments, h]
  rfl

/-! ## Builds -/

namespace Template

theorem failing_eq_ok_iff {α : Type} {source : Text} {outcome : Except Cause α} {a : α} :
    failing source outcome = .ok a ↔ outcome = .ok a := by
  cases outcome with
  | error cause => exact ⟨fun h => (by cases h), fun h => (by cases h)⟩
  | ok b => exact ⟨fun h => congrArg Except.ok (Except.ok.inj h), congrArg (failing source)⟩

theorem failing_eq_error_iff {α : Type} {source : Text} {outcome : Except Cause α}
    {e : BuildError} :
    failing source outcome = .error e ↔ ∃ cause, outcome = .error cause ∧ e = ⟨source, cause⟩ := by
  cases outcome with
  | ok a => exact ⟨fun h => (by cases h), fun ⟨_, h, _⟩ => (by cases h)⟩
  | error cause =>
    constructor
    · rintro ⟨⟩
      exact ⟨cause, rfl, rfl⟩
    · rintro ⟨_, ⟨⟩, rfl⟩
      rfl

/-- A template can be read if its text can be split. -/
theorem parse_eq_ok_iff {source : Text} {template : Template} :
    parse source = .ok template ↔
      ∃ segments, Segment.split source = .ok segments ∧ template = ⟨source, segments⟩ := by
  rw [parse]
  cases Segment.split source with
  | error b => exact ⟨fun h => (by cases h), fun ⟨_, h, _⟩ => (by cases h)⟩
  | ok segments =>
    constructor
    · intro h
      cases h
      exact ⟨segments, rfl, rfl⟩
    · rintro ⟨_, ⟨⟩, rfl⟩
      rfl

end Template

namespace Templater
variable (t : Templater) {source : Text} (args : List Argument)

theorem build_of_split_error {b : BlockError} (h : Segment.split source = .error b) :
    t.build source args = .error ⟨source, .malformedBlock b⟩ := by
  rw [build_eq, Template.parse, h]
  rfl

theorem build_of_split {segments : List Segment} (h : Segment.split source = .ok segments) :
    t.build source args =
      Template.failing source
        (Template.fill t.escaper t.config.skipOutsideBlock ⟨source, segments⟩ args) := by
  rw [build_eq, Template.parse_eq_ok_iff.mpr ⟨segments, h, rfl⟩]
  exact t.render_eq _ args

/-- **When a build succeeds**: the template's blocks are well-formed, nobody complains and no
argument is left over.  The query is then what the segments became. -/
theorem build_eq_ok_iff {sql : Text} :
    t.build source args = .ok sql ↔
      ∃ segments, Segment.split source = .ok segments ∧
        Question.firstComplaint? t.config.skipOutsideBlock (replies t.escaper args) 0
          (Question.ofSegments segments) = none ∧
        args.length = (Question.ofSegments segments).length ∧
        keptText (Segment.fillings (replies t.escaper args) 0 segments) = sql := by
  cases hsplit : Segment.split source with
  | error b =>
    rw [t.build_of_split_error args hsplit]
    exact ⟨fun h => (by cases h), fun ⟨_, h, _⟩ => (by cases h)⟩
  | ok segments =>
    rw [t.build_of_split args hsplit, Template.failing_eq_ok_iff, Template.fill_eq_ok_iff]
    constructor
    · intro h
      exact ⟨segments, rfl, h⟩
    · rintro ⟨_, ⟨⟩, h⟩
      exact h

end Templater

end QueryTemplate
