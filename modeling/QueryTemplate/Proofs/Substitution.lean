import QueryTemplate.Proofs.Filling

/-!
# Rendering is substitution at the reported placeholders

There are two ways to find the placeholders of a template.  A build goes through each segment and
hands out arguments as it meets holes; `Template.placeholders` lists where the placeholders stand,
in bytes of the template, and what they demand.  This module shows that nothing is lost between the
two: what a build gives can be computed from the list alone.

`Text.substituted?` does that for one segment, and knows nothing of question marks.  It is given the
text, the byte position where the text begins, and placeholders paired with arguments; it cuts the
text at the byte range of each placeholder, puts the converted argument there, and copies all other
text as it is.  A range that does not begin and end between two characters, or that reaches back
behind the one before it, has no answer.  `Template.substituted?` leaves out the segments that hold
a skip and joins the others.

A build succeeds exactly when the placeholders can be listed, each has its argument and can take
it, and no argument is left over; the query is then what the substitution gives
(`Templater.build_eq_ok_iff_substituted`).
-/

namespace QueryTemplate

/-- A placeholder and the argument that it is dealt. -/
structure Dealt where
  /-- The placeholder. -/
  placeholder : Placeholder
  /-- Its argument. -/
  argument : Argument

namespace Dealt

/-- Deals arguments to placeholders, one to each. -/
def deal (placeholders : List Placeholder) (args : List Argument) : List Dealt :=
  List.zipWith mk placeholders args

/-- What is dealt to the segment with an index. -/
def toSegment (dealt : List Dealt) (index : Nat) : List Dealt :=
  dealt.filter fun d => d.placeholder.segment = index

/-- What the argument becomes in its placeholder. -/
def converted (e : Escaper) (d : Dealt) : Converted :=
  d.placeholder.specifier.convert e d.argument

/-- Whether the argument is a skip. -/
def isSkip (e : Escaper) (d : Dealt) : Bool :=
  match d.converted e with
  | .error .skip => true
  | _ => false

/-- The placeholder can take its argument: it can be written, or it is a skip where skips are
allowed. -/
def Accepted (e : Escaper) (policy : SkipPolicy) (d : Dealt) : Prop :=
  match d.converted e with
  | .ok _ => True
  | .error .skip => d.placeholder.inBlock = true ∨ policy = .dropSegment
  | .error (.fault _) => False

/-- The first placeholder is dealt the first argument that is left. -/
theorem deal_cons_drop (p : Placeholder) (later : List Placeholder) {args : List Argument}
    {position : Nat} (h : position < args.length) :
    deal (p :: later) (args.drop position) =
      ⟨p, args[position]⟩ :: deal later (args.drop (position + 1)) := by
  rw [List.drop_eq_getElem_cons h]
  rfl

theorem placeholder_mem {d : Dealt} {placeholders : List Placeholder} {args : List Argument}
    (h : d ∈ deal placeholders args) : d.placeholder ∈ placeholders := by
  induction placeholders generalizing args with
  | nil => cases h
  | cons p later ih =>
    cases args with
    | nil => cases h
    | cons arg rest =>
      rcases List.mem_cons.mp h with rfl | h
      · exact List.mem_cons_self ..
      · exact List.mem_cons_of_mem _ (ih h)

end Dealt

namespace Text

/-- Cuts a text in two at a byte position, if that is a position between two characters. -/
def cut? : Nat → Text → Option (Text × Text)
  | 0, t => some ([], t)
  | _ + 1, [] => none
  | n + 1, c :: rest =>
    if c.utf8Size ≤ n + 1 then
      (cut? (n + 1 - c.utf8Size) rest).map fun (before, after) => (c :: before, after)
    else none

/-- **Substitution by byte ranges.**  The text begins at a byte position of the template.  Each
placeholder's range is replaced by its converted argument, and all else is copied. -/
def substituted? (e : Escaper) : Nat → Text → List Dealt → Option Text
  | _, t, [] => some t
  | position, t, d :: later =>
    if d.placeholder.offset < position then none
    else do
      let (before, rest) ← t.cut? (d.placeholder.offset - position)
      let (_, after) ← rest.cut? d.placeholder.specifier.width
      let text ← (d.converted e).toOption
      let out ← substituted? e (d.placeholder.offset + d.placeholder.specifier.width) after later
      return before ++ text ++ out

end Text

/-- The segment with an index, with all of its placeholders replaced. -/
def Segment.substituted? (e : Escaper) (dealt : List Dealt) (s : Segment) (index : Nat) :
    Option Text :=
  s.text.substituted? e s.offset (Dealt.toSegment dealt index)

/-- **Substitution in a template**: the segments that hold no skip, with all of their placeholders
replaced, one after the other. -/
def Template.substituted? (e : Escaper) (t : Template) (dealt : List Dealt) : Option Text :=
  let kept := t.segments.zipIdx.filter fun x =>
    !(Dealt.toSegment dealt x.2).any (Dealt.isSkip e)
  (kept.mapM fun (x : Segment × Nat) => x.1.substituted? e dealt x.2).map List.flatten

/-! ## Cutting at characters -/

namespace Text

theorem cut?_zero (t : Text) : cut? 0 t = some ([], t) := by
  cases t <;> rfl

theorem cut?_cons {n : Nat} {c : Char} (rest : Text) (h : c.utf8Size ≤ n) :
    cut? n (c :: rest) =
      (cut? (n - c.utf8Size) rest).map fun (before, after) => (c :: before, after) := by
  have := c.utf8Size_pos
  cases n with
  | zero => omega
  | succ n => rw [cut?, if_pos h]

/-- The end of a text's first part is a position between two characters. -/
theorem cut?_byteLength_append (s t : Text) : cut? (byteLength s) (s ++ t) = some (s, t) := by
  induction s with
  | nil => exact cut?_zero t
  | cons c rest ih =>
    rw [byteLength_cons, List.cons_append, cut?_cons _ (Nat.le_add_right ..),
      Nat.add_sub_cancel_left, ih]
    rfl

variable (e : Escaper)

/-- A character before the first placeholder is copied. -/
theorem substituted?_cons {position : Nat} {c : Char} (rest : Text) {dealt : List Dealt}
    (h : ∀ d ∈ dealt, position + c.utf8Size ≤ d.placeholder.offset) :
    substituted? e position (c :: rest) dealt =
      (substituted? e (position + c.utf8Size) rest dealt).map ([c] ++ ·) := by
  cases dealt with
  | nil => rfl
  | cons d later =>
    have hoffset := h d (List.mem_cons_self ..)
    have hroom : d.placeholder.offset - position - c.utf8Size =
        d.placeholder.offset - (position + c.utf8Size) := by
      omega
    rw [substituted?, substituted?, if_neg (by omega), if_neg (by omega),
      cut?_cons rest (by omega), hroom]
    rcases cut? (d.placeholder.offset - (position + c.utf8Size)) rest with _ | ⟨before, rest⟩
    · rfl
    · simp only [Option.map_some, Option.bind_eq_bind, Option.bind_some]
      rcases cut? d.placeholder.specifier.width rest with _ | ⟨_, after⟩
      · rfl
      · rcases (d.converted e).toOption with _ | text
        · rfl
        · simp only [Option.bind_some]
          generalize substituted? e _ after later = out
          cases out <;> rfl

/-- A placeholder at the beginning is replaced. -/
theorem substituted?_placeholder (rest : Text) {d : Dealt} (later : List Dealt) :
    substituted? e d.placeholder.offset (d.placeholder.specifier.text ++ rest) (d :: later) =
      (d.converted e).toOption.bind fun text =>
        (substituted? e (d.placeholder.offset + d.placeholder.specifier.width) rest later).map
          (text ++ ·) := by
  rw [substituted?, if_neg (Nat.lt_irrefl _), Nat.sub_self, cut?_zero]
  rw [← Specifier.byteLength_text]
  simp only [cut?_byteLength_append, Option.bind_eq_bind, Option.bind_some, List.nil_append]
  rcases (d.converted e).toOption with _ | text
  · rfl
  · exact Option.map_eq_bind.symm

end Text

/-! ## One segment -/

section Segment
variable (e : Escaper) (args : List Argument)

/-- **One segment.**  Filling the tokens of a segment is substitution at the placeholders found
among them, and gives a text exactly if every argument is written. -/
theorem Token.filled?_eq_substituted? (position : Nat) {segment : Nat} {inBlock : Bool}
    {offset : Nat} {tokens : List Token} {here : List Placeholder}
    (hhere : Placeholder.ofTokens segment inBlock offset tokens = .ok here)
    (hargs : position + here.length ≤ args.length) :
    Token.filled? (replies e args) position tokens =
        Text.substituted? e offset (tokens.flatMap Token.text)
          (Dealt.deal here (args.drop position)) ∧
      (Token.filled? (replies e args) position tokens).isSome =
        (Dealt.deal here (args.drop position)).all fun d => (d.converted e).toOption.isSome := by
  induction tokens generalizing offset position here with
  | nil =>
    cases hhere
    exact ⟨rfl, rfl⟩
  | cons token rest ih =>
    cases token with
    | literal c =>
      rw [Placeholder.ofTokens_literal] at hhere
      obtain ⟨hfilled, hsome⟩ := ih position hhere hargs
      -- the placeholders stand behind this character, so the first cut copies it
      have hoffsets : ∀ d ∈ Dealt.deal here (args.drop position),
          offset + c.utf8Size ≤ d.placeholder.offset :=
        fun d hd => ((Placeholder.ofTokens_eq_ok hhere).2 _ (Dealt.placeholder_mem hd)).2.2
      constructor
      · rw [Token.filled?, hfilled, List.flatMap_cons]
        exact (Text.substituted?_cons e _ hoffsets).symm
      · rw [Token.filled?, Option.isSome_map, hsome]
    | unknown next => cases hhere
    | hole s =>
      rw [Placeholder.ofTokens_hole] at hhere
      cases hrest : Placeholder.ofTokens segment inBlock (offset + s.width) rest with
      | error cause =>
        rw [hrest] at hhere
        cases hhere
      | ok later =>
        rw [hrest] at hhere
        cases hhere
        rw [List.length_cons] at hargs
        have hlt : position < args.length := by omega
        obtain ⟨hfilled, hsome⟩ := ih (position + 1) hrest (by omega)
        let d : Dealt := ⟨⟨segment, offset, s, inBlock⟩, args[position]⟩
        have hdealt : Dealt.deal (d.placeholder :: later) (args.drop position) =
            d :: Dealt.deal later (args.drop (position + 1)) := Dealt.deal_cons_drop _ later hlt
        have hreply : replies e args position s = some (d.converted e) := replies_of_lt e hlt s
        rw [hdealt, List.flatMap_cons, Token.filled?, hreply, List.all_cons]
        constructor
        · refine Eq.trans ?_ (Text.substituted?_placeholder e _ _).symm
          rw [hfilled]
          rcases d.converted e with halt | text <;> rfl
        · rw [← hsome]
          rcases d.converted e with halt | text
          · rfl
          · exact Option.isSome_map ..

end Segment

/-! ## All segments -/

namespace Dealt

theorem deal_append (before after : List Placeholder) (args : List Argument) :
    deal (before ++ after) args = deal before args ++ deal after (args.drop before.length) := by
  induction before generalizing args with
  | nil => rfl
  | cons p later ih =>
    cases args with
    | nil => simp [deal]
    | cons arg rest => exact congrArg (mk p arg :: ·) (ih rest)

theorem toSegment_append (before after : List Dealt) (index : Nat) :
    toSegment (before ++ after) index = toSegment before index ++ toSegment after index :=
  List.filter_append ..

theorem toSegment_eq_self {dealt : List Dealt} {index : Nat}
    (h : ∀ d ∈ dealt, d.placeholder.segment = index) : toSegment dealt index = dealt :=
  List.filter_eq_self.mpr fun d hd => decide_eq_true (h d hd)

theorem toSegment_eq_nil {dealt : List Dealt} {index : Nat}
    (h : ∀ d ∈ dealt, d.placeholder.segment ≠ index) : toSegment dealt index = [] :=
  List.filter_eq_nil_iff.mpr fun d hd => by simpa using h d hd

/-- What is dealt to the placeholders of a segment and of those after it reaches the segments that
the placeholders stand in. -/
theorem toSegment_deal {index : Nat} {s : Segment} {later : List Segment}
    {here rest : List Placeholder} (args : List Argument)
    (hhere : Placeholder.ofTokens index s.isBlock s.offset s.tokens = .ok here)
    (hrest : Placeholder.ofSegments (index + 1) later = .ok rest) :
    toSegment (deal (here ++ rest) args) index = deal here args ∧
      ∀ i, index < i → toSegment (deal (here ++ rest) args) i =
        toSegment (deal rest (args.drop here.length)) i := by
  have hown : ∀ d ∈ deal here args, d.placeholder.segment = index :=
    fun d hd => ((Placeholder.ofTokens_eq_ok hhere).2 _ (placeholder_mem hd)).1
  have hothers : ∀ d ∈ deal rest (args.drop here.length), index + 1 ≤ d.placeholder.segment :=
    fun d hd => (Placeholder.ofSegments_eq_ok hrest).2 _ (placeholder_mem hd)
  rw [deal_append]
  constructor
  · rw [toSegment_append, toSegment_eq_self hown,
      toSegment_eq_nil fun d hd => Nat.ne_of_gt (hothers d hd), List.append_nil]
  · intro i hi
    have hnotOwn : ∀ d ∈ deal here args, d.placeholder.segment ≠ i :=
      fun d hd => (hown d hd).symm ▸ Nat.ne_of_lt hi
    rw [toSegment_append, toSegment_eq_nil hnotOwn, List.nil_append]

end Dealt

section Template
variable (e : Escaper) (args : List Argument)

/-- Filling segments one after the other is substitution in each of them, and gives a text for those
whose arguments are all written. -/
theorem Segment.fillings_eq_substituted? (position : Nat) {index : Nat} {segments : List Segment}
    {found : List Placeholder} (hfound : Placeholder.ofSegments index segments = .ok found)
    (hargs : position + found.length ≤ args.length) :
    let dealt := Dealt.deal found (args.drop position)
    Segment.fillings (replies e args) position segments =
        ((segments.zipIdx index).map fun x => x.1.substituted? e dealt x.2) ∧
      ∀ x ∈ segments.zipIdx index, (x.1.substituted? e dealt x.2).isSome =
        (Dealt.toSegment dealt x.2).all fun d => (d.converted e).toOption.isSome := by
  induction segments generalizing index position found with
  | nil => exact ⟨rfl, fun x hx => by cases hx⟩
  | cons s later ih =>
    obtain ⟨here, rest, hhere, hrest, rfl⟩ := Placeholder.ofSegments_cons_eq_ok_iff.mp hfound
    rw [List.length_append] at hargs
    have hcount : s.questions.length = here.length := by
      rw [Placeholder.questions_eq_map hhere, List.length_map]
    obtain ⟨hlater, hlaterSome⟩ := ih (position + here.length) hrest (by omega)
    obtain ⟨hfirst, hfirstSome⟩ :=
      Token.filled?_eq_substituted? e args position hhere (by omega)
    obtain ⟨htoFirst, htoLater⟩ := Dealt.toSegment_deal (args.drop position) hhere hrest
    rw [List.drop_drop] at htoLater
    rw [Segment.tokens, Token.flatMap_text_ofText] at hfirst
    intro dealt
    -- what the first segment was dealt does not reach the later ones
    have hsegment : ∀ x ∈ later.zipIdx (index + 1), x.1.substituted? e dealt x.2 =
        x.1.substituted? e (Dealt.deal rest (args.drop (position + here.length))) x.2 :=
      fun x hx => congrArg (x.1.text.substituted? e x.1.offset)
        (htoLater x.2 (List.le_snd_of_mem_zipIdx hx))
    rw [List.zipIdx_cons, List.map_cons, Segment.fillings, Segment.tokens, hcount, hlater]
    constructor
    · rw [hfirst, Segment.substituted?, htoFirst]
      exact congrArg _ (List.map_congr_left fun x hx => (hsegment x hx).symm)
    · rintro x (_ | ⟨_, hx⟩)
      · rw [Segment.substituted?, htoFirst, ← hfirst]
        exact hfirstSome
      · rw [hsegment x hx, htoLater x.2 (List.le_snd_of_mem_zipIdx hx)]
        exact hlaterSome x hx

/-! ## The whole template -/

variable {e args}

/-- A question mark has no complaint if its placeholder can take its argument. -/
theorem Dealt.complaint?_eq_none_iff {policy : SkipPolicy} {r : Replies} {position : Nat}
    {d : Dealt} (hreply : r position d.placeholder.specifier = some (d.converted e)) :
    d.placeholder.question.complaint? policy r position = none ↔ d.Accepted e policy := by
  unfold Question.complaint? Dealt.Accepted Placeholder.question
  dsimp only
  rw [hreply]
  rcases d.converted e with (_ | f) | text
  · cases d.placeholder.inBlock <;> cases policy <;> simp
  · simp
  · simp

/-- Nobody complains exactly if every placeholder can take its argument. -/
theorem Dealt.firstComplaint?_eq_none_iff {policy : SkipPolicy} {position : Nat}
    {found : List Placeholder} (hargs : position + found.length ≤ args.length) :
    Question.firstComplaint? policy (replies e args) position
        (found.map Placeholder.question) = none ↔
      ∀ d ∈ Dealt.deal found (args.drop position), d.Accepted e policy := by
  induction found generalizing position with
  | nil => exact ⟨fun _ d hd => (by cases hd), fun _ => rfl⟩
  | cons p later ih =>
    rw [List.length_cons] at hargs
    have hlt : position < args.length := by omega
    have hreply : replies e args position p.specifier =
        some ((Dealt.mk p args[position]).converted e) := replies_of_lt e hlt _
    rw [List.map_cons, Question.firstComplaint?_cons, Option.or_eq_none_iff, ih (by omega),
      Dealt.deal_cons_drop p later hlt, List.forall_mem_cons]
    exact and_congr_left fun _ => Dealt.complaint?_eq_none_iff (d := ⟨p, args[position]⟩) hreply

/-- What is accepted is either a skip or written. -/
theorem Dealt.isSome_converted {policy : SkipPolicy} {d : Dealt} (h : d.Accepted e policy) :
    (d.converted e).toOption.isSome = !d.isSkip e := by
  unfold Dealt.Accepted at h
  unfold Dealt.isSkip
  generalize d.converted e = outcome at h ⊢
  rcases outcome with (_ | f) | text
  · rfl
  · exact h.elim
  · rfl

theorem mapM_filter_eq_some {α β : Type} {f : α → Option β} {kept : α → Bool} {l : List α}
    (h : ∀ x ∈ l, (f x).isSome = kept x) : (l.filter kept).mapM f = some (l.filterMap f) := by
  induction l with
  | nil => rfl
  | cons x rest ih =>
    have hx := h x (List.mem_cons_self ..)
    have hrest := ih fun y hy => h y (List.mem_cons_of_mem _ hy)
    cases hfx : f x with
    | none =>
      rw [hfx] at hx
      rw [List.filter_cons_of_neg (by rw [← hx]; exact Bool.false_ne_true), hrest,
        List.filterMap_cons_none hfx]
    | some b =>
      rw [hfx] at hx
      rw [List.filter_cons_of_pos (by rw [← hx]; rfl), List.mapM_cons, hfx, hrest,
        List.filterMap_cons_some hfx]
      rfl

/-- The segments that are kept, joined, are the substitution in the template. -/
theorem Template.substituted?_eq_keptText {policy : SkipPolicy} {template : Template}
    {found : List Placeholder} (hfound : Placeholder.ofSegments 0 template.segments = .ok found)
    (hargs : found.length ≤ args.length)
    (haccepted : ∀ d ∈ Dealt.deal found args, d.Accepted e policy) :
    template.substituted? e (Dealt.deal found args) =
      some (keptText (Segment.fillings (replies e args) 0 template.segments)) := by
  obtain ⟨hfillings, hsome⟩ :=
    Segment.fillings_eq_substituted? e args 0 hfound (by omega)
  rw [List.drop_zero] at hfillings hsome
  -- a segment gets no text exactly if it holds a skip, since no argument has a fault
  have hkept : ∀ x ∈ template.segments.zipIdx,
      (x.1.substituted? e (Dealt.deal found args) x.2).isSome =
        !(Dealt.toSegment (Dealt.deal found args) x.2).any (Dealt.isSkip e) := by
    intro x hx
    rw [hsome x hx, List.not_any_eq_all_not, Bool.eq_iff_iff, List.all_eq_true, List.all_eq_true]
    refine forall₂_congr fun d hd => ?_
    rw [Dealt.isSome_converted (haccepted d (List.mem_filter.mp hd).1)]
  rw [Template.substituted?, mapM_filter_eq_some hkept, hfillings, keptText, List.filterMap_map]
  rfl

end Template

/-- **Rendering is substitution at the reported placeholders.**  A build succeeds exactly when the
template can be read and its placeholders can be listed, there is one argument for each of them, and
each can take its argument.  The query is then what substitution in the template gives: the segments
that hold no skip, in order, with the byte range of each placeholder replaced by its converted
argument and all else copied. -/
theorem Templater.build_eq_ok_iff_substituted (t : Templater) (source : Text)
    (args : List Argument) (out : Text) :
    t.build source args = .ok out ↔
      ∃ template placeholders,
        Template.parse source = .ok template ∧
        template.placeholders = .ok placeholders ∧
        args.length = placeholders.length ∧
        (∀ d ∈ Dealt.deal placeholders args,
          d.Accepted t.escaper t.config.skipOutsideBlock) ∧
        template.substituted? t.escaper (Dealt.deal placeholders args) = some out := by
  constructor
  · intro hbuild
    cases hsplit : Segment.split source with
    | error b =>
      rw [t.build_of_split_error args hsplit] at hbuild
      cases hbuild
    | ok segments =>
      rw [t.build_of_split args hsplit, Template.failing_eq_ok_iff,
        Template.fill_eq_ok_iff] at hbuild
      obtain ⟨hfirst, hcount, hout⟩ := hbuild
      obtain ⟨hdemands, -⟩ := Question.of_firstComplaint?_eq_none (Nat.zero_le _) hfirst
      obtain ⟨placeholders, hlisted⟩ := Placeholder.exists_ofSegments_eq_ok 0 hdemands
      have hquestions := (Placeholder.ofSegments_eq_ok hlisted).1
      rw [hquestions, List.length_map] at hcount
      rw [hquestions, Dealt.firstComplaint?_eq_none_iff (by omega), List.drop_zero] at hfirst
      refine ⟨⟨source, segments⟩, placeholders,
        Template.parse_eq_ok_iff.mpr ⟨segments, hsplit, rfl⟩,
        Template.failing_eq_ok_iff.mpr hlisted, hcount, hfirst, ?_⟩
      rw [Template.substituted?_eq_keptText hlisted (Nat.le_of_eq hcount.symm) hfirst, hout]
  · rintro ⟨template, placeholders, hparse, hlisted, hcount, haccepted, hout⟩
    obtain ⟨segments, hsplit, rfl⟩ := Template.parse_eq_ok_iff.mp hparse
    rw [Template.placeholders, Template.failing_eq_ok_iff] at hlisted
    have hquestions := (Placeholder.ofSegments_eq_ok hlisted).1
    rw [t.build_of_split args hsplit, Template.failing_eq_ok_iff, Template.fill_eq_ok_iff,
      hquestions, List.length_map, Dealt.firstComplaint?_eq_none_iff (by omega), List.drop_zero]
    rw [Template.substituted?_eq_keptText hlisted (Nat.le_of_eq hcount.symm) haccepted] at hout
    exact ⟨haccepted, hcount, Option.some.inj hout⟩

end QueryTemplate
