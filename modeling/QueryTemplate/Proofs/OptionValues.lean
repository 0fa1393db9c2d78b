import QueryTemplate.Command.Basic

/-!
# How the value of an option is written

An option gets its value in one of two ways: as the next word (`ValueOption.spaced`), or in its own
word, behind an equals sign (`ValueOption.joined`).  Both give the same item, and everything a
subcommand does is decided by its items, so the two ways mean the same wherever an option is read
(`Command.parse_joined`).

There is one exception.  What stands before the value in a joined word is taken away as often as it
is there, so a joined value cannot begin with its own option and an equals sign: such beginnings are
lost, and the rest is the value.  A spaced value is taken as it is.
-/

namespace QueryTemplate

/-! ## Taking a beginning away -/

section Strip
variable {start : Text}

theorem stripRepeatedly_eq_self {t : Text} (h : ¬ start <+: t) :
    stripRepeatedly start t = t := by
  rw [stripRepeatedly, if_neg]
  exact fun hstart => h (List.isPrefixOf_iff_prefix.mp hstart.2)

theorem stripRepeatedly_append (hstart : start ≠ []) (t : Text) :
    stripRepeatedly start (start ++ t) = stripRepeatedly start t := by
  have hprefix : start.isPrefixOf (start ++ t) = true :=
    List.isPrefixOf_iff_prefix.mpr (List.prefix_append ..)
  rw [stripRepeatedly, if_pos ⟨hstart, hprefix⟩, List.drop_left]

/-- **What is taken away**: every text is some number of copies of a beginning, all of which are
taken away, and a rest that does not begin like that. -/
theorem exists_eq_copies_append_stripRepeatedly (hstart : start ≠ []) (t : Text) :
    ∃ n, t = (List.replicate n start).flatten ++ stripRepeatedly start t ∧
      ¬ start <+: stripRepeatedly start t := by
  fun_induction stripRepeatedly start t with
  | case1 t hbegins ih =>
    obtain ⟨n, hrest, hnot⟩ := ih
    obtain ⟨rest, rfl⟩ := List.isPrefixOf_iff_prefix.mp hbegins.2
    rw [List.drop_left] at hrest
    refine ⟨n + 1, ?_, hnot⟩
    rw [List.replicate_succ, List.flatten_cons, List.append_assoc, List.drop_left, ← hrest]
  | case2 t hends =>
    exact ⟨0, rfl, fun hprefix => hends ⟨hstart, List.isPrefixOf_iff_prefix.mpr hprefix⟩⟩

end Strip

/-! ## The two ways -/

namespace ValueOption

/-- What stands before the value in one word with it. -/
def assignment (o : ValueOption) : Text :=
  o.flag.toList ++ ['=']

/-- The value in one word with its option. -/
def joined (o : ValueOption) (value : Text) : List Text :=
  [o.assignment ++ value]

/-- The value as the word behind its option. -/
def spaced (o : ValueOption) (value : Text) : List Text :=
  [o.flag.toList, value]

theorem assignment_ne_nil (o : ValueOption) : o.assignment ≠ [] :=
  List.append_ne_nil_of_right_ne_nil _ (by simp)

theorem equals_not_mem_flag (o : ValueOption) : '=' ∉ o.flag.toList := by
  cases o <;> decide

theorem flag_toList_injective {o o' : ValueOption} (h : o.flag.toList = o'.flag.toList) :
    o = o' := by
  cases o <;> cases o' <;> first | rfl | exact absurd h (by decide)

theorem flag_ne_help (o : ValueOption) :
    ¬ (o.flag.toList = "-h".toList ∨ o.flag.toList = "--help".toList) := by
  cases o <;> decide

/-- The option in a joined word is what stands before the first equals sign. -/
theorem takeWhile_assignment_append (o : ValueOption) (value : Text) :
    (o.assignment ++ value).takeWhile (· ≠ '=') = o.flag.toList := by
  rw [assignment, List.append_assoc, List.takeWhile_append_of_pos]
  · simp
  · intro c hc
    exact decide_eq_true fun heq => o.equals_not_mem_flag (heq ▸ hc)

/-- A joined word is read as a value of its own option. -/
theorem assigned?_assignment_append (o : ValueOption) (value : Text) :
    o.assigned? (o.assignment ++ value) = some (stripRepeatedly o.assignment value) := by
  have hprefix : o.assignment.isPrefixOf (o.assignment ++ value) = true :=
    List.isPrefixOf_iff_prefix.mpr (List.prefix_append ..)
  rw [← stripRepeatedly_append o.assignment_ne_nil]
  exact if_pos hprefix

/-- A joined word is read as a value of no other option. -/
theorem eq_of_assigned?_isSome {o o' : ValueOption} {value : Text}
    (h : (o'.assigned? (o.assignment ++ value)).isSome = true) : o' = o := by
  have hprefix : o'.assignment.isPrefixOf (o.assignment ++ value) = true := by
    by_cases hbegins : o'.assignment.isPrefixOf (o.assignment ++ value)
    · exact hbegins
    · rw [show o'.assigned? (o.assignment ++ value) = none from if_neg hbegins] at h
      cases h
  obtain ⟨value', hvalue⟩ := List.isPrefixOf_iff_prefix.mp hprefix
  have hflags := o'.takeWhile_assignment_append value'
  rw [hvalue, takeWhile_assignment_append] at hflags
  exact flag_toList_injective hflags.symm

end ValueOption

/-! ## Items -/

namespace Subcommand
variable {s : Subcommand} {o : ValueOption}

/-- The flag of an option makes the next word its value. -/
theorem form_flag (ho : o ∈ s.options) : s.form o.flag.toList = .opener o := by
  have hfind : s.options.find? (fun o' => o'.flag.toList = o.flag.toList) = some o := by
    cases hfound : s.options.find? (fun o' => o'.flag.toList = o.flag.toList) with
    | none => exact absurd (List.find?_eq_none.mp hfound o ho) (by simp)
    | some o' =>
      have hsame := List.find?_some hfound
      rw [ValueOption.flag_toList_injective (of_decide_eq_true hsame)]
  rw [form, if_neg o.flag_ne_help, hfind]

/-- A joined word is the item of its option, whatever the value looks like. -/
theorem form_joined (ho : o ∈ s.options) (value : Text) :
    s.form (o.assignment ++ value) =
      .item (.setting o (stripRepeatedly o.assignment value)) := by
  have hequals : '=' ∈ o.assignment ++ value := by
    simp [ValueOption.assignment]
  -- no flag and no request for help has an equals sign
  have hne : ∀ word : Text, '=' ∉ word → o.assignment ++ value ≠ word :=
    fun word hword h => hword (h ▸ hequals)
  have hfind : s.options.find? (fun o' => o'.flag.toList = o.assignment ++ value) = none := by
    refine List.find?_eq_none.mpr fun o' _ => ?_
    simpa using (hne _ o'.equals_not_mem_flag).symm
  have hfindSome : s.options.findSome?
      (fun o' => (o'.assigned? (o.assignment ++ value)).map (Item.setting o')) =
        some (.setting o (stripRepeatedly o.assignment value)) := by
    cases hfound : s.options.findSome?
        (fun o' => (o'.assigned? (o.assignment ++ value)).map (Item.setting o')) with
    | none =>
      have hnone := List.findSome?_eq_none_iff.mp hfound o ho
      rw [ValueOption.assigned?_assignment_append] at hnone
      cases hnone
    | some item =>
      obtain ⟨o', -, hitem⟩ := List.exists_of_findSome?_eq_some hfound
      have hsame : o' = o := by
        refine @ValueOption.eq_of_assigned?_isSome o o' value ?_
        cases hvalue : o'.assigned? (o.assignment ++ value) with
        | none =>
          rw [hvalue] at hitem
          cases hitem
        | some _ => rfl
      subst hsame
      rw [ValueOption.assigned?_assignment_append] at hitem
      exact hitem.symm
  rw [form, if_neg, hfind, hfindSome]
  rintro (h | h)
  · exact hne _ (by decide) h
  · exact hne _ (by decide) h

theorem itemsOf_item {word : Text} {i : Item} (h : s.form word = .item i) (rest : List Text) :
    s.itemsOf (word :: rest) = i :: s.itemsOf rest := by
  rw [itemsOf, h]

theorem itemsOf_opener {word : Text} (h : s.form word = .opener o) (value : Text)
    (rest : List Text) :
    s.itemsOf (word :: value :: rest) = .setting o value :: s.itemsOf rest := by
  rw [itemsOf, h]

/-- A spaced value is taken as it is. -/
theorem itemsOf_spaced (ho : o ∈ s.options) (value : Text) (rest : List Text) :
    s.itemsOf (o.spaced value ++ rest) = .setting o value :: s.itemsOf rest :=
  itemsOf_opener (form_flag ho) value rest

/-- A joined value loses the copies of what stands before a joined value. -/
theorem itemsOf_joined (ho : o ∈ s.options) (value : Text) (rest : List Text) :
    s.itemsOf (o.joined value ++ rest) =
      .setting o (stripRepeatedly o.assignment value) :: s.itemsOf rest :=
  itemsOf_item (form_joined ho value) rest

/-- No option is left waiting for its value at the end of the words, so a word behind them is not
read as a value. -/
def IsClosed (s : Subcommand) (words : List Text) : Prop :=
  ∀ o, Item.missingValue o ∉ s.itemsOf words

/-- The items of closed words come before those of the words behind them. -/
theorem itemsOf_append {before : List Text} (h : s.IsClosed before) (rest : List Text) :
    s.itemsOf (before ++ rest) = s.itemsOf before ++ s.itemsOf rest := by
  unfold IsClosed at h
  fun_induction s.itemsOf before with
  | case1 => rfl
  | case2 word later i hform ih =>
    have hlater : s.IsClosed later := fun o ho => h o (List.mem_cons_of_mem _ ho)
    rw [List.cons_append, itemsOf_item hform, ih hlater, List.cons_append]
  | case3 word o hform => exact absurd (List.mem_singleton_self _) (h o)
  | case4 word o hform value later ih =>
    have hlater : s.IsClosed later := fun o ho => h o (List.mem_cons_of_mem _ ho)
    rw [List.cons_append, List.cons_append, itemsOf_opener hform, ih hlater, List.cons_append]

/-- Words with the same items make the same command. -/
theorem parse_congr {finish : Request → Except UsageError Command} {words words' : List Text}
    (h : s.itemsOf words = s.itemsOf words') : s.parse finish words = s.parse finish words' := by
  rw [parse, parse, h]

end Subcommand

/-! ## Commands -/

namespace Command

theorem parse_render_cons (words : List Text) :
    parse (Subcommand.render.name.toList :: words) =
      Subcommand.render.parse Request.toRender words := rfl

theorem parse_inspect_cons (words : List Text) :
    parse (Subcommand.inspect.name.toList :: words) =
      Subcommand.inspect.parse Request.toInspect words := rfl

/-- The words behind the name of a subcommand count by their items. -/
theorem parse_cons_congr {s : Subcommand} (hs : s = .render ∨ s = .inspect)
    {words words' : List Text} (h : s.itemsOf words = s.itemsOf words') :
    parse (s.name.toList :: words) = parse (s.name.toList :: words') := by
  rcases hs with rfl | rfl
  · rw [parse_render_cons, parse_render_cons, Subcommand.parse_congr h]
  · rw [parse_inspect_cons, parse_inspect_cons, Subcommand.parse_congr h]

/-- **Joined and spaced values mean the same**, wherever a subcommand reads one of its options: the
command is the same, or the error is.  This holds for every value that does not begin with its own
option and an equals sign.  A joined value that begins so loses all such beginnings, and then means
what is left of it. -/
theorem parse_joined {s : Subcommand} (hs : s = .render ∨ s = .inspect) {o : ValueOption}
    (ho : o ∈ s.options) {before : List Text} (hbefore : s.IsClosed before) (value : Text)
    (after : List Text) :
    (¬ o.assignment <+: value →
      parse (s.name.toList :: (before ++ (o.joined value ++ after))) =
        parse (s.name.toList :: (before ++ (o.spaced value ++ after)))) ∧
    ∃ n rest, value = (List.replicate n o.assignment).flatten ++ rest ∧ ¬ o.assignment <+: rest ∧
      parse (s.name.toList :: (before ++ (o.joined value ++ after))) =
        parse (s.name.toList :: (before ++ (o.spaced rest ++ after))) := by
  have hstripped : parse (s.name.toList :: (before ++ (o.joined value ++ after))) =
      parse (s.name.toList ::
        (before ++ (o.spaced (stripRepeatedly o.assignment value) ++ after))) := by
    refine parse_cons_congr hs ?_
    rw [Subcommand.itemsOf_append hbefore, Subcommand.itemsOf_append hbefore,
      Subcommand.itemsOf_joined ho, Subcommand.itemsOf_spaced ho]
  constructor
  · intro hvalue
    rw [hstripped, stripRepeatedly_eq_self hvalue]
  · obtain ⟨n, hcopies, hrest⟩ :=
      exists_eq_copies_append_stripRepeatedly o.assignment_ne_nil value
    exact ⟨n, _, hcopies, hrest, hstripped⟩

/-- A value may look like an option, and a joined value may have an equals sign in it. -/
theorem parse_joined_behind_value :
    Subcommand.render.IsClosed ["--config".toList, "--file".toList] ∧
      parse ["render".toList, "--config".toList, "--file".toList, "--args=-v=b".toList,
          "t".toList] =
        parse ["render".toList, "--config".toList, "--file".toList, "--args".toList,
          "-v=b".toList, "t".toList] ∧
      parse ["render".toList, "--config".toList, "--file".toList, "--args".toList,
          "-v=b".toList, "t".toList] =
        .ok (.render ⟨some "--file".toList, .inline "t".toList, .inline "-v=b".toList, [], none,
          false⟩) := by
  have hclosed : Subcommand.render.IsClosed ["--config".toList, "--file".toList] := by
    intro o h
    have hitems : Subcommand.render.itemsOf ["--config".toList, "--file".toList] =
        [.setting .config "--file".toList] := rfl
    rw [hitems, List.mem_singleton] at h
    cases h
  refine ⟨hclosed, ?_, rfl⟩
  exact (@parse_joined .render (.inl rfl) .args (by decide) _ hclosed "-v=b".toList
    ["t".toList]).1 (by decide)

/-- **A joined value cannot begin with its own option and an equals sign**: what is read is the
rest.  The same value is read in full as a word of its own. -/
theorem parse_joined_own_option :
    parse ["inspect".toList, "--file=--file=g".toList] = .ok (.inspect (.file "g".toList)) ∧
      parse ["inspect".toList, "--file".toList, "--file=g".toList] =
        .ok (.inspect (.file "--file=g".toList)) := by
  have hstripped : stripRepeatedly ValueOption.file.assignment "--file=g".toList = "g".toList :=
    (stripRepeatedly_append ValueOption.file.assignment_ne_nil ['g']).trans
      (stripRepeatedly_eq_self (by decide))
  have hitems : Subcommand.inspect.itemsOf ["--file=--file=g".toList] =
      [.setting .file "g".toList] := by
    rw [← hstripped]
    exact @Subcommand.itemsOf_joined .inspect .file (by decide) "--file=g".toList []
  refine ⟨?_, rfl⟩
  rw [show "inspect".toList = Subcommand.inspect.name.toList from rfl, parse_inspect_cons,
    Subcommand.parse, hitems]
  rfl

end Command

end QueryTemplate
