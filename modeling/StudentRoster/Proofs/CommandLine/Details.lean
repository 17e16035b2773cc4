import StudentRoster.CommandLine.Parser

/-!
# The switch for details on a command line

A command line that asks for details can do without: the same arguments without one use of the
switch, in whatever spelling it stands (`DropsVerbose`), ask for the same but for the details
(`follows_parse_of_dropsVerbose`). The arguments are compared as tokens first, and the tokens then
by the reader, which comes to its answer from the same places.
-/

set_option autoImplicit false

namespace StudentRoster

/-! ## Details -/

/-- The options without the one for details. -/
def Options.quiet (options : Options) : Options :=
  { options with verbose := false }

/-- A command with its options, but for the details. -/
def Invocation.quiet (invocation : Invocation) : Invocation :=
  { invocation with options := invocation.options.quiet }

/-- What is asked for, but for the details. -/
def Action.quiet : Action → Action
  | .run invocation => .run invocation.quiet
  | .showVersion => .showVersion
  | .showHelp => .showHelp

namespace Options

variable {more fewer outer outer' inner inner' : Options}

/-- Options ask for the same as others, but perhaps for details that these do not ask for. -/
structure TellsMore (more fewer : Options) : Prop where
  quiet_eq : fewer.quiet = more.quiet
  verbose_of : fewer.verbose = true → more.verbose = true

/-- Options ask for as much as themselves. -/
theorem TellsMore.refl (options : Options) : options.TellsMore options :=
  ⟨rfl, id⟩

/-- The switch can be given where it was not given yet. -/
theorem tellsMore_of_add_verbose {options after : Options}
    (h : options.add .verbose = .ok after) : after.TellsMore options := by
  simp only [add] at h
  split at h
  · cases h
  · obtain rfl := Except.ok.inj h
    exact ⟨rfl, fun _ => rfl⟩

/-- What can be added to options can be added to those that do not ask for details. -/
theorem TellsMore.add {use : OptionUse} {after : Options} (h : more.TellsMore fewer)
    (hadd : more.add use = .ok after) :
    ∃ less, fewer.add use = .ok less ∧ after.TellsMore less := by
  obtain ⟨inputs, output, normalize, verbose⟩ := more
  obtain ⟨inputs', output', normalize', verbose'⟩ := fewer
  obtain ⟨hquiet, hverbose⟩ := h
  simp only [quiet, Options.mk.injEq, and_true] at hquiet hverbose
  obtain ⟨rfl, rfl, rfl⟩ := hquiet
  cases use with
  | input path =>
    obtain rfl := Except.ok.inj hadd
    exact ⟨_, rfl, rfl, hverbose⟩
  | output path =>
    simp only [Options.add] at hadd ⊢
    split at hadd
    · cases hadd
    next hnone =>
      obtain rfl := Except.ok.inj hadd
      exact ⟨_, if_neg hnone, rfl, hverbose⟩
  | normalize =>
    simp only [Options.add] at hadd ⊢
    split at hadd
    · cases hadd
    next hnone =>
      obtain rfl := Except.ok.inj hadd
      exact ⟨_, if_neg hnone, rfl, hverbose⟩
  | verbose =>
    simp only [Options.add] at hadd ⊢
    split at hadd
    · cases hadd
    next hnone =>
      obtain rfl := Except.ok.inj hadd
      exact ⟨_, if_neg fun h => hnone (hverbose h), rfl, fun _ => rfl⟩

/-- Options put over others differ in the details only, when each of the two does. -/
theorem TellsMore.quiet_over (houter : outer.TellsMore outer') (hinner : inner.TellsMore inner') :
    (outer'.over inner').quiet = (outer.over inner).quiet := by
  have hfields {a b : Options} (h : a.TellsMore b) :
      b.inputs = a.inputs ∧ b.output = a.output ∧ b.normalize = a.normalize := by
    simpa [quiet] using h.quiet_eq
  obtain ⟨hinputs, houtput, hnormalize⟩ := hfields houter
  obtain ⟨hinputs', houtput', hnormalize'⟩ := hfields hinner
  simp only [quiet, Options.over, hinputs, hinputs', houtput, houtput', hnormalize, hnormalize']

end Options

/-! ## Reading tokens -/

namespace CommandLine

/-- Whatever the first asks for, the second asks for too, but for the details. -/
def Follows (result other : Except UsageFault Action) : Prop :=
  ∀ action, result = .ok action → ∃ fewer, other = .ok fewer ∧ fewer.quiet = action.quiet

/-- Of what a command line asks for, the same command line asks for all. -/
theorem Follows.refl (result : Except UsageFault Action) : Follows result result :=
  fun action h => ⟨action, h, rfl⟩

/-- Anything goes where nothing is asked for. -/
theorem follows_error (fault : UsageFault) (other : Except UsageFault Action) :
    Follows (.error fault) other := by
  intro action h
  cases h

/-- A command with options that do not ask for details is the same command but for the details. -/
theorem follows_run {options options' : Options} (h : options'.quiet = options.quiet)
    (command : Command) :
    Follows (.ok (.run ⟨options, command⟩)) (.ok (.run ⟨options', command⟩)) := by
  intro action haction
  obtain rfl := Except.ok.inj haction
  refine ⟨_, rfl, ?_⟩
  simp only [Action.quiet, Invocation.quiet, h]

/-- Options that do not ask for details carry the reader through the same tokens. -/
theorem follows_readInner_of_tellsMore (name : CommandName) {outer outer' inner inner' : Options}
    (houter : outer.TellsMore outer') (hinner : inner.TellsMore inner') (arguments : List String)
    (tokens : List Token) :
    Follows (readInner name outer inner arguments tokens)
      (readInner name outer' inner' arguments tokens) := by
  induction tokens generalizing inner inner' arguments with
  | nil =>
    simp only [readInner]
    cases name.command arguments with
    | error fault => exact follows_error fault _
    | ok command => exact follows_run (houter.quiet_over hinner) command
  | cons token rest ih =>
    cases token with
    | option use =>
      simp only [readInner]
      cases hadd : inner.add use with
      | error fault => exact follows_error fault _
      | ok after =>
        obtain ⟨less, hless, hafter⟩ := hinner.add hadd
        rw [hless]
        exact ih hafter arguments
    | word word =>
      simp only [readInner]
      cases name.refuses? arguments word with
      | some fault => exact follows_error fault _
      | none => exact ih hinner (arguments ++ [word])
    | separator => exact ih hinner arguments
    | help => exact .refl _
    | version => exact .refl _
    | fault fault => exact .refl _

/-- In front of the name, too, options that do not ask for details carry the reader through the same
tokens. -/
theorem follows_readOuter_of_tellsMore {outer outer' : Options} (h : outer.TellsMore outer')
    (tokens : List Token) : Follows (readOuter outer tokens) (readOuter outer' tokens) := by
  induction tokens generalizing outer outer' with
  | nil => exact follows_run h.quiet_eq .list
  | cons token rest ih =>
    cases token with
    | option use =>
      simp only [readOuter]
      cases hadd : outer.add use with
      | error fault => exact follows_error fault _
      | ok after =>
        obtain ⟨less, hless, hafter⟩ := h.add hadd
        rw [hless]
        exact ih hafter
    | word word =>
      simp only [readOuter]
      split
      · exact .refl _
      · cases CommandName.ofWord? word with
        | none => exact .refl _
        | some name => exact follows_readInner_of_tellsMore name h (.refl {}) [] rest
    | separator =>
      cases rest with
      | nil => exact follows_run h.quiet_eq .list
      | cons token rest => exact .refl _
    | help => exact .refl _
    | version => exact .refl _
    | fault fault => exact .refl _

/-- Where a command line can go on in one way, it can go on in another and ask for the same but for
the details. The one way does not go on with a word. -/
structure Replaces (tail other : List Token) : Prop where
  inner : ∀ name outer inner arguments,
    Follows (readInner name outer inner arguments tail) (readInner name outer inner arguments other)
  outer : ∀ outer, Follows (readOuter outer tail) (readOuter outer other)
  head : ∃ token rest, tail = token :: rest ∧ ∀ text, token ≠ .word text

/-- The switch can be left out where it stands. -/
theorem replaces_verbose (rest : List Token) : Replaces (.option .verbose :: rest) rest where
  inner name outer inner arguments := by
    simp only [readInner]
    cases hadd : inner.add .verbose with
    | error fault => exact follows_error fault _
    | ok after =>
      exact follows_readInner_of_tellsMore name (.refl outer)
        (Options.tellsMore_of_add_verbose hadd) arguments rest
  outer outer := by
    simp only [readOuter]
    cases hadd : outer.add .verbose with
    | error fault => exact follows_error fault _
    | ok after =>
      exact follows_readOuter_of_tellsMore (Options.tellsMore_of_add_verbose hadd) rest
  head := ⟨_, rest, rfl, fun text h => by cases h⟩

/-- Behind a fault anything may stand, since nothing is asked for. -/
theorem replaces_fault (fault : UsageFault) (rest other : List Token) :
    Replaces (.fault fault :: rest) other where
  inner _ _ _ _ := follows_error fault _
  outer _ := follows_error fault _
  head := ⟨_, rest, rfl, fun text h => by cases h⟩

variable {tail other : List Token}

/-- What can be replaced can be replaced behind any tokens behind the name. -/
theorem Replaces.follows_readInner (h : Replaces tail other) (name : CommandName)
    (outer inner : Options) (arguments : List String) (front : List Token) :
    Follows (readInner name outer inner arguments (front ++ tail))
      (readInner name outer inner arguments (front ++ other)) := by
  induction front generalizing inner arguments with
  | nil => exact h.inner name outer inner arguments
  | cons token front ih =>
    cases token with
    | option use =>
      simp only [List.cons_append, readInner]
      cases inner.add use with
      | error fault => exact .refl _
      | ok after => exact ih after arguments
    | word word =>
      simp only [List.cons_append, readInner]
      cases name.refuses? arguments word with
      | some fault => exact .refl _
      | none => exact ih inner (arguments ++ [word])
    | separator => exact ih inner arguments
    | help => exact .refl _
    | version => exact .refl _
    | fault fault => exact .refl _

/-- Behind the word for help stands nothing but a word. -/
theorem eq_of_readHelp_eq_ok {tokens : List Token} {action : Action}
    (h : readHelp tokens = .ok action) : tokens = [] ∨ ∃ word, tokens = [.word word] := by
  unfold readHelp at h
  split at h
  · exact .inl rfl
  · exact .inr ⟨_, rfl⟩
  · cases h

/-- What can be replaced can be replaced behind any tokens at all. -/
theorem Replaces.follows_readOuter (h : Replaces tail other) (outer : Options)
    (front : List Token) :
    Follows (readOuter outer (front ++ tail)) (readOuter outer (front ++ other)) := by
  obtain ⟨first, rest, rfl, hword⟩ := h.head
  induction front generalizing outer with
  | nil => exact h.outer outer
  | cons token front ih =>
    cases token with
    | option use =>
      simp only [List.cons_append, readOuter]
      cases outer.add use with
      | error fault => exact .refl _
      | ok after => exact ih after
    | word word =>
      simp only [List.cons_append, readOuter]
      split
      · intro action haction
        rcases eq_of_readHelp_eq_ok haction with hnil | ⟨text, hone⟩
        · simp at hnil
        · have hlast := List.append_eq_singleton_iff.mp hone
          rcases hlast with ⟨_, hlast⟩ | ⟨_, hlast⟩
          · exact absurd (List.cons.inj hlast).1 (hword text)
          · cases hlast
      · cases CommandName.ofWord? word with
        | none => exact .refl _
        | some name => exact h.follows_readInner name outer {} [] front
    | separator =>
      obtain ⟨next, more, hnext⟩ : ∃ next more, front ++ first :: rest = next :: more :=
        List.exists_cons_of_ne_nil (by simp)
      rw [List.cons_append, hnext]
      exact follows_error _ _
    | help => exact .refl _
    | version => exact .refl _
    | fault fault => exact .refl _

end CommandLine

/-! ## Arguments -/

namespace Token

/-- An argument of letters behind one dash. -/
def lettersArgument (letters : List Char) : String :=
  String.ofList ('-' :: letters)

variable {waiting : Option ValueOption} {front back : List String} {letters : List Char}

/-- Arguments in front become the same tokens whatever stands behind them, as long as no two dashes
alone are among them, unless the tokens end in a fault on the way. -/
theorem ofArguments_append (waiting : Option ValueOption) (hfront : "--" ∉ front) :
    (∃ tokens left, ∀ back,
      ofArguments waiting (front ++ back) = tokens ++ ofArguments left back) ∨
    ∃ tokens, ∀ back, ofArguments waiting (front ++ back) = tokens := by
  induction front generalizing waiting with
  | nil => exact .inl ⟨[], waiting, fun _ => rfl⟩
  | cons argument front ih =>
    obtain ⟨hargument, hrest⟩ : "--" ≠ argument ∧ "--" ∉ front := by simpa using hfront
    have hbehind (taken : List Token) (left : Option ValueOption)
        (h : ∀ back, ofArguments waiting (argument :: front ++ back) =
          taken ++ ofArguments left (front ++ back)) :
        (∃ tokens left, ∀ back,
          ofArguments waiting (argument :: front ++ back) = tokens ++ ofArguments left back) ∨
        ∃ tokens, ∀ back, ofArguments waiting (argument :: front ++ back) = tokens := by
      rcases ih left hrest with ⟨tokens, last, htokens⟩ | ⟨tokens, htokens⟩
      · exact .inl ⟨taken ++ tokens, last, fun back => by
          rw [h, htokens, List.append_assoc]⟩
      · exact .inr ⟨taken ++ tokens, fun back => by rw [h, htokens]⟩
    cases waiting with
    | none =>
      refine hbehind (ofArgument argument).1 (ofArgument argument).2 fun back => ?_
      rw [List.cons_append, ofArguments, if_neg (Ne.symm hargument)]
    | some taker =>
      by_cases hoption : looksLikeOption argument = true
      · exact .inr ⟨[.fault (.missingValue taker.name)], fun back => by
          rw [List.cons_append, ofArguments, if_pos hoption]⟩
      · refine hbehind [taker.withValue argument.toList] none fun back => ?_
        rw [List.cons_append, ofArguments, if_neg hoption]
        rfl

/-- The letters of switches become their tokens, whatever letters stand behind them. -/
theorem ofLetters_append {before : List Char}
    (hbefore : ∀ c ∈ before, (ofLetter? c).isSome = true) (after : List Char) :
    ofLetters (before ++ after) =
      (before.filterMap ofLetter? ++ (ofLetters after).1, (ofLetters after).2) := by
  induction before with
  | nil => rfl
  | cons c before ih =>
    obtain ⟨token, htoken⟩ := Option.isSome_iff_exists.mp (hbefore c (List.mem_cons_self ..))
    have hrest := ih fun d hd => hbefore d (List.mem_cons_of_mem _ hd)
    simp only [List.cons_append, ofLetters, htoken, hrest, List.filterMap_cons_some htoken]

/-- An argument of letters is read letter by letter, and the last one may take the next argument. -/
theorem ofArguments_letters {letters : List Char} {c : Char} {rest : List Char}
    (hletters : letters = c :: rest) (hc : c ≠ '-') (back : List String) :
    ofArguments none (lettersArgument letters :: back) =
      (ofLetters letters).1 ++ ofArguments (ofLetters letters).2 back := by
  subst hletters
  have hdashes : lettersArgument (c :: rest) ≠ "--" := by
    intro h
    have htext := congrArg String.toList h
    rw [lettersArgument, String.toList_ofList] at htext
    exact hc (List.cons.inj (List.cons.inj htext).2).1
  have hargument : ofArgument (lettersArgument (c :: rest)) = ofLetters (c :: rest) := by
    rw [ofArgument, lettersArgument, String.toList_ofList]
    split
    next name h => exact absurd (List.cons.inj (List.cons.inj h).2).1 hc
    next letter more h => rw [(List.cons.inj h).2]
    next _ hnone => exact absurd rfl (hnone c rest)
  rw [ofArguments, if_neg hdashes, hargument]

/-- Letters behind a dash are not the value of the option in front of them. -/
theorem ofArguments_letters_of_waiting {letters : List Char} {c : Char} {rest : List Char}
    (hletters : letters = c :: rest) (taker : ValueOption) (back : List String) :
    ofArguments (some taker) (lettersArgument letters :: back) =
      [.fault (.missingValue taker.name)] := by
  subst hletters
  rw [ofArguments, if_pos]
  rw [looksLikeOption, lettersArgument, String.toList_ofList]
  rfl

end Token

namespace CommandLine

/-- The second command line is the first without one use of the switch for details: an argument of
its own, or a letter among others behind one dash. Two dashes alone in front would make it a word.
-/
inductive DropsVerbose : List String → List String → Prop
  | argument (front back : List String) {flag : String} (hfront : "--" ∉ front)
      (hflag : flag = "-v" ∨ flag = "--verbose") :
      DropsVerbose (front ++ flag :: back) (front ++ back)
  | letter (front back : List String) (before after : List Char) {c : Char} {rest : List Char}
      (hfront : "--" ∉ front) (hbefore : ∀ d ∈ before, (Token.ofLetter? d).isSome = true)
      (hletters : before ++ after = c :: rest) (hc : c ≠ '-') :
      DropsVerbose (front ++ Token.lettersArgument (before ++ 'v' :: after) :: back)
        (front ++ Token.lettersArgument (before ++ after) :: back)

/-- Without one use of the switch, a command line that was accepted is accepted, and asks for the
same but for the details. -/
theorem follows_parse_of_dropsVerbose {arguments fewer : List String}
    (h : DropsVerbose arguments fewer) : Follows (parse arguments) (parse fewer) := by
  -- the tokens are the same, or go on differently behind the same ones
  have hparse {front back : List String} {added : String} {rest : List String}
      (hfront : "--" ∉ front)
      (hbehind : ∀ waiting, ∃ shared tail other,
        Token.ofArguments waiting (added :: back) = shared ++ tail ∧
          Token.ofArguments waiting rest = shared ++ other ∧
          (tail = other ∨ Replaces tail other)) :
      Follows (parse (front ++ added :: back)) (parse (front ++ rest)) := by
    unfold parse
    rcases Token.ofArguments_append none hfront with ⟨tokens, left, htokens⟩ | ⟨tokens, htokens⟩
    · obtain ⟨shared, tail, other, htail, hother, heq | hreplaces⟩ := hbehind left
      · rw [htokens, htokens, htail, hother, heq]
        exact .refl _
      · rw [htokens, htokens, htail, hother, ← List.append_assoc, ← List.append_assoc]
        exact hreplaces.follows_readOuter {} (tokens ++ shared)
    · rw [htokens, htokens]
      exact .refl _
  cases h with
  | argument front back hfront hflag =>
    refine hparse hfront fun waiting => ?_
    cases waiting with
    | none =>
      refine ⟨[], _, _, ?_, rfl, .inr (replaces_verbose (Token.ofArguments none back))⟩
      rcases hflag with rfl | rfl <;> rfl
    | some taker =>
      refine ⟨[], _, _, ?_, rfl, .inr (replaces_fault (.missingValue taker.name) [] _)⟩
      rcases hflag with rfl | rfl <;> rfl
  | letter front back before after hfront hbefore hletters hc =>
    obtain ⟨d, others, hmore, hd⟩ : ∃ d others, before ++ 'v' :: after = d :: others ∧ d ≠ '-' := by
      cases before with
      | nil => exact ⟨'v', after, rfl, by decide⟩
      | cons d before => exact ⟨d, _, rfl, (List.cons.inj hletters).1 ▸ hc⟩
    refine hparse hfront fun waiting => ?_
    cases waiting with
    | none =>
      refine ⟨before.filterMap Token.ofLetter?, _, _, ?_, ?_, .inr (replaces_verbose
        ((Token.ofLetters after).1 ++ Token.ofArguments (Token.ofLetters after).2 back))⟩
      · rw [Token.ofArguments_letters hmore hd, Token.ofLetters_append hbefore, List.append_assoc]
        rfl
      · rw [Token.ofArguments_letters hletters hc, Token.ofLetters_append hbefore,
          List.append_assoc]
    | some taker =>
      refine ⟨_, [], [], (List.append_nil _).symm, ?_, .inl rfl⟩
      rw [Token.ofArguments_letters_of_waiting hmore, Token.ofArguments_letters_of_waiting hletters]
      rfl

end CommandLine

end StudentRoster
