import StudentRoster.Proofs.CommandLine.Spelling

/-!
# Blocks of options

Uses of options of which none is repeated add up to the options that they make together
(`addAll_eq_ofUses`). The reader collects a block of them in the same way in front of the name of a
command and behind it, so it makes no difference where a block stands (`parse_block_in_front`,
`parse_block_behind`), and a block alone asks to list (`parse_block`).
-/

set_option autoImplicit false

namespace StudentRoster

namespace OptionUse

/-- The file to load that a use gives. -/
def input? : OptionUse → Option String
  | input path => some path
  | output _ | normalize | verbose => none

/-- The output file that a use gives. -/
def output? : OptionUse → Option String
  | output path => some path
  | input _ | normalize | verbose => none

end OptionUse

namespace Options

/-- The options that some uses make together: the files to load in their order, and each other
option if it is used at all. -/
def ofUses (uses : List OptionUse) : Options where
  inputs := uses.filterMap OptionUse.input?
  output := (uses.filterMap OptionUse.output?).head?
  normalize := uses.contains .normalize
  verbose := uses.contains .verbose

/-- No option but that for a file to load is used more than once. -/
structure UsedOnce (uses : List OptionUse) : Prop where
  output : (uses.filterMap OptionUse.output?).length ≤ 1
  normalize : uses.count .normalize ≤ 1
  verbose : uses.count .verbose ≤ 1

/-- The options with more uses, one after the other. -/
def addAll (options : Options) (uses : List OptionUse) : Except UsageFault Options :=
  uses.foldlM add options

/-- What may be used once is not used before its use. -/
theorem not_mem_of_count_le {uses : List OptionUse} {use : OptionUse}
    (h : (uses ++ [use]).count use ≤ 1) : use ∉ uses := by
  rw [List.count_append, List.count_singleton_self] at h
  exact List.count_eq_zero.mp (by omega)

/-- One use more that does not repeat another can be added to the options of the uses in front. -/
theorem add_ofUses {uses : List OptionUse} {use : OptionUse} (h : UsedOnce (uses ++ [use])) :
    (ofUses uses).add use = .ok (ofUses (uses ++ [use])) := by
  cases use with
  | input path => simp [add, ofUses, OptionUse.input?, OptionUse.output?]
  | output path =>
    have hnone : uses.filterMap OptionUse.output? = [] := by
      have hlength := h.output
      rw [List.filterMap_append, List.length_append] at hlength
      exact List.eq_nil_of_length_eq_zero (by simpa [OptionUse.output?] using hlength)
    simp [add, ofUses, OptionUse.input?, OptionUse.output?, hnone]
  | normalize =>
    have hnone : .normalize ∉ uses := not_mem_of_count_le h.normalize
    simp [add, ofUses, OptionUse.input?, OptionUse.output?, hnone]
  | verbose =>
    have hnone : .verbose ∉ uses := not_mem_of_count_le h.verbose
    simp [add, ofUses, OptionUse.input?, OptionUse.output?, hnone]

/-- Uses that go together go without the last of them. -/
theorem UsedOnce.of_append {uses more : List OptionUse} (h : UsedOnce (uses ++ more)) :
    UsedOnce uses where
  output := by
    have hlength := h.output
    rw [List.filterMap_append, List.length_append] at hlength
    omega
  normalize := by
    have hcount := h.normalize
    rw [List.count_append] at hcount
    omega
  verbose := by
    have hcount := h.verbose
    rw [List.count_append] at hcount
    omega

/-- Further uses add up with those in front as long as none is repeated. -/
theorem addAll_ofUses {uses more : List OptionUse} (h : UsedOnce (uses ++ more)) :
    addAll (ofUses uses) more = .ok (ofUses (uses ++ more)) := by
  induction more generalizing uses with
  | nil => rw [List.append_nil]; rfl
  | cons use more ih =>
    rw [List.append_cons] at h ⊢
    rw [addAll, List.foldlM_cons, add_ofUses h.of_append]
    exact ih h

/-- Uses of which none is repeated add up to their options. -/
theorem addAll_eq_ofUses {uses : List OptionUse} (h : UsedOnce uses) :
    addAll {} uses = .ok (ofUses uses) :=
  @addAll_ofUses [] uses h

end Options

/-- The words that the command of this name takes, and what it is asked for by them. -/
inductive CommandName.Takes : CommandName → List String → Command → Prop
  | list : Takes .list [] .list
  | get {word : String} {id : Int32} (hid : Text.int32? word.toList = some id) :
    Takes .get [word] (.get id)
  | check {word : String} {id : Int32} (hid : Text.int32? word.toList = some id) :
    Takes .check [word] (.check id)
  | lastName (word : String) : Takes .lastName [word] (.lastName word)
  | major (word : String) : Takes .major [word] (.major word)
  | showAll : Takes .config [] (.settings .showAll)
  | showKey (key : String) : Takes .config [key] (.settings (.showKey key))
  | change (key value : String) : Takes .config [key, value] (.settings (.change key value))

namespace CommandName

variable {name : CommandName} {words : List String} {command : Command}

/-- A name with the words that it takes gives the command. -/
theorem Takes.command_eq (h : name.Takes words command) : name.command words = .ok command := by
  cases h with
  | get hid | check hid =>
    unfold CommandName.command
    simp only [hid]
  | list | lastName | major | showAll | showKey | change => rfl

/-- A name takes no more words than it has arguments. -/
theorem Takes.length_le (h : name.Takes words command) : words.length ≤ name.maxArguments := by
  cases h <;> simp [maxArguments]

/-- Where a name takes an id, its words are numbers. -/
theorem Takes.isSome_int32? (h : name.Takes words command) (hid : name.takesId = true) :
    ∀ word ∈ words, (Text.int32? word.toList).isSome = true := by
  cases h with
  | get hword | check hword =>
    intro word hmem
    rw [List.mem_singleton.mp hmem, hword]
    rfl
  | list | lastName | major | showAll | showKey | change => cases hid

/-- No name of a command looks like options, and none is the word for help. -/
theorem isPlainWord_of_ofWord? {word : String} (h : ofWord? word = some name) :
    CommandLine.IsPlainWord word ∧ word ≠ "help" := by
  obtain ⟨_, _, hwords, _⟩ := List.lookup_eq_some_iff.mp h
  have hmem : word ∈ CommandName.words.map Prod.fst := by
    rw [hwords]
    simp
  have hall : ∀ other ∈ CommandName.words.map Prod.fst,
      other.toList.head? ≠ some '-' ∧ other ≠ "help" := by decide
  obtain ⟨hdash, hhelp⟩ := hall word hmem
  exact ⟨fun hhead => absurd hhead hdash, hhelp⟩

end CommandName

namespace CommandLine

/-! ## Reading a block -/

/-- In front of the name, options are taken in one after the other. -/
theorem readOuter_uses {outer after : Options} {uses : List OptionUse}
    (h : outer.addAll uses = .ok after) (rest : List Token) :
    readOuter outer (uses.map .option ++ rest) = readOuter after rest := by
  induction uses generalizing outer with
  | nil =>
    obtain rfl := Except.ok.inj h
    rfl
  | cons use uses ih =>
    rw [Options.addAll, List.foldlM_cons] at h
    cases hadd : outer.add use with
    | error fault => rw [hadd] at h; cases h
    | ok next =>
      rw [hadd] at h
      simp only [List.map_cons, List.cons_append, readOuter, hadd]
      exact ih h

/-- Behind the name, options are taken in one after the other and stand in no argument. -/
theorem readInner_uses (name : CommandName) (outer : Options) {inner after : Options}
    {uses : List OptionUse} (h : inner.addAll uses = .ok after) (arguments : List String)
    (rest : List Token) :
    readInner name outer inner arguments (uses.map .option ++ rest) =
      readInner name outer after arguments rest := by
  induction uses generalizing inner with
  | nil =>
    obtain rfl := Except.ok.inj h
    rfl
  | cons use uses ih =>
    rw [Options.addAll, List.foldlM_cons] at h
    cases hadd : inner.add use with
    | error fault => rw [hadd] at h; cases h
    | ok next =>
      rw [hadd] at h
      simp only [List.map_cons, List.cons_append, readInner, hadd]
      exact ih h

/-- Words are taken as long as there are not too many, and each is an id where one must be. -/
theorem readInner_words (name : CommandName) (outer inner : Options) {arguments words : List String}
    (hcount : arguments.length + words.length ≤ name.maxArguments)
    (hids : name.takesId = true → ∀ word ∈ words, (Text.int32? word.toList).isSome = true)
    (rest : List Token) :
    readInner name outer inner arguments (words.map .word ++ rest) =
      readInner name outer inner (arguments ++ words) rest := by
  induction words generalizing arguments with
  | nil => rw [List.append_nil]; rfl
  | cons word words ih =>
    have hfree : ¬ name.maxArguments ≤ arguments.length := by
      rw [List.length_cons] at hcount
      omega
    have htaken : name.refuses? arguments word = none := by
      rw [CommandName.refuses?, if_neg hfree, if_neg]
      intro hrefused
      obtain ⟨hid, hnone⟩ := Bool.and_eq_true_iff.mp hrefused
      have hsome := hids hid word (List.mem_cons_self ..)
      rw [Option.isNone_iff_eq_none.mp hnone] at hsome
      cases hsome
    simp only [List.map_cons, List.cons_append, readInner, htaken]
    rw [ih, List.append_assoc, List.singleton_append]
    · simp only [List.length_append, List.length_cons, List.length_nil] at hcount ⊢
      omega
    · exact fun hid other hother => hids hid other (List.mem_cons_of_mem _ hother)

variable {name : CommandName} {words block arguments : List String} {command : Command}
  {uses : List OptionUse}

/-- The arguments of a command that takes their words are read to their end. -/
theorem readInner_of_spellsWords (hwords : SpellsWords arguments words)
    (htakes : name.Takes words command) (outer inner : Options) :
    readInner name outer inner [] (Token.ofArguments none arguments) =
      .ok (.run ⟨outer.over inner, command⟩) := by
  obtain ⟨front, back, rfl, htokens⟩ := Token.ofArguments_of_spellsWords hwords
  have hcount := htakes.length_le
  rw [List.length_append] at hcount
  have hids := htakes.isSome_int32?
  have hback : readInner name outer inner front (back.map .word) =
      .ok (.run ⟨outer.over inner, command⟩) := by
    have hread := readInner_words name outer inner hcount
      (fun hid word hword => hids hid word (List.mem_append_right front hword)) []
    rw [List.append_nil] at hread
    rw [hread, readInner, htakes.command_eq]
    rfl
  have hfront (rest : List Token) :
      readInner name outer inner [] (front.map .word ++ rest) =
        readInner name outer inner front rest :=
    readInner_words name outer inner (by rw [List.length_nil]; omega)
      (fun hid word hword => hids hid word (List.mem_append_left back hword)) rest
  rcases htokens with htokens | htokens <;> rw [htokens, hfront]
  · exact hback
  · rw [readInner]
    exact hback

/-- The name of a command, and the arguments behind it, below options that have been read. -/
theorem readOuter_name {word : String} (hname : CommandName.ofWord? word = some name)
    (outer : Options) (rest : List String) :
    readOuter outer (Token.ofArguments none (word :: rest)) =
      readInner name outer {} [] (Token.ofArguments none rest) := by
  obtain ⟨hplain, hhelp⟩ := CommandName.isPlainWord_of_ofWord? hname
  rw [Token.ofArguments_plain hplain]
  simp only [readOuter, if_neg hhelp, hname]

/-- A block in front of the name of a command gives the command its options. -/
theorem parse_block_in_front (hblock : SpellsOptions block uses) (honce : Options.UsedOnce uses)
    {word : String} (hname : CommandName.ofWord? word = some name)
    (hwords : SpellsWords arguments words) (htakes : name.Takes words command) :
    parse (block ++ word :: arguments) = .ok (.run ⟨Options.ofUses uses, command⟩) := by
  rw [parse, Token.ofArguments_of_spellsOptions hblock,
    readOuter_uses (Options.addAll_eq_ofUses honce), readOuter_name hname,
    readInner_of_spellsWords hwords htakes, Options.over_empty]

/-- So does a block behind the name. -/
theorem parse_block_behind (hblock : SpellsOptions block uses) (honce : Options.UsedOnce uses)
    {word : String} (hname : CommandName.ofWord? word = some name)
    (hwords : SpellsWords arguments words) (htakes : name.Takes words command) :
    parse (word :: (block ++ arguments)) = .ok (.run ⟨Options.ofUses uses, command⟩) := by
  rw [parse, readOuter_name hname, Token.ofArguments_of_spellsOptions hblock,
    readInner_uses name {} (Options.addAll_eq_ofUses honce),
    readInner_of_spellsWords hwords htakes, Options.empty_over]

/-- A block alone asks to list. -/
theorem parse_block (hblock : SpellsOptions block uses) (honce : Options.UsedOnce uses) :
    parse block = .ok (.run ⟨Options.ofUses uses, .list⟩) := by
  have htokens := Token.ofArguments_of_spellsOptions hblock []
  rw [List.append_nil] at htokens
  rw [parse, htokens, readOuter_uses (Options.addAll_eq_ofUses honce)]
  rfl

end CommandLine

end StudentRoster
