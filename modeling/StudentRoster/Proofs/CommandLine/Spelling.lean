import StudentRoster.Proofs.CommandLine.Details

/-!
# Spellings of options and words

Uses of options are spelled in any mixture of long names and letters, with values that are attached
or stand in the next argument (`SpellsOptions`). A spelling becomes the tokens of its uses whatever
stands behind it (`ofArguments_of_spellsOptions`), and nothing else becomes tokens of uses alone
(`spellsOptions_iff`). Words stand as they are, or behind two dashes (`SpellsWords`).
-/

set_option autoImplicit false

namespace StudentRoster

/-! ## Options as they are used -/

/-- The letter of an option that takes a value. -/
def ValueOption.letter : ValueOption → Char
  | input => 'i'
  | output => 'o'

/-- One use of an option with this value. -/
def ValueOption.use : ValueOption → String → OptionUse
  | input, value => .input value
  | output, value => .output value

namespace OptionUse

/-- The switch that a letter uses. -/
def ofSwitch? : Char → Option OptionUse
  | 'n' => some normalize
  | 'v' => some verbose
  | _ => none

end OptionUse

namespace CommandLine

open Token (lettersArgument)

/-! ## Spellings -/

/-- An argument that is a word and not taken for options: a dash may stand in front of nothing. -/
def IsPlainWord (argument : String) : Prop :=
  argument.toList.head? = some '-' → argument = "-"

/-- Arguments that spell uses of options. Switches may stand together behind one dash, and an option
with its value may follow them there. A value is attached, with an equals sign or without, or is the
next argument, which then must not look like options. -/
inductive SpellsOptions : List String → List OptionUse → Prop
  | nil : SpellsOptions [] []
  | normalize {arguments : List String} {uses : List OptionUse} (h : SpellsOptions arguments uses) :
    SpellsOptions ("--normalize" :: arguments) (.normalize :: uses)
  | verbose {arguments : List String} {uses : List OptionUse} (h : SpellsOptions arguments uses) :
    SpellsOptions ("--verbose" :: arguments) (.verbose :: uses)
  | longNext (option : ValueOption) {value : String} {arguments : List String}
      {uses : List OptionUse} (hvalue : value ≠ "") (hplain : IsPlainWord value)
      (h : SpellsOptions arguments uses) :
    SpellsOptions (option.name :: value :: arguments) (option.use value :: uses)
  | longAttached (option : ValueOption) {value : String} {arguments : List String}
      {uses : List OptionUse} (hvalue : value ≠ "") (h : SpellsOptions arguments uses) :
    SpellsOptions ((option.name ++ "=" ++ value) :: arguments) (option.use value :: uses)
  | letters {switches : List Char} {used : List OptionUse} {arguments : List String}
      {uses : List OptionUse} (hswitches : switches.map OptionUse.ofSwitch? = used.map some)
      (hsome : switches ≠ []) (h : SpellsOptions arguments uses) :
    SpellsOptions (lettersArgument switches :: arguments) (used ++ uses)
  | lettersNext (option : ValueOption) {switches : List Char} {used : List OptionUse}
      {value : String} {arguments : List String} {uses : List OptionUse}
      (hswitches : switches.map OptionUse.ofSwitch? = used.map some)
      (hvalue : value ≠ "") (hplain : IsPlainWord value) (h : SpellsOptions arguments uses) :
    SpellsOptions (lettersArgument (switches ++ [option.letter]) :: value :: arguments)
      (used ++ option.use value :: uses)
  | lettersAttached (option : ValueOption) {switches : List Char} {used : List OptionUse}
      {value : String} {arguments : List String} {uses : List OptionUse}
      (hswitches : switches.map OptionUse.ofSwitch? = used.map some)
      (hvalue : value ≠ "") (hequals : value.toList.head? ≠ some '=')
      (h : SpellsOptions arguments uses) :
    SpellsOptions (lettersArgument (switches ++ option.letter :: value.toList) :: arguments)
      (used ++ option.use value :: uses)
  | lettersEquals (option : ValueOption) {switches : List Char} {used : List OptionUse}
      {value : String} {arguments : List String} {uses : List OptionUse}
      (hswitches : switches.map OptionUse.ofSwitch? = used.map some)
      (hvalue : value ≠ "") (h : SpellsOptions arguments uses) :
    SpellsOptions (lettersArgument (switches ++ option.letter :: '=' :: value.toList) :: arguments)
      (used ++ option.use value :: uses)

/-- Arguments that spell words: as they stand, or behind two dashes, where any text is a word. -/
inductive SpellsWords : List String → List String → Prop
  | plain {words : List String} (hwords : ∀ word ∈ words, IsPlainWord word) :
    SpellsWords words words
  | separated {front : List String} (back : List String)
      (hfront : ∀ word ∈ front, IsPlainWord word) :
    SpellsWords (front ++ "--" :: back) (front ++ back)

end CommandLine

namespace Token

open CommandLine

/-! ## The tokens of a block -/

/-- The letters of the switches are the ones that use an option alone. -/
theorem ofLetter?_eq_option_iff {c : Char} {use : OptionUse} :
    ofLetter? c = some (.option use) ↔ OptionUse.ofSwitch? c = some use := by
  constructor
  · intro h
    unfold ofLetter? at h
    split at h <;> cases h <;> rfl
  · intro h
    unfold OptionUse.ofSwitch? at h
    split at h <;> cases h <;> rfl

/-- The letters of switches become their uses, whatever letters stand behind them. -/
theorem ofLetters_switches {switches : List Char} {used : List OptionUse}
    (h : switches.map OptionUse.ofSwitch? = used.map some) (after : List Char) :
    ofLetters (switches ++ after) =
      (used.map .option ++ (ofLetters after).1, (ofLetters after).2) := by
  induction switches generalizing used with
  | nil =>
    obtain rfl := List.map_eq_nil_iff.mp h.symm
    rfl
  | cons c switches ih =>
    cases used with
    | nil => cases h
    | cons use used =>
      obtain ⟨hc, hrest⟩ := List.cons.inj h
      simp only [List.cons_append, List.map_cons, ofLetters, ofLetter?_eq_option_iff.mpr hc,
        ih hrest]

/-- The letter of an option takes what is behind it for a value, or the next argument. -/
theorem ofLetters_letter (option : ValueOption) (rest : List Char) :
    ofLetters (option.letter :: rest) =
      if rest.isEmpty then ([], some option)
      else ([option.withValue (dropEquals rest)], none) := by
  cases option <;> rfl

/-- A value that is not empty is taken. -/
theorem withValue_toList (option : ValueOption) {value : String} (h : value ≠ "") :
    option.withValue value.toList = .option (option.use value) := by
  have hsome : value.toList.isEmpty = false := by simpa using h
  cases option <;> simp [ValueOption.withValue, ValueOption.use, hsome]

/-- The first letter behind a dash is not a dash itself if it is a switch or takes a value. -/
theorem exists_head_switches {switches : List Char} {used : List OptionUse}
    (h : switches.map OptionUse.ofSwitch? = used.map some) {after : List Char}
    (hafter : switches = [] → ∃ c rest, after = c :: rest ∧ c ≠ '-') :
    ∃ c rest, switches ++ after = c :: rest ∧ c ≠ '-' := by
  cases switches with
  | nil => exact hafter rfl
  | cons c switches =>
    refine ⟨c, switches ++ after, rfl, ?_⟩
    rintro rfl
    cases used with
    | nil => cases h
    | cons use used => cases (List.cons.inj h).1

/-- A plain word does not look like options. -/
theorem looksLikeOption_eq_false {word : String} (h : IsPlainWord word) :
    looksLikeOption word = false := by
  unfold looksLikeOption
  split
  next c rest htext =>
    have hdash := congrArg String.toList (h (by rw [htext]; rfl))
    rw [htext] at hdash
    cases hdash
  next => rfl

/-- A plain word is read as it stands. -/
theorem ofArgument_plain {word : String} (h : IsPlainWord word) :
    ofArgument word = ([.word word], none) := by
  have hlooks := looksLikeOption_eq_false h
  unfold looksLikeOption at hlooks
  unfold ofArgument
  split
  next name htext => rw [htext] at hlooks; cases hlooks
  next letter letters htext => rw [htext] at hlooks; cases hlooks
  next => rfl

/-- Arguments are read one at a time while no option waits for its value. -/
theorem ofArguments_none_cons {argument : String} {rest : List String} (h : argument ≠ "--") :
    ofArguments none (argument :: rest) =
      (ofArgument argument).1 ++ ofArguments (ofArgument argument).2 rest := by
  rw [ofArguments, if_neg h]

/-- A plain word comes first among the tokens. -/
theorem ofArguments_plain {word : String} (h : IsPlainWord word) (rest : List String) :
    ofArguments none (word :: rest) = .word word :: ofArguments none rest := by
  rw [ofArguments_none_cons fun heq => by subst heq; exact absurd (h rfl) (by decide),
    ofArgument_plain h]
  rfl

/-- The argument behind an option without a value is its value. -/
theorem ofArguments_value (option : ValueOption) {value : String} (hvalue : value ≠ "")
    (hplain : IsPlainWord value) (rest : List String) :
    ofArguments (some option) (value :: rest) =
      .option (option.use value) :: ofArguments none rest := by
  rw [ofArguments, looksLikeOption_eq_false hplain, if_neg Bool.false_ne_true,
    withValue_toList option hvalue]

/-- Behind its name an option waits for its value. -/
theorem ofArguments_longNext (option : ValueOption) (rest : List String) :
    ofArguments none (option.name :: rest) = ofArguments (some option) rest := by
  rw [ofArguments_none_cons (by cases option <;> decide)]
  cases option <;> rfl

/-- A value attached to the name of an option is taken. -/
theorem ofArguments_longAttached (option : ValueOption) {value : String} (hvalue : value ≠ "")
    (rest : List String) :
    ofArguments none ((option.name ++ "=" ++ value) :: rest) =
      .option (option.use value) :: ofArguments none rest := by
  have htext : (option.name ++ "=" ++ value).toList =
      option.name.toList ++ '=' :: value.toList := by
    simp only [String.toList_append, List.append_assoc]
    rfl
  have hargument : ofArgument (option.name ++ "=" ++ value) =
      ([option.withValue value.toList], none) := by
    rw [ofArgument, htext]
    cases option <;> rfl
  rw [ofArguments_none_cons, hargument, withValue_toList option hvalue]
  · rfl
  · intro h
    have hlength := congrArg (fun text : String => text.toList.length) h
    rw [htext] at hlength
    cases option <;> simp [ValueOption.name] at hlength

/-- A block becomes its uses, whatever arguments stand behind it. -/
theorem ofArguments_of_spellsOptions {block : List String} {uses : List OptionUse}
    (h : SpellsOptions block uses) (rest : List String) :
    ofArguments none (block ++ rest) = uses.map .option ++ ofArguments none rest := by
  -- the letters of an argument are switches and perhaps an option that takes the letters behind it
  have hletters {switches : List Char} {used : List OptionUse}
      (hswitches : switches.map OptionUse.ofSwitch? = used.map some) (option : ValueOption)
      (letters : List Char) (behind : List String) :
      ofArguments none (lettersArgument (switches ++ option.letter :: letters) :: behind) =
        used.map .option ++ ((ofLetters (option.letter :: letters)).1 ++
          ofArguments (ofLetters (option.letter :: letters)).2 behind) := by
    obtain ⟨c, others, hhead, hc⟩ := exists_head_switches hswitches (fun _ =>
      ⟨option.letter, letters, rfl, by cases option <;> decide⟩)
    rw [ofArguments_letters hhead hc, ofLetters_switches hswitches, List.append_assoc]
  induction h with
  | nil => rfl
  | normalize h ih | verbose h ih =>
    rw [List.cons_append, ofArguments_none_cons (by decide)]
    exact congrArg _ ih
  | longNext option hvalue hplain h ih =>
    rw [List.cons_append, ofArguments_longNext, List.cons_append,
      ofArguments_value option hvalue hplain, ih]
    rfl
  | longAttached option hvalue h ih =>
    rw [List.cons_append, ofArguments_longAttached option hvalue, ih]
    rfl
  | @letters switches used arguments uses hswitches hsome h ih =>
    obtain ⟨c, others, hhead, hc⟩ := @exists_head_switches _ _ hswitches []
      fun hnil => absurd hnil hsome
    have hused := ofLetters_switches hswitches []
    rw [List.append_nil] at hhead hused
    rw [List.cons_append, ofArguments_letters hhead hc, hused]
    simp only [ofLetters, ih, List.map_append, List.append_assoc, List.nil_append]
  | lettersNext option hswitches hvalue hplain h ih =>
    rw [List.cons_append, hletters hswitches, List.cons_append, ofLetters_letter,
      List.isEmpty_nil, if_pos rfl, List.nil_append, ofArguments_value option hvalue hplain, ih]
    simp only [List.map_append, List.map_cons, List.append_assoc, List.cons_append]
  | @lettersAttached option switches used value arguments uses hswitches hvalue hequals h ih =>
    have hsome : value.toList.isEmpty = false := by simpa using hvalue
    have hdrop : dropEquals value.toList = value.toList := by
      unfold dropEquals
      split
      next rest htext => exact absurd (by rw [htext]; rfl) hequals
      next => rfl
    rw [List.cons_append, hletters hswitches, ofLetters_letter, hsome, if_neg Bool.false_ne_true,
      hdrop, withValue_toList option hvalue, ih]
    simp only [List.map_append, List.map_cons, List.append_assoc, List.cons_append, List.nil_append]
  | lettersEquals option hswitches hvalue h ih =>
    rw [List.cons_append, hletters hswitches, ofLetters_letter, if_neg (by simp), dropEquals,
      withValue_toList option hvalue, ih]
    simp only [List.map_append, List.map_cons, List.append_assoc, List.cons_append, List.nil_append]

/-- The arguments of a command become its words, behind those that stand in front. -/
theorem ofArguments_of_spellsWords {arguments words : List String}
    (h : SpellsWords arguments words) :
    ∃ front back, words = front ++ back ∧
      (ofArguments none arguments = front.map .word ++ back.map .word ∨
        ofArguments none arguments = front.map .word ++ .separator :: back.map .word) := by
  have hfront {front : List String} (hplain : ∀ word ∈ front, IsPlainWord word)
      (back : List String) :
      ofArguments none (front ++ back) = front.map .word ++ ofArguments none back := by
    induction front with
    | nil => rfl
    | cons word front ih =>
      rw [List.cons_append, ofArguments_plain (hplain word (List.mem_cons_self ..)),
        ih fun other hother => hplain other (List.mem_cons_of_mem _ hother)]
      rfl
  cases h with
  | plain hwords =>
    refine ⟨arguments, [], (List.append_nil _).symm, .inl ?_⟩
    have htokens := hfront hwords []
    rwa [List.append_nil] at htokens
  | @separated front back hwords =>
    exact ⟨front, back, rfl, .inr (hfront hwords _)⟩

/-! ## Nothing else becomes uses -/

/-- Arguments that spell uses behind an option that may still lack its value. -/
inductive SpellsBehind : Option ValueOption → List String → List OptionUse → Prop
  | none {arguments : List String} {uses : List OptionUse} (h : SpellsOptions arguments uses) :
    SpellsBehind none arguments uses
  | some (option : ValueOption) {value : String} {arguments : List String} {uses : List OptionUse}
      (hvalue : value ≠ "") (hplain : IsPlainWord value) (h : SpellsOptions arguments uses) :
    SpellsBehind (some option) (value :: arguments) (option.use value :: uses)

variable {arguments : List String} {uses more : List OptionUse} {waiting : Option ValueOption}

/-- A value that is taken is not empty and is the one of the option. -/
theorem withValue_eq_option {option : ValueOption} {value : List Char} {use : OptionUse}
    (h : option.withValue value = .option use) :
    String.ofList value ≠ "" ∧ use = option.use (String.ofList value) := by
  unfold ValueOption.withValue at h
  split at h
  · cases h
  next hsome =>
    refine ⟨by simpa using hsome, ?_⟩
    cases option <;> exact (Token.option.inj h).symm

/-- Each option has one letter. -/
theorem ofLetter?_letter_of_ofLetter? {c : Char} {option : ValueOption}
    (h : ValueOption.ofLetter? c = some option) : c = option.letter := by
  unfold ValueOption.ofLetter? at h
  split at h <;> cases h <;> rfl

/-- The letter of an option that takes a value ends the letters that are switches. -/
theorem spellsOptions_taker {taker : ValueOption} {switches letters : List Char}
    {used : List OptionUse} (hswitches : switches.map OptionUse.ofSwitch? = used.map some)
    (hletters : ofLetters (taker.letter :: letters) = (uses.map .option, waiting))
    (hbehind : SpellsBehind waiting arguments more) :
    SpellsOptions (lettersArgument (switches ++ taker.letter :: letters) :: arguments)
      (used ++ uses ++ more) := by
  rw [ofLetters_letter] at hletters
  split at hletters
  next hnil =>
    obtain ⟨huses, rfl⟩ := Prod.mk.inj hletters
    obtain rfl := List.map_eq_nil_iff.mp huses.symm
    obtain rfl := List.isEmpty_iff.mp hnil
    cases hbehind with
    | some _ hvalue hplain h =>
      rw [List.append_nil]
      exact .lettersNext taker hswitches hvalue hplain h
  next =>
    obtain ⟨huses, rfl⟩ := Prod.mk.inj hletters
    obtain ⟨use, rfl, huse⟩ := List.map_eq_singleton_iff.mp huses.symm
    obtain ⟨hvalue, rfl⟩ := withValue_eq_option huse.symm
    cases hbehind with
    | none h =>
      rw [List.append_assoc]
      unfold dropEquals at hvalue ⊢
      split at hvalue
      next value =>
        have hspells := SpellsOptions.lettersEquals taker hswitches hvalue h
        rwa [String.toList_ofList] at hspells
      next value hequals =>
        have hhead : (String.ofList letters).toList.head? ≠ some '=' := by
          rw [String.toList_ofList]
          intro hhead
          obtain ⟨rest, hrest⟩ := List.head?_eq_some_iff.mp hhead
          exact hequals rest hrest
        have hspells := SpellsOptions.lettersAttached taker hswitches hvalue hhead h
        rwa [String.toList_ofList] at hspells

/-- Letters that become uses, behind switches, are part of a spelling. -/
theorem spellsOptions_letters {letters : List Char} {switches : List Char} {used : List OptionUse}
    (hswitches : switches.map OptionUse.ofSwitch? = used.map some)
    (hletters : ofLetters letters = (uses.map .option, waiting))
    (hsome : switches ++ letters ≠ []) (hbehind : SpellsBehind waiting arguments more) :
    SpellsOptions (lettersArgument (switches ++ letters) :: arguments) (used ++ uses ++ more) := by
  induction letters generalizing switches used uses with
  | nil =>
    obtain ⟨hnil, rfl⟩ := Prod.mk.inj hletters
    obtain rfl := List.map_eq_nil_iff.mp hnil.symm
    cases hbehind with
    | none h =>
      rw [List.append_nil] at hsome
      rw [List.append_nil, List.append_nil]
      exact .letters hswitches hsome h
  | cons letter letters ih =>
    cases htaker : ValueOption.ofLetter? letter with
    | some taker =>
      obtain rfl := ofLetter?_letter_of_ofLetter? htaker
      exact spellsOptions_taker hswitches hletters hbehind
    | none =>
      rw [ofLetters] at hletters
      cases hletter : ofLetter? letter with
      | none =>
        simp only [hletter, htaker, Prod.mk.injEq] at hletters
        obtain ⟨use, _, huse⟩ := List.map_eq_singleton_iff.mp hletters.1.symm
        cases huse
      | some token =>
        simp only [hletter, Prod.mk.injEq] at hletters
        obtain ⟨huses, hwaiting⟩ := hletters
        obtain ⟨use, later, rfl, rfl, hlater⟩ := List.map_eq_cons_iff.mp huses.symm
        -- the switch joins those in front
        rw [List.append_cons, List.append_cons used]
        refine ih ?_ (Prod.ext hlater.symm hwaiting) (by simp)
        rw [List.map_append, List.map_append, hswitches]
        exact congrArg (used.map some ++ [·]) (ofLetter?_eq_option_iff.mp hletter)

/-- The names of the switches are the ones that use an option alone. -/
theorem eq_of_ofName?_eq_option {name : List Char} {use : OptionUse}
    (h : ofName? name = some (.option use)) :
    (name = "normalize".toList ∧ use = .normalize) ∨
      (name = "verbose".toList ∧ use = .verbose) := by
  unfold ofName? at h
  split at h
  next hname => exact .inl ⟨hname, (Token.option.inj (Option.some.inj h)).symm⟩
  next =>
    split at h
    next hname => exact .inr ⟨hname, (Token.option.inj (Option.some.inj h)).symm⟩
    next =>
      split at h
      · cases h
      · split at h <;> cases h

/-- Each option has one name. -/
theorem name_of_ofName? {name : List Char} {option : ValueOption}
    (h : ValueOption.ofName? name = some option) : option.name.toList = '-' :: '-' :: name := by
  unfold ValueOption.ofName? at h
  split at h
  next hname =>
    obtain rfl := Option.some.inj h
    rw [hname]
    rfl
  next =>
    split at h
    next hname =>
      obtain rfl := Option.some.inj h
      rw [hname]
      rfl
    next => cases h

/-- A name that becomes uses is part of a spelling. -/
theorem spellsOptions_longName {text : List Char}
    (htext : ofLongName text = (uses.map .option, waiting))
    (hbehind : SpellsBehind waiting arguments more) :
    SpellsOptions (String.ofList ('-' :: '-' :: text) :: arguments) (uses ++ more) := by
  have hparts : text.takeWhile (· != '=') ++ text.dropWhile (· != '=') = text :=
    List.takeWhile_append_dropWhile
  -- a switch, an option that waits for its value, or an option with its value attached
  unfold ofLongName at htext
  dsimp only at htext
  split at htext
  next token hdrop htoken =>
    rw [hdrop, List.append_nil] at hparts
    rw [hparts] at htoken
    obtain ⟨huses, rfl⟩ := Prod.mk.inj htext
    obtain ⟨use, rfl, rfl⟩ := List.map_eq_singleton_iff.mp huses.symm
    cases hbehind with
    | none h =>
      rcases eq_of_ofName?_eq_option htoken with ⟨rfl, rfl⟩ | ⟨rfl, rfl⟩
      · exact .normalize h
      · exact .verbose h
  next =>
    obtain ⟨use, _, huse⟩ := List.map_eq_singleton_iff.mp (Prod.mk.inj htext).1.symm
    cases huse
  next taker hdrop _ htaker =>
    rw [hdrop, List.append_nil] at hparts
    rw [hparts] at htaker
    obtain ⟨huses, rfl⟩ := Prod.mk.inj htext
    obtain rfl := List.map_eq_nil_iff.mp huses.symm
    cases hbehind with
    | some _ hvalue hplain h =>
      rw [← name_of_ofName? htaker, String.ofList_toList]
      exact .longNext taker hvalue hplain h
  next equals value taker hdrop _ htaker =>
    obtain ⟨huses, rfl⟩ := Prod.mk.inj htext
    obtain ⟨use, rfl, huse⟩ := List.map_eq_singleton_iff.mp huses.symm
    obtain ⟨hvalue, rfl⟩ := withValue_eq_option huse.symm
    have hequals : equals = '=' := by
      have hhead := List.head?_dropWhile_not (· != '=') text
      rw [hdrop] at hhead
      simpa using hhead
    cases hbehind with
    | none h =>
      have hspells := SpellsOptions.longAttached taker hvalue h
      have htexts :
          taker.name ++ "=" ++ String.ofList value = String.ofList ('-' :: '-' :: text) := by
        rw [hdrop, hequals] at hparts
        rw [← String.toList_inj]
        simp only [String.toList_append, String.toList_ofList, name_of_ofName? htaker,
          List.append_assoc, List.cons_append]
        exact congrArg (fun rest => '-' :: '-' :: rest) hparts
      rwa [htexts] at hspells
  next =>
    obtain ⟨use, _, huse⟩ := List.map_eq_singleton_iff.mp (Prod.mk.inj htext).1.symm
    cases huse

/-- An argument that becomes uses is part of a spelling. -/
theorem spellsOptions_argument {argument : String}
    (hargument : ofArgument argument = (uses.map .option, waiting))
    (hbehind : SpellsBehind waiting arguments more) :
    SpellsOptions (argument :: arguments) (uses ++ more) := by
  unfold ofArgument at hargument
  split at hargument
  next name htext =>
    rw [← @String.ofList_toList argument, htext]
    exact spellsOptions_longName hargument hbehind
  next letter letters _ htext =>
    rw [← @String.ofList_toList argument, htext]
    have hnone : ([] : List Char).map OptionUse.ofSwitch? = [].map some := rfl
    exact spellsOptions_letters hnone hargument (List.cons_ne_nil letter letters) hbehind
  next =>
    obtain ⟨use, _, huse⟩ := List.map_eq_singleton_iff.mp (Prod.mk.inj hargument).1.symm
    cases huse

/-- What does not look like options is a plain word. -/
theorem isPlainWord_of_looksLikeOption {word : String} (h : looksLikeOption word = false) :
    IsPlainWord word := by
  intro hhead
  unfold looksLikeOption at h
  split at h
  · cases h
  next hlong =>
    rw [← String.toList_inj]
    obtain ⟨rest, htext⟩ := List.head?_eq_some_iff.mp hhead
    cases rest with
    | nil => exact htext
    | cons c rest => exact absurd htext (hlong c rest)

/-- Arguments that become uses alone spell them, also behind an option that waits for its value. -/
theorem spellsBehind_of_ofArguments (h : ofArguments waiting arguments = uses.map .option) :
    SpellsBehind waiting arguments uses := by
  induction arguments generalizing waiting uses with
  | nil =>
    cases waiting with
    | none =>
      obtain rfl := List.map_eq_nil_iff.mp h.symm
      exact .none .nil
    | some taker =>
      obtain ⟨use, _, huse⟩ := List.map_eq_singleton_iff.mp h.symm
      cases huse
  | cons argument arguments ih =>
    cases waiting with
    | none =>
      rw [ofArguments] at h
      split at h
      · obtain ⟨use, _, _, huse, _⟩ := List.map_eq_cons_iff.mp h.symm
        cases huse
      next =>
        obtain ⟨used, more, rfl, hused, hmore⟩ := List.map_eq_append_iff.mp h.symm
        exact .none (spellsOptions_argument (Prod.ext hused.symm rfl) (ih hmore.symm))
    | some taker =>
      rw [ofArguments] at h
      split at h
      · obtain ⟨use, _, huse⟩ := List.map_eq_singleton_iff.mp h.symm
        cases huse
      next hplain =>
        obtain ⟨use, more, rfl, huse, hmore⟩ := List.map_eq_cons_iff.mp h.symm
        obtain ⟨hvalue, rfl⟩ := withValue_eq_option huse.symm
        rw [String.ofList_toList] at hvalue ⊢
        cases ih hmore.symm with
        | none hrest =>
          exact .some taker hvalue (isPlainWord_of_looksLikeOption (by simpa using hplain)) hrest

/-- The spellings of uses are exactly the arguments that become these uses and nothing else. -/
theorem spellsOptions_iff :
    SpellsOptions arguments uses ↔ ofArguments none arguments = uses.map .option := by
  constructor
  · intro h
    have htokens := ofArguments_of_spellsOptions h []
    rwa [List.append_nil, ofArguments, List.append_nil] at htokens
  · intro h
    cases spellsBehind_of_ofArguments h with
    | none h => exact h

end Token

end StudentRoster
