import StudentRoster.Proofs.Files.Contents
import StudentRoster.Settings.Request

/-!
# Saved settings

What is saved is loaded again (`load_of_save`), and a saving that fails leaves what is loaded as it
was (`load_of_save_error`). Two mishaps are excepted (`Mishap`). A write can break off after the
file was emptied. And a saving makes the directory of the settings first: when the path of the
directory goes up behind a name, making that name can bring an old directory into reach, in which
something that is no file to be read and written stands where the settings file belongs
(`IsBlocked`). With a path that leads down this does not happen (`not_uncovers_of_leadsDown`).

A request about settings that is not a change leaves the files alone, and so does one that fails
before it saves (`answer_fst_of_change`). `change_cases` says what a change comes to when settings
can be loaded, and `answer_of_load_error` what any request comes to when they cannot.
-/

set_option autoImplicit false

namespace StudentRoster.Settings

variable {tree after made : FileTree} {directory : String} {saved settings : Settings}

/-! ## The settings file -/

/-- Where the settings file belongs stands a directory, or a file that may not be read and
written. -/
def IsBlocked (tree : FileTree) (directory : String) : Prop :=
  ∃ place, tree.locate (filePath directory) = .ok place ∧
    (tree.isDirectory place = true ∨ (tree.access place).read = false ∨
      (tree.access place).write = false)

/-- The path of a directory leads down once a proper name has come. -/
def LeadsDown (directory : String) : Prop :=
  ∀ route, Route.ofPath directory = .ok route → Route.Descends route.names

/-- A path leads down when its names do. -/
theorem leadsDown_of_descends (h : Route.Descends (Route.namesOf directory.toList)) :
    LeadsDown directory := by
  intro route hroute
  obtain ⟨_, _, _, rfl⟩ := Route.ofPath_eq_ok_iff.mp hroute
  exact h

/-- The text of settings is read as them. -/
theorem ofJson_toJson (settings : Settings) : ofJson settings.toJson = .ok settings := by
  obtain ⟨casing, normalizeOnLoad⟩ := settings
  cases casing <;> cases normalizeOnLoad <;> decide +kernel

/-- A missing file stands for the defaults. -/
theorem load_of_hasPath_eq_false (h : tree.hasPath (filePath directory) = false) :
    load tree directory = .ok {} := by
  rw [load, h]
  rfl

/-- What is loaded from a file depends on its text. -/
theorem load_of_text {text : String} (h : tree.readBytes (filePath directory) = .ok text.toUTF8) :
    load tree directory = (ofJson text).mapError .badSettings := by
  rw [load, FileTree.hasPath_of_readBytes h, if_pos rfl, FileTree.readText_of_readBytes h]

/-- A file with the text of settings is loaded as them. -/
theorem load_of_readBytes
    (h : tree.readBytes (filePath directory) = .ok settings.toJson.toUTF8) :
    load tree directory = .ok settings := by
  rw [load_of_text h, ofJson_toJson]
  rfl

/-- Settings are loaded only from a file that may be read. -/
theorem read_of_load {place : Location} (hload : load tree directory = .ok saved)
    (hlocate : tree.locate (filePath directory) = .ok place) :
    (tree.access place).read = true := by
  rw [load, FileTree.hasPath_eq_true_iff.mpr ⟨place, hlocate⟩, if_pos rfl] at hload
  by_contra hread
  rw [Bool.not_eq_true] at hread
  have htext : tree.readText (filePath directory) = .error .permissionDenied := by
    simp [FileTree.readText, FileTree.readBytes, hlocate, hread, bind, Except.bind]
  rw [htext] at hload
  cases hload

/-- The way to the settings file is the way to the directory and then the name of the file. -/
theorem ofPath_filePath {route : Route} (h : Route.ofPath (filePath directory) = .ok route) :
    route.endsInSlash = false ∧
      (directory = "" ∧ route.names = [fileName] ∨
        ∃ holder, Route.ofPath directory = .ok holder ∧ route.fromRoot = holder.fromRoot ∧
          route.names = holder.names ++ [fileName]) :=
  Route.ofPath_joinPath (by decide) (by decide) h

/-- Where the settings file is, its directory is too. -/
theorem exists_directory_of_hasPath (hdirectory : directory ≠ "")
    (h : tree.hasPath (filePath directory) = true) :
    ∃ holder, Route.ofPath directory = .ok holder ∧ tree.leadsToDirectory holder = true := by
  obtain ⟨place, hlocate⟩ := FileTree.hasPath_eq_true_iff.mp h
  obtain ⟨route, hroute, hfollow⟩ := FileTree.locate_eq_ok_iff.mp hlocate
  obtain ⟨_, ⟨rfl, _⟩ | ⟨holder, hholder, hroot, hnames⟩⟩ := ofPath_filePath hroute
  · exact absurd rfl hdirectory
  · obtain ⟨hwalk, _⟩ := FileTree.follow_eq_ok_iff.mp hfollow
    rw [hnames, FileTree.walk_concat_eq_ok_iff] at hwalk
    obtain ⟨parent, hparent, henter⟩ := hwalk
    refine ⟨holder, hholder, FileTree.leadsToDirectory_eq_true_iff.mpr
      ⟨parent, ?_, FileTree.isDirectory_of_enter henter⟩⟩
    rwa [FileTree.start, hroot] at hparent

/-- A settings file that is there can be opened to be written, unless its place is blocked. -/
theorem hasPath_or_isBlocked_of_fileTarget_error {cause : FileError}
    (h : tree.fileTarget (filePath directory) = .error cause) :
    tree.hasPath (filePath directory) = false ∨ IsBlocked tree directory := by
  cases hpath : tree.hasPath (filePath directory) with
  | false => exact .inl rfl
  | true =>
    obtain ⟨place, hlocate⟩ := FileTree.hasPath_eq_true_iff.mp hpath
    obtain ⟨route, hroute, _⟩ := FileTree.locate_eq_ok_iff.mp hlocate
    obtain ⟨hslash, hnames⟩ := ofPath_filePath hroute
    obtain ⟨front, hfront⟩ : ∃ front, route.names = front ++ [fileName] :=
      hnames.elim (fun h => ⟨[], h.2⟩) fun ⟨holder, _, _, h⟩ => ⟨holder.names, h⟩
    refine .inr ⟨place, hlocate, ?_⟩
    by_contra hfree
    obtain ⟨hfile, _, hwrite⟩ : tree.isDirectory place = false ∧
        (tree.access place).read = true ∧ (tree.access place).write = true := by
      simpa using hfree
    rw [FileTree.fileTarget_of_locate hroute hfront hslash (by decide) hlocate hfile hwrite] at h
    cases h

/-- A working directory in which a directory has the name of the settings file. -/
def cluttered : FileTree :=
  (FileTree.empty ["work"]).place [fileName, "work"] .directory

/-- The cluttered directory is as a file system has it. -/
theorem isRooted_cluttered : cluttered.IsRooted :=
  (FileTree.isRooted_empty ["work"]).place (List.cons_ne_nil _ _) (by decide) (.inl rfl)

/-! ## Saving -/

/-- Before settings are saved either nothing has to be made, or the directory is missing and with it
the settings file. In the second case the file is missing still if the directory cannot be made, and
also when it is made, if its path leads down. -/
theorem prepare_cases (tree : FileTree) (directory : String) :
    prepare tree directory = (tree, .ok ()) ∨
      tree.hasPath (filePath directory) = false ∧
        prepare tree directory = tree.makePath directory ∧
        (∀ made cause, prepare tree directory = (made, .error cause) →
          made.hasPath (filePath directory) = false) ∧
        (tree.IsRooted → LeadsDown directory →
          (prepare tree directory).1.hasPath (filePath directory) = false) := by
  cases hpath : tree.hasPath directory with
  | true => exact .inl (by rw [prepare, hpath, if_pos rfl])
  | false =>
    have hprepare : prepare tree directory = tree.makePath directory := by
      rw [prepare, hpath, if_neg Bool.false_ne_true]
    by_cases hdirectory : directory = ""
    · subst hdirectory
      exact .inl hprepare
    refine .inr ⟨?_, hprepare, fun made cause hmade => ?_, fun hrooted hdown => ?_⟩
    · rw [Bool.eq_false_iff]
      intro hfile
      obtain ⟨holder, hholder, hlead⟩ := exists_directory_of_hasPath hdirectory hfile
      rw [FileTree.hasPath_of_leadsToDirectory hholder hlead] at hpath
      cases hpath
    · rw [Bool.eq_false_iff]
      intro hfile
      obtain ⟨holder, hholder, hlead⟩ := exists_directory_of_hasPath hdirectory hfile
      rw [FileTree.leadsToDirectory_of_makePath_error hholder (hprepare ▸ hmade)] at hlead
      cases hlead
    · rw [hprepare]
      exact FileTree.hasPath_joinPath_of_makePath hrooted hdirectory (by decide) (by decide)
        (by decide) hdown hpath

/-- A saving fails when the directory cannot be made, and else it comes to what the writing of the
file comes to. -/
theorem save_cases (settings : Settings) (tree : FileTree) (directory : String) :
    (∃ made cause, prepare tree directory = (made, .error cause) ∧
      settings.save tree directory = (made, .error (.file cause))) ∨
    ∃ made written result, prepare tree directory = (made, .ok ()) ∧
      made.writeBytes (filePath directory) settings.toJson.toUTF8 = (written, result) ∧
      settings.save tree directory = (written, result.mapError .file) := by
  rw [save]
  rcases prepare tree directory with ⟨made, cause | _⟩
  · exact .inl ⟨made, cause, rfl, rfl⟩
  · exact .inr ⟨made, _, _, rfl, rfl, rfl⟩

/-- What is saved is loaded again, unless the directory that was made for it turns out to have a
file that may not be read. -/
theorem load_of_save (hload : load tree directory = .ok saved)
    (h : settings.save tree directory = (after, .ok ())) :
    load after directory = .ok settings ∨
      tree.hasPath (filePath directory) = false ∧ IsBlocked after directory := by
  obtain ⟨made, _, -, hsave⟩ | ⟨made, written, result, hprepare, hwrite, hsave⟩ :=
    save_cases settings tree directory
  · rw [hsave] at h
    cases h
  obtain ⟨rfl, hresult⟩ := Prod.mk.inj (hsave.symm.trans h)
  obtain rfl : result = .ok () := by
    cases result with
    | error cause => cases hresult
    | ok _ => rfl
  obtain ⟨place, htarget, -, rfl⟩ := FileTree.writeBytes_eq_ok_iff.mp hwrite
  have hlocate := FileTree.locate_of_fileTarget htarget settings.toJson.toUTF8
  cases hread : (made.access place).read with
  | true =>
    exact .inl (load_of_readBytes (FileTree.readBytes_of_locate hlocate
      (FileTree.node?_place_self (FileTree.ne_nil_of_fileTarget htarget)) hread))
  | false =>
    refine .inr ⟨?_, place, hlocate, .inr (.inl hread)⟩
    -- what could be loaded before came from a file that may be read
    rw [Bool.eq_false_iff]
    intro hfile
    obtain ⟨other, hother⟩ := FileTree.hasPath_eq_true_iff.mp hfile
    rcases prepare_cases tree directory with hready | ⟨hmissing, _⟩
    · obtain rfl : tree = made := congrArg Prod.fst (hready.symm.trans hprepare)
      have hsame := (FileTree.grows_of_fileTarget htarget settings.toJson.toUTF8).locate hother
      obtain rfl : place = other := Except.ok.inj (hlocate.symm.trans hsame)
      rw [read_of_load hload hother] at hread
      cases hread
    · rw [hmissing] at hfile
      cases hfile

/-- A saving that fails leaves what is loaded as it was, unless its write broke off, or the
directory that was made for it turns out to be blocked. -/
theorem load_of_save_error {failure : Failure} (hload : load tree directory = .ok saved)
    (h : settings.save tree directory = (after, .error failure)) :
    load after directory = .ok saved ∨ failure = .file .noSpace ∨
      tree.hasPath (filePath directory) = false ∧ IsBlocked after directory := by
  have hsaved (hmissing : tree.hasPath (filePath directory) = false)
      (hnone : after.hasPath (filePath directory) = false) : load after directory = .ok saved := by
    rw [load_of_hasPath_eq_false hnone, ← hload, load_of_hasPath_eq_false hmissing]
  obtain ⟨made, cause, hprepare, hsave⟩ | ⟨made, written, result, hprepare, hwrite, hsave⟩ :=
    save_cases settings tree directory
  · obtain ⟨rfl, _⟩ := Prod.mk.inj (hsave.symm.trans h)
    rcases prepare_cases tree directory with hready | ⟨hmissing, _, hunmade, _⟩
    · rw [hready] at hprepare
      cases hprepare
    · exact .inl (hsaved hmissing (hunmade made cause hprepare))
  · obtain ⟨rfl, hresult⟩ := Prod.mk.inj (hsave.symm.trans h)
    cases result with
    | ok _ => cases hresult
    | error cause =>
      obtain rfl : Failure.file cause = failure := Except.error.inj hresult
      rcases FileTree.writeBytes_eq_error_iff.mp hwrite with ⟨htarget, rfl⟩ | ⟨rfl, _⟩
      · rcases prepare_cases tree directory with hready | ⟨hmissing, _⟩
        · obtain rfl : tree = made := congrArg Prod.fst (hready.symm.trans hprepare)
          exact .inl hload
        · rcases hasPath_or_isBlocked_of_fileTarget_error htarget with hnone | hblocked
          · exact .inl (hsaved hmissing hnone)
          · exact .inr (.inr ⟨hmissing, hblocked⟩)
      · exact .inr (.inl rfl)

/-- A tree stays rooted when the directory of the settings is made. -/
theorem isRooted_prepare (h : tree.IsRooted) : (prepare tree directory).1.IsRooted := by
  unfold prepare
  split
  · exact h
  · exact h.makePath directory

/-- A tree stays rooted whatever comes of a saving. -/
theorem isRooted_save (h : tree.IsRooted) : (settings.save tree directory).1.IsRooted := by
  have hrooted : (prepare tree directory).1.IsRooted := isRooted_prepare h
  obtain ⟨made, _, hprepare, hsave⟩ | ⟨made, written, result, hprepare, hwrite, hsave⟩ :=
    save_cases settings tree directory
  all_goals
    rw [hprepare] at hrooted
    rw [hsave]
  · exact hrooted
  · obtain rfl : _ = written := congrArg Prod.fst hwrite
    exact hrooted.writeBytes _ _

/-- Preparing a saving makes directories at most, where nothing stood. -/
theorem node?_prepare_cases (tree : FileTree) (directory : String) (place : Location) :
    (prepare tree directory).1.node? place = tree.node? place ∨
      tree.node? place = none ∧ (prepare tree directory).1.node? place = some .directory := by
  unfold prepare
  split
  · exact .inl rfl
  · exact tree.node?_makePath_cases directory place

/-- Preparing a saving leaves the files and the working directory as they are. -/
theorem content?_prepare (tree : FileTree) (directory : String) :
    (prepare tree directory).1.content? = tree.content? ∧
      (prepare tree directory).1.workingDirectory = tree.workingDirectory := by
  unfold prepare
  split
  · exact ⟨rfl, rfl⟩
  · exact tree.content?_makePath directory

/-- A saving touches the settings file and makes directories, also when it fails. -/
theorem changesOnly_save (settings : Settings) (tree : FileTree) (directory : String) :
    tree.ChangesOnly (settings.save tree directory).1 (filePath directory) := by
  have hworking := (content?_prepare tree directory).2
  have hmade := node?_prepare_cases tree directory
  obtain ⟨made, _, hprepare, hsave⟩ | ⟨made, written, result, hprepare, hwrite, hsave⟩ :=
    save_cases settings tree directory
  all_goals
    rw [hprepare] at hworking hmade
    rw [hsave]
  · exact FileTree.changesOnly_of_rest hworking fun place _ => hmade place
  · obtain rfl : _ = written := congrArg Prod.fst hwrite
    exact FileTree.changesOnly_of_writeBytes _ _ hworking hmade

/-- When a directory is made whose path leads down, the settings file is new there, and everything
may be done with it. -/
theorem not_isBlocked_save (hrooted : tree.IsRooted) (hdown : LeadsDown directory)
    (hmissing : tree.hasPath (filePath directory) = false) :
    ¬IsBlocked (settings.save tree directory).1 directory := by
  have hfree {other : FileTree} (hnone : other.hasPath (filePath directory) = false) :
      ¬IsBlocked other directory := by
    rintro ⟨place, hlocate, _⟩
    rw [FileTree.hasPath_eq_true_iff.mpr ⟨place, hlocate⟩] at hnone
    cases hnone
  have hmade : (prepare tree directory).1.hasPath (filePath directory) = false := by
    rcases prepare_cases tree directory with hready | ⟨_, _, _, hnew⟩
    · rwa [hready]
    · exact hnew hrooted hdown
  have hmadeRooted : (prepare tree directory).1.IsRooted := isRooted_prepare hrooted
  obtain ⟨made, _, hprepare, hsave⟩ | ⟨made, written, result, hprepare, hwrite, hsave⟩ :=
    save_cases settings tree directory
  all_goals
    rw [hprepare] at hmade hmadeRooted
    rw [hsave]
  · exact hfree hmade
  · obtain rfl : _ = written := congrArg Prod.fst hwrite
    obtain hsame | ⟨place, bytes, htarget, hafter⟩ :=
      made.writeBytes_fst_cases (filePath directory) settings.toJson.toUTF8
    · rw [hsame]
      exact hfree hmade
    · rw [hafter]
      rintro ⟨other, hother, hblocked⟩
      obtain rfl : place = other :=
        Except.ok.inj ((FileTree.locate_of_fileTarget htarget bytes).symm.trans hother)
      -- nothing stood at the place of the file, so that all may be done with what stands there now
      have hnone : made.node? place = none := FileTree.node?_eq_none_of_fileTarget htarget hmade
      rw [FileTree.access_place, hmadeRooted.accessible place hnone, FileTree.isDirectory,
        FileTree.node?_place_self (FileTree.ne_nil_of_fileTarget htarget)] at hblocked
      rcases hblocked with hdirectory | hread | hwrite
      · cases hdirectory
      · cases hread
      · cases hwrite

/-! ## Requests -/

/-- The key that a request names. -/
def requestedKey? : SettingsRequest → Option String
  | .showAll => none
  | .showKey key | .change key _ => some key

/-- A request for an unknown key is refused, whatever the files are. -/
theorem answer_of_unknownKey {request : SettingsRequest} {key : String}
    (hrequest : requestedKey? request = some key) (hkey : Setting.ofKey? key = none) :
    answer tree directory request = (tree, .ok { notes := [.unknownKey key] }) := by
  cases request with
  | showAll => cases hrequest
  | showKey other =>
    obtain rfl : other = key := Option.some.inj hrequest
    simp only [answer, hkey]
  | change other value =>
    obtain rfl : other = key := Option.some.inj hrequest
    simp only [answer, hkey]

/-- A request that does not change a setting only reads. -/
theorem answer_fst_of_show {request : SettingsRequest}
    (h : ∀ key value, request ≠ .change key value) : (answer tree directory request).1 = tree := by
  cases request with
  | showAll => rfl
  | showKey key =>
    simp only [answer]
    cases Setting.ofKey? key <;> rfl
  | change key value => exact absurd rfl (h key value)

/-- What a change reports once it is saved. -/
def savedReport (changed : Settings) (setting : Setting) (value : String) : Report where
  settings := some changed
  notes := [.settingSaved setting (changed.get setting)]
  events := [.settingSaved setting value]

/-- What a change comes to. It is refused with one note, or the settings cannot be loaded, or the
loaded ones are changed and saved. In the last case alone files are touched. -/
theorem answer_change_cases (tree : FileTree) (directory key value : String) :
    let result := answer tree directory (.change key value)
    (∃ note : Note, note.level = .error ∧ result = (tree, .ok { notes := [note] })) ∨
    (∃ failure, load tree directory = .error failure ∧ result = (tree, .error failure)) ∨
    ∃ setting saved changed, Setting.ofKey? key = some setting ∧
      load tree directory = .ok saved ∧ saved.set setting value = (changed, .ok ()) ∧
      result = ((changed.save tree directory).1,
        (changed.save tree directory).2.map fun _ => savedReport changed setting value) := by
  intro result
  cases hkey : Setting.ofKey? key with
  | none => exact .inl ⟨.unknownKey key, rfl, answer_of_unknownKey rfl hkey⟩
  | some setting =>
    have hresult : result = changeSaved tree directory setting value := by
      simp only [result, answer, hkey]
    cases hload : load tree directory with
    | error failure => exact .inr (.inl ⟨failure, rfl, by rw [hresult, changeSaved, hload]⟩)
    | ok saved =>
      simp only [hresult, changeSaved, hload]
      rcases hset : saved.set setting value with ⟨changed, fault | _⟩
      · exact .inl ⟨.badValue fault, rfl, rfl⟩
      · refine .inr (.inr ⟨setting, saved, changed, rfl, rfl, hset, ?_⟩)
        dsimp only
        rcases changed.save tree directory with ⟨written, failure | _⟩ <;> rfl

/-- A change of a setting that comes to a saving was asked for with a known key and a value that the
setting takes, and the settings could be loaded. Before that no file is touched. -/
theorem answer_fst_of_change (tree : FileTree) (directory key value : String) :
    let after := (answer tree directory (.change key value)).1
    after = tree ∨ ∃ setting saved changed, Setting.ofKey? key = some setting ∧
      load tree directory = .ok saved ∧ saved.set setting value = (changed, .ok ()) ∧
      after = (changed.save tree directory).1 := by
  intro after
  obtain ⟨_, -, hanswer⟩ | ⟨_, -, hanswer⟩ |
      ⟨setting, saved, changed, hkey, hload, hset, hanswer⟩ :=
    answer_change_cases tree directory key value
  · exact .inl (congrArg Prod.fst hanswer)
  · exact .inl (congrArg Prod.fst hanswer)
  · exact .inr ⟨setting, saved, changed, hkey, hload, hset, congrArg Prod.fst hanswer⟩

/-- Whether a request did what was asked. -/
def succeeds : Except Failure Report → Bool
  | .ok report => !report.hasErrors
  | .error _ => false

/-- A request did what was asked when its report has no errors. -/
theorem succeeds_eq_true_iff {result : Except Failure Report} :
    succeeds result = true ↔ ∃ report, result = .ok report ∧ report.hasErrors = false := by
  cases result <;> simp [succeeds]

/-- When settings cannot be loaded no request succeeds, and none changes a file. -/
theorem answer_of_load_error {failure : Failure} (hload : load tree directory = .error failure)
    (request : SettingsRequest) :
    (answer tree directory request).1 = tree ∧
      ∀ report, (answer tree directory request).2 = .ok report →
        report.hasErrors = true ∧ report.settings = none := by
  have hrefused (key : String) (hrequest : requestedKey? request = some key)
      (hkey : Setting.ofKey? key = none) :
      (answer tree directory request).1 = tree ∧
        ∀ report, (answer tree directory request).2 = .ok report →
          report.hasErrors = true ∧ report.settings = none := by
    rw [answer_of_unknownKey hrequest hkey]
    refine ⟨rfl, fun report hreport => ?_⟩
    obtain rfl := Except.ok.inj hreport
    exact ⟨rfl, rfl⟩
  cases request with
  | showAll => simp [answer, hload, Except.map]
  | showKey key =>
    cases hkey : Setting.ofKey? key with
    | none => exact hrefused key rfl hkey
    | some setting => simp [answer, hkey, showSaved, hload, Except.map]
  | change key value =>
    cases hkey : Setting.ofKey? key with
    | none => exact hrefused key rfl hkey
    | some setting => simp [answer, hkey, changeSaved, hload]

/-- A change that is told to have succeeded has been saved. -/
theorem savedReport_of_change {key value : String} {report : Report}
    (h : (answer tree directory (.change key value)).2 = .ok report)
    (herrors : report.hasErrors = false) :
    ∃ setting changed, Setting.ofKey? key = some setting ∧
      report = savedReport changed setting value := by
  obtain ⟨note, hlevel, hanswer⟩ | ⟨_, -, hanswer⟩ | ⟨setting, _, changed, hkey, -, -, hanswer⟩ :=
    answer_change_cases tree directory key value
  all_goals rw [hanswer] at h
  · obtain rfl := Except.ok.inj h
    simp [Report.hasErrors, hlevel] at herrors
  · cases h
  · obtain ⟨_, -, hreport⟩ := map_eq_ok_iff.mp h
    exact ⟨setting, changed, hkey, hreport.symm⟩

/-! ## Mishaps -/

/-- The write of a request breaks off after the settings file was emptied. -/
def BreaksOff (tree : FileTree) (directory : String) (request : SettingsRequest) : Prop :=
  (answer tree directory request).2 = .error (.file .noSpace)

/-- A request brings something into reach that blocks the place of the settings file, where nothing
could be seen before. -/
def Uncovers (tree : FileTree) (directory : String) (request : SettingsRequest) : Prop :=
  tree.hasPath (filePath directory) = false ∧ IsBlocked (answer tree directory request).1 directory

/-- What can part the settings in force from the saved ones in the course of a request. -/
def Mishap (tree : FileTree) (directory : String) (request : SettingsRequest) : Prop :=
  BreaksOff tree directory request ∨ ¬LeadsDown directory ∧ Uncovers tree directory request

/-- With a path that leads down, a request brings nothing old into reach. -/
theorem not_uncovers_of_leadsDown (hrooted : tree.IsRooted) (hdown : LeadsDown directory)
    (request : SettingsRequest) : ¬Uncovers tree directory request := by
  rintro ⟨hmissing, hblocked⟩
  have hunchanged (hsame : (answer tree directory request).1 = tree) : False := by
    obtain ⟨place, hlocate, _⟩ := hsame ▸ hblocked
    rw [FileTree.hasPath_eq_true_iff.mpr ⟨place, hlocate⟩] at hmissing
    cases hmissing
  by_cases hchange : ∃ key value, request = .change key value
  · obtain ⟨key, value, rfl⟩ := hchange
    obtain hsame | ⟨_, _, changed, _, _, _, hafter⟩ := answer_fst_of_change tree directory key value
    · exact hunchanged hsame
    · rw [hafter] at hblocked
      exact not_isBlocked_save hrooted hdown hmissing hblocked
  · exact hunchanged (answer_fst_of_show fun key value heq => hchange ⟨key, value, heq⟩)

/-- A request that brings something blocking into reach is a mishap. -/
theorem Mishap.of_uncovers {request : SettingsRequest} (hrooted : tree.IsRooted)
    (h : Uncovers tree directory request) : Mishap tree directory request :=
  .inr ⟨fun hdown => not_uncovers_of_leadsDown hrooted hdown request h, h⟩

/-- A change is made to what was saved and is then what is loaded, or else it is not made and is
told to have failed, unless it meets with a mishap. -/
theorem change_cases (hrooted : tree.IsRooted) (hload : load tree directory = .ok saved)
    (key value : String) :
    (∃ setting changed, Setting.ofKey? key = some setting ∧
      saved.set setting value = (changed, .ok ()) ∧
      (answer tree directory (.change key value)).2 = .ok (savedReport changed setting value) ∧
      load (answer tree directory (.change key value)).1 directory = .ok changed) ∨
    ((∀ report, (answer tree directory (.change key value)).2 = .ok report →
      report.hasErrors = true ∧ report.settings = none) ∧
      load (answer tree directory (.change key value)).1 directory = .ok saved) ∨
    Mishap tree directory (.change key value) := by
  obtain ⟨note, hlevel, hanswer⟩ | ⟨failure, hfailed, -⟩ |
      ⟨setting, other, changed, hkey, hother, hset, hanswer⟩ :=
    answer_change_cases tree directory key value
  · rw [hanswer]
    refine .inr (.inl ⟨fun report hreport => ?_, hload⟩)
    obtain rfl := Except.ok.inj hreport
    exact ⟨by simp [Report.hasErrors, hlevel], rfl⟩
  · rw [hfailed] at hload
    cases hload
  obtain rfl : saved = other := Except.ok.inj (hload.symm.trans hother)
  -- what may keep the saved settings from being loaded is a mishap
  have huncovers (hmissing : tree.hasPath (filePath directory) = false)
      (hblocked : IsBlocked (changed.save tree directory).1 directory) :
      Mishap tree directory (.change key value) :=
    .of_uncovers hrooted ⟨hmissing, by rwa [hanswer]⟩
  cases hsave : (changed.save tree directory).2 with
  | ok _ =>
    rcases load_of_save hload (Prod.ext rfl hsave) with hsaved | ⟨hmissing, hblocked⟩
    · exact .inl ⟨setting, changed, hkey, hset, by rw [hanswer, hsave]; rfl, by rwa [hanswer]⟩
    · exact .inr (.inr (huncovers hmissing hblocked))
  | error failure =>
    rcases load_of_save_error hload (Prod.ext rfl hsave) with hkept | rfl | ⟨hmissing, hblocked⟩
    · refine .inr (.inl ⟨fun report hreport => ?_, by rwa [hanswer]⟩)
      rw [hanswer, hsave] at hreport
      cases hreport
    · exact .inr (.inr (.inl (by rw [BreaksOff, hanswer, hsave]; rfl)))
    · exact .inr (.inr (huncovers hmissing hblocked))

/-- The settings in force after a request, when these were in force before it: those of its report,
if it shows any. -/
def inForce (settings : Settings) : Except Failure Report → Settings
  | .ok report => report.settings.getD settings
  | .error _ => settings

/-- Settings that are in force and saved are so after any request that meets with no mishap. -/
theorem load_answer (hrooted : tree.IsRooted) (hload : load tree directory = .ok settings)
    (request : SettingsRequest) :
    load (answer tree directory request).1 directory =
        .ok (inForce settings (answer tree directory request).2) ∨
      Mishap tree directory request := by
  cases request with
  | showAll =>
    left
    simp only [answer, hload, Except.map, inForce, Option.getD_some]
  | showKey key =>
    left
    simp only [answer]
    cases Setting.ofKey? key with
    | none => exact hload
    | some setting => simp only [showSaved, hload, Except.map, inForce, Option.getD_none]
  | change key value =>
    rcases change_cases hrooted hload key value with
      ⟨setting, changed, _, _, hreport, hchanged⟩ | ⟨hreport, hkept⟩ | hmishap
    · left
      rw [hchanged, hreport]
      rfl
    · left
      rw [hkept]
      cases hresult : (answer tree directory (.change key value)).2 with
      | error failure => rfl
      | ok report => rw [inForce, (hreport report hresult).2, Option.getD_none]
    · exact .inr hmishap

/-- A tree stays rooted whatever comes of a request. -/
theorem isRooted_answer (h : tree.IsRooted) (request : SettingsRequest) :
    (answer tree directory request).1.IsRooted := by
  by_cases hchange : ∃ key value, request = .change key value
  · obtain ⟨key, value, rfl⟩ := hchange
    obtain hsame | ⟨_, _, _, _, _, _, hafter⟩ := answer_fst_of_change tree directory key value
    · rwa [hsame]
    · rw [hafter]
      exact isRooted_save h
  · rwa [answer_fst_of_show fun key value heq => hchange ⟨key, value, heq⟩]

end StudentRoster.Settings
