import StudentRoster.Proofs.Files.Routes
import StudentRoster.Proofs.Files.Walk

/-!
# Making directories

When a directory cannot be made, it is not there afterwards
(`leadsToDirectory_of_makePath_error`). What is made on the way are new directories at places that
the way passes (`node?_makePath`). In a tree in which everything stands in a directory
(`IsRooted`), a directory that is new at the end of a descending way is therefore empty
(`hasPath_joinPath_of_makePath`); a way that goes up behind a name may end at an old one.
-/

set_option autoImplicit false

namespace StudentRoster.FileTree

open Route (destination Descends)

variable {tree after : FileTree} {here location : Location} {names : List String} {name : String}

/-! ## Directories that are not made -/

/-- A route leads to a directory when its names do. -/
theorem leadsToDirectory_eq_true_iff {route : Route} :
    tree.leadsToDirectory route = true ↔
      ∃ location, tree.walk (tree.start route) route.names = .ok location ∧
        tree.isDirectory location = true := by
  unfold leadsToDirectory
  cases hfollow : tree.follow route with
  | error cause =>
    simp only [Bool.false_eq_true, false_iff, not_exists, not_and]
    intro location hwalk hdir
    have := follow_eq_ok_iff.mpr ⟨hwalk, fun _ => hdir⟩
    rw [hfollow] at this
    cases this
  | ok location =>
    obtain ⟨hwalk, _⟩ := follow_eq_ok_iff.mp hfollow
    simp [hwalk]

/-- Where a directory is, a path to it leads. -/
theorem hasPath_of_leadsToDirectory {path : String} {route : Route}
    (hroute : Route.ofPath path = .ok route) (h : tree.leadsToDirectory route = true) :
    tree.hasPath path = true := by
  obtain ⟨location, hwalk, hdir⟩ := leadsToDirectory_eq_true_iff.mp h
  exact hasPath_eq_true_iff.mpr ⟨location,
    locate_eq_ok_iff.mpr ⟨route, hroute, follow_eq_ok_iff.mpr ⟨hwalk, fun _ => hdir⟩⟩⟩

/-- A directory that is there already is not made again. -/
theorem makeDirectory_of_leadsToDirectory {route : Route}
    (h : tree.leadsToDirectory route = true) :
    tree.makeDirectory route = .error .alreadyExists := by
  obtain ⟨location, hwalk, hdir⟩ := leadsToDirectory_eq_true_iff.mp h
  rcases List.eq_nil_or_concat route.names with hnames | ⟨front, name, hnames⟩
  · simp [makeDirectory, lastStep, hnames, bind, Except.bind]
  · rw [List.concat_eq_append] at hnames
    have hfollow := follow_eq_ok_iff.mpr ⟨hwalk, fun _ => hdir⟩
    obtain ⟨parent, hstep, henter⟩ := lastStep_of_follow hnames hfollow
    obtain ⟨_, _, ⟨rfl, _⟩ | ⟨rfl, _⟩ | ⟨hdots, hlong, hnode, _⟩⟩ := enter_eq_ok_iff.mp henter
    · simp [makeDirectory, hstep, isDots, bind, Except.bind]
    · simp [makeDirectory, hstep, isDots, bind, Except.bind]
    · simp [makeDirectory, hstep, hdots, Nat.not_lt.mpr hlong, hnode, bind, Except.bind]

/-- A step to the place itself changes nothing. -/
theorem walk_filter_dots (h : tree.walk here names = .ok location) :
    tree.walk here (names.filter (· != ".")) = .ok location := by
  induction names using List.reverseRecOn generalizing location with
  | nil => exact h
  | append_singleton front name ih =>
    obtain ⟨parent, hparent, henter⟩ := walk_concat_eq_ok_iff.mp h
    by_cases hdot : name = "."
    · obtain ⟨_, _, ⟨_, rfl⟩ | ⟨hdots, _⟩ | ⟨hdots, _⟩⟩ := enter_eq_ok_iff.mp henter
      · simpa [hdot] using ih hparent
      · exact absurd (hdot.symm.trans hdots) (by decide)
      · rw [hdot] at hdots
        cases hdots
    · rw [List.filter_append, List.filter_cons_of_pos (by simpa using hdot), List.filter_nil]
      exact walk_concat_eq_ok_iff.mpr ⟨parent, ih hparent, henter⟩

/-- The names of a route without the steps to the place itself lead where all of them lead. -/
theorem walk_plainNames {route : Route} (h : tree.walk here route.names = .ok location) :
    tree.walk here route.plainNames = .ok location := by
  unfold Route.plainNames
  cases hnames : route.names with
  | nil => rwa [hnames] at h
  | cons name rest =>
    rw [hnames] at h
    simp only
    split
    · have hsplit : name :: rest = [name] ++ rest := rfl
      rw [hsplit, walk_append_eq_ok_iff] at h
      obtain ⟨middle, hfirst, hrest⟩ := h
      show tree.walk here ([name] ++ rest.filter (· != ".")) = .ok location
      exact walk_append_eq_ok_iff.mpr ⟨middle, hfirst, walk_filter_dots hrest⟩
    · exact walk_filter_dots h

/-- A way passes directories only. -/
theorem exists_directory_of_walk {count : Nat} (h : tree.walk here names = .ok location)
    (hcount : count < names.length) :
    ∃ place, tree.walk here (names.take count) = .ok place ∧ tree.isDirectory place = true := by
  rw [← List.take_append_drop (count + 1) names, walk_append_eq_ok_iff,
    ← List.take_append_getElem hcount] at h
  obtain ⟨middle, hmiddle, _⟩ := h
  obtain ⟨place, hplace, henter⟩ := walk_concat_eq_ok_iff.mp hmiddle
  exact ⟨place, hplace, isDirectory_of_enter henter⟩

/-- Who reaches a directory reaches the places that its route passes. -/
theorem leadsToDirectory_of_mem_passed {route holder : Route} (hholder : holder ∈ route.passed)
    (h : tree.leadsToDirectory route = true) : tree.leadsToDirectory holder = true := by
  obtain ⟨location, hwalk, _⟩ := leadsToDirectory_eq_true_iff.mp h
  obtain ⟨count, hcount, rfl⟩ := List.mem_map.mp hholder
  rw [List.mem_reverse, List.mem_range] at hcount
  exact leadsToDirectory_eq_true_iff.mpr
    (exists_directory_of_walk (walk_plainNames hwalk) (by omega))

/-- Of the places that a route passes, those behind others are reached by way of them. -/
theorem pairwise_passed (route : Route) :
    (route :: route.passed).Pairwise fun behind holder =>
      ∀ tree : FileTree, tree.leadsToDirectory behind = true →
        tree.leadsToDirectory holder = true := by
  refine List.pairwise_cons.mpr ⟨fun holder hholder tree h =>
    leadsToDirectory_of_mem_passed hholder h, ?_⟩
  refine List.pairwise_map.mpr (List.pairwise_reverse.mpr ?_)
  refine (List.pairwise_lt_range).imp_of_mem fun {less count} hless hcount hlt tree h => ?_
  obtain ⟨location, hwalk, _⟩ := leadsToDirectory_eq_true_iff.mp h
  rw [List.mem_range] at hcount
  have hlength : less + 1 < (route.plainNames.take (count + 1)).length := by
    rw [List.length_take]
    omega
  have hplace := exists_directory_of_walk hwalk hlength
  rw [List.take_take, Nat.min_eq_left (by omega)] at hplace
  exact leadsToDirectory_eq_true_iff.mpr hplace

/-- A directory that cannot be made, though none is there, cannot be reached. -/
theorem leadsToDirectory_of_makeDirectory_error {route : Route} {cause : FileError}
    (h : tree.makeDirectory route = .error cause)
    (hcause : ¬(cause = .alreadyExists ∧ tree.leadsToDirectory route = true)) :
    tree.leadsToDirectory route = false := by
  rw [Bool.eq_false_iff]
  intro hdir
  have hexists := makeDirectory_of_leadsToDirectory hdir
  rw [h, Except.error.injEq] at hexists
  exact hcause ⟨hexists, hdir⟩

/-- When a directory cannot be made with those that hold it, either one of these could not be made
or it cannot be reached. -/
theorem makeDirectories_cons_error {after : FileTree} {cause : FileError} {route : Route}
    {holders : List Route}
    (h : tree.makeDirectories (route :: holders) = (after, .error cause)) :
    tree.makeDirectories holders = (after, .error cause) ∨
      after.leadsToDirectory route = false := by
  have hsettle {tree : FileTree} {found : FileError}
      (hmake : tree.makeDirectory route = .error found)
      (h : (tree, if found = .alreadyExists ∧ tree.leadsToDirectory route then
        .ok () else .error found) = (after, (.error cause : Except FileError Unit))) :
      after.leadsToDirectory route = false := by
    obtain ⟨rfl, hresult⟩ := Prod.mk.inj h
    refine leadsToDirectory_of_makeDirectory_error hmake fun hthere => ?_
    rw [if_pos hthere] at hresult
    cases hresult
  rw [makeDirectories] at h
  split at h
  · cases h
  · split at h
    next hrest =>
      left
      rw [hrest, h]
    · split at h
      · cases h
      next hmake => exact .inr (hsettle hmake h)
  next hmake => exact .inr (hsettle hmake h)

/-- When the directories of a way cannot all be made, the last of them cannot be reached. -/
theorem leadsToDirectory_of_makeDirectories_error {after : FileTree} {cause : FileError}
    {route : Route} {holders : List Route}
    (hholders : (route :: holders).Pairwise fun behind holder =>
      ∀ tree : FileTree, tree.leadsToDirectory behind = true → tree.leadsToDirectory holder = true)
    (h : tree.makeDirectories (route :: holders) = (after, .error cause)) :
    after.leadsToDirectory route = false := by
  induction holders generalizing route with
  | nil =>
    rcases makeDirectories_cons_error h with hrest | hroute
    · cases hrest
    · exact hroute
  | cons holder holders ih =>
    obtain ⟨hroute, hrest⟩ := List.pairwise_cons.mp hholders
    rcases makeDirectories_cons_error h with hfault | hmissing
    · have hholder := ih hrest hfault
      rw [Bool.eq_false_iff] at hholder ⊢
      exact fun hlead => hholder (hroute holder (List.mem_cons_self ..) after hlead)
    · exact hmissing

/-- When the directory of a path cannot be made, it is not there afterwards. -/
theorem leadsToDirectory_of_makePath_error {after : FileTree} {cause : FileError} {path : String}
    {route : Route} (hroute : Route.ofPath path = .ok route)
    (h : tree.makePath path = (after, .error cause)) : after.leadsToDirectory route = false := by
  unfold makePath at h
  split at h
  · cases h
  simp only [hroute] at h
  split at h
  · cases h
  · exact leadsToDirectory_of_makeDirectories_error (pairwise_passed route) h

/-! ## Rooted trees -/

/-- A tree as a file system has it: the working directory is there, everything stands in a
directory, and with what is new everything may be done. -/
structure IsRooted (tree : FileTree) : Prop where
  workingDirectory : tree.isDirectory tree.workingDirectory = true
  holder : ∀ place, (tree.node? place).isSome = true → tree.isDirectory place.tail = true
  accessible : ∀ place, tree.node? place = none → tree.access place = {}

/-- The root is a directory. -/
theorem isDirectory_nil (tree : FileTree) : tree.isDirectory [] = true :=
  rfl

/-- Something stands where a directory is. -/
theorem isSome_of_isDirectory (h : tree.isDirectory location = true) :
    (tree.node? location).isSome = true := by
  rw [isDirectory, beq_iff_eq] at h
  rw [h]
  rfl

/-- What holds a directory is a directory, up to the root. -/
theorem IsRooted.isDirectory_of_isSuffix (h : tree.IsRooted) {above : Location}
    (hsuffix : above <:+ location) (hdir : tree.isDirectory location = true) :
    tree.isDirectory above = true := by
  obtain ⟨below, rfl⟩ := hsuffix
  induction below with
  | nil => exact hdir
  | cons name below ih => exact ih (h.holder _ (isSome_of_isDirectory hdir))

/-- Every route starts from a directory. -/
theorem IsRooted.isDirectory_start (h : tree.IsRooted) (route : Route) :
    tree.isDirectory (tree.start route) = true := by
  unfold start
  split
  · exact isDirectory_nil tree
  · exact h.workingDirectory

/-- Among the directories up to a place are those that hold it. -/
theorem lookup_directoriesTo {inner place : Location} (h : place ≠ []) :
    (directoriesTo inner).lookup place = if place <:+ inner then some .directory else none := by
  induction inner with
  | nil => simp [directoriesTo, h]
  | cons name holder ih =>
    rw [directoriesTo, List.lookup_cons]
    by_cases hplace : place = name :: holder
    · simp [hplace]
    · have hne : (place == name :: holder) = false := by simpa using hplace
      simp [hne, ih, List.suffix_cons_iff, hplace]

/-- The tree with nothing but the working directory is rooted. -/
theorem isRooted_empty (workingDirectory : Location) : (empty workingDirectory).IsRooted := by
  have hdir {place : Location} (h : place <:+ workingDirectory) :
      (empty workingDirectory).isDirectory place = true := by
    by_cases hroot : place = []
    · rw [hroot]
      rfl
    · simp [isDirectory, node?, hroot, empty, lookup_directoriesTo hroot, h]
  refine ⟨hdir (List.suffix_refl _), fun place hsome => hdir ?_, fun _ _ => rfl⟩
  by_cases hroot : place = []
  · rw [hroot]
    exact List.nil_suffix
  · have hsuffix : place <:+ workingDirectory := by
      simpa [node?, hroot, empty, lookup_directoriesTo hroot] using hsome
    exact (List.tail_suffix place).trans hsuffix

/-- A node can come to any place in a directory, if it takes no directory away. -/
theorem IsRooted.place (h : tree.IsRooted) {place : Location} {node : Node} (hne : place ≠ [])
    (hholder : tree.isDirectory place.tail = true)
    (hnode : node = .directory ∨ tree.isDirectory place = false) :
    (tree.place place node).IsRooted := by
  have hkeep (other : Location) (hdir : tree.isDirectory other = true) :
      (tree.place place node).isDirectory other = true := by
    by_cases hother : other = place
    · subst hother
      rcases hnode with rfl | hnot
      · rw [isDirectory, node?_place_self hne]
        rfl
      · rw [hnot] at hdir
        cases hdir
    · rwa [isDirectory, node?_place_of_ne hother]
  refine ⟨hkeep _ h.workingDirectory, fun other hsome => hkeep _ ?_, fun other hnone => ?_⟩
  all_goals by_cases hother : other = place
  · rwa [hother]
  · rw [node?_place_of_ne hother] at hsome
    exact h.holder other hsome
  · rw [hother, node?_place_self hne] at hnone
    cases hnone
  · rw [node?_place_of_ne hother] at hnone
    exact h.accessible other hnone

/-- A tree stays rooted whatever comes of a write. -/
theorem IsRooted.writeBytes (h : tree.IsRooted) (path : String) (content : ByteArray) :
    (tree.writeBytes path content).1.IsRooted := by
  obtain hsame | ⟨place, bytes, htarget, hafter⟩ := tree.writeBytes_fst_cases path content
  · rwa [hsame]
  · obtain ⟨_, _, name, parent, _, _, _, _, _, _, hdir, _, hfile, rfl⟩ :=
      exists_of_fileTarget htarget
    rw [hafter]
    exact h.place (List.cons_ne_nil name parent) hdir (.inr hfile)

/-! ## What is made -/

/-- A directory is made in another one, where nothing stood. -/
theorem exists_of_makeDirectory {route : Route} (h : tree.makeDirectory route = .ok after) :
    ∃ front name parent, route.names = front ++ [name] ∧ isDots name = false ∧
      tree.walk (tree.start route) front = .ok parent ∧ tree.isDirectory parent = true ∧
      tree.node? (name :: parent) = none ∧ after = tree.place (name :: parent) .directory := by
  unfold makeDirectory at h
  cases hstep : tree.lastStep route with
  | error cause => simp [hstep, bind, Except.bind] at h
  | ok last =>
    simp only [hstep, bind, Except.bind] at h
    cases last with
    | none => cases h
    | some last =>
      obtain ⟨parent, name⟩ := last
      obtain ⟨front, hnames, hwalk, hdir, _⟩ := exists_of_lastStep hstep
      simp only at h
      split at h
      · cases h
      next hdots =>
      split at h
      · cases h
      split at h
      · cases h
      next hnone =>
      split at h
      · cases h
      exact ⟨front, name, parent, hnames, Bool.eq_false_iff.mpr hdots, hwalk, hdir,
        by simpa using hnone, (Except.ok.inj h).symm⟩

/-- What every making of one of these directories keeps is kept by the making of them all. -/
theorem makeDirectories_induction {motive : FileTree → Prop} {routes : List Route}
    (hmake : ∀ (tree after : FileTree), ∀ route ∈ routes, motive tree →
      tree.makeDirectory route = .ok after → motive after)
    (htree : motive tree) : motive (tree.makeDirectories routes).1 := by
  induction routes with
  | nil => exact htree
  | cons route holders ih =>
    have hholders := ih fun tree after route hroute =>
      hmake tree after route (List.mem_cons_of_mem _ hroute)
    rw [makeDirectories]
    split
    next hfirst => exact hmake _ _ route (List.mem_cons_self ..) htree hfirst
    · split
      next hrest => exact hrest ▸ hholders
      next hrest =>
        rw [hrest] at hholders
        split
        next hagain => exact hmake _ _ route (List.mem_cons_self ..) hholders hagain
        · exact hholders
    · exact htree

/-- What every making of a directory on the way keeps is kept by the making of them all. -/
theorem makePath_induction {motive : FileTree → Prop} {path : String}
    (hmake : ∀ (tree after : FileTree) (route holder : Route), Route.ofPath path = .ok route →
      holder ∈ route :: route.passed → motive tree → tree.makeDirectory holder = .ok after →
      motive after)
    (htree : motive tree) : motive (tree.makePath path).1 := by
  unfold makePath
  split
  · exact htree
  split
  · exact htree
  next route hroute =>
  split
  · exact htree
  · exact makeDirectories_induction
      (fun tree after holder hholder => hmake tree after route holder hroute hholder) htree

/-- A tree stays rooted when directories are made. -/
theorem IsRooted.makePath (h : tree.IsRooted) (path : String) :
    (tree.makePath path).1.IsRooted := by
  refine makePath_induction (motive := IsRooted) (fun tree after _ holder _ _ h hmake => ?_) h
  obtain ⟨_, name, parent, _, _, _, hdir, _, rfl⟩ := exists_of_makeDirectory hmake
  exact h.place (List.cons_ne_nil name parent) hdir (.inl rfl)

/-- What may be done at a place, and how much room there is, is not changed by the making of
directories. -/
theorem access_makePath (tree : FileTree) (path : String) :
    (tree.makePath path).1.access = tree.access ∧
      (tree.makePath path).1.hasRoom = tree.hasRoom := by
  refine makePath_induction
    (motive := fun after => after.access = tree.access ∧ after.hasRoom = tree.hasRoom)
    (fun before after _ _ _ _ hbefore hmake => ?_) ⟨rfl, rfl⟩
  obtain ⟨_, name, parent, _, _, _, _, _, rfl⟩ := exists_of_makeDirectory hmake
  exact hbefore

/-! ## Ways down -/

/-- A way that can be gone leads where its names lead. -/
theorem eq_destination_of_walk (h : tree.walk here names = .ok location) :
    location = destination here names := by
  induction names using List.reverseRecOn generalizing location with
  | nil => exact (Except.ok.inj h).symm
  | append_singleton front name ih =>
    obtain ⟨parent, hparent, henter⟩ := walk_concat_eq_ok_iff.mp h
    rw [Route.destination_append, ← ih hparent]
    obtain ⟨_, _, ⟨rfl, rfl⟩ | ⟨rfl, rfl⟩ | ⟨hdots, _, _, rfl⟩⟩ := enter_eq_ok_iff.mp henter
    · rfl
    · rfl
    · exact (Route.destination_concat_of_not_dots hdots parent []).symm

/-- A way of dots can be gone in a rooted tree, if it can be gone in some tree where the same is
allowed. -/
theorem IsRooted.walk_dots (h : tree.IsRooted) (hhere : tree.isDirectory here = true)
    (haccess : after.access = tree.access) (hdots : ∀ name ∈ names, isDots name = true)
    (hafter : after.walk here names = .ok location) : tree.walk here names = .ok location := by
  induction names using List.reverseRecOn generalizing location with
  | nil => exact hafter
  | append_singleton front name ih =>
    have hfront : ∀ other ∈ front, isDots other = true := fun other hother =>
      hdots other (List.mem_append_left _ hother)
    obtain ⟨parent, hparent, henter⟩ := walk_concat_eq_ok_iff.mp hafter
    obtain ⟨_, hpass, hname⟩ := enter_eq_ok_iff.mp henter
    have hholds : parent <:+ here := by
      rw [eq_destination_of_walk hparent]
      exact Route.destination_isSuffix hfront here
    have hdir : tree.isDirectory parent = true := h.isDirectory_of_isSuffix hholds hhere
    have hdotted : isDots name = true := hdots name (by simp)
    refine walk_concat_eq_ok_iff.mpr ⟨parent, ih hfront hparent,
      enter_eq_ok_iff.mpr ⟨hdir, haccess ▸ hpass, hname.imp_right (Or.imp_right ?_)⟩⟩
    rw [hdotted]
    rintro ⟨hproper, _⟩
    cases hproper

/-- In a rooted tree a way down to a directory that is there can be gone, if it can be gone in some
tree where the same is allowed. -/
theorem IsRooted.walk_of_descends (h : tree.IsRooted) (hhere : tree.isDirectory here = true)
    (haccess : after.access = tree.access) (hdescends : Descends names)
    (hafter : after.walk here names = .ok location) (hdir : tree.isDirectory location = true) :
    tree.walk here names = .ok location := by
  induction names using List.reverseRecOn generalizing location with
  | nil => exact hafter
  | append_singleton front name ih =>
    obtain ⟨parent, hparent, henter⟩ := walk_concat_eq_ok_iff.mp hafter
    have hfront := hdescends.of_append
    obtain ⟨_, hpass, hname⟩ := enter_eq_ok_iff.mp henter
    rw [haccess] at hpass
    obtain ⟨rfl, rfl⟩ | ⟨rfl, rfl⟩ | ⟨hdots, hlong, _, rfl⟩ := hname
    · exact walk_concat_eq_ok_iff.mpr
        ⟨location, ih hfront hparent hdir, enter_eq_ok_iff.mpr ⟨hdir, hpass, .inl ⟨rfl, rfl⟩⟩⟩
    · -- only dots stand in front of two dots
      have hdots : ∀ other ∈ front ++ [".."], isDots other = true := by
        intro other hother
        rcases List.mem_append.mp hother with hother | hother
        · obtain ⟨before, behind, rfl⟩ := List.append_of_mem hother
          by_contra hproper
          have hnames : before ++ other :: behind ++ [".."] =
              before ++ other :: (behind ++ [".."]) := by
            simp
          exact hdescends.not_mem hnames (Bool.eq_false_iff.mpr hproper) (by simp)
        · rw [List.mem_singleton.mp hother]
          rfl
      exact h.walk_dots hhere haccess hdots hafter
    · have hholder := h.holder _ (isSome_of_isDirectory hdir)
      exact walk_concat_eq_ok_iff.mpr ⟨parent, ih hfront hparent hholder,
        enter_eq_ok_iff.mpr ⟨hholder, hpass,
          .inr (.inr ⟨hdots, hlong, isSome_of_isDirectory hdir, rfl⟩)⟩⟩

/-- Where the directories of a descending way are made, the way passes. -/
theorem destination_isSuffix_of_mem {route holder : Route} {front : List String}
    (hdescends : Descends route.names) (hholder : holder ∈ route :: route.passed)
    (hnames : holder.names = front ++ [name]) (hname : isDots name = false) (here : Location) :
    destination here holder.names <:+ destination here route.names := by
  rcases List.mem_cons.mp hholder with rfl | hholder
  · exact List.suffix_refl _
  · obtain ⟨count, _, rfl⟩ := List.mem_map.mp hholder
    have hsplit := List.take_append_drop (count + 1) route.plainNames
    simp only at hnames
    have hcut : route.plainNames = front ++ name :: route.plainNames.drop (count + 1) := by
      rw [List.append_cons, ← hnames, hsplit]
    have hback := hdescends.plainNames.not_mem hcut hname
    have hway : destination here route.names =
        destination (destination here (route.plainNames.take (count + 1)))
          (route.plainNames.drop (count + 1)) := by
      rw [← Route.destination_append, hsplit, Route.destination_plainNames]
    rw [hway]
    exact Route.isSuffix_destination hback _

/-- The directories of a way are new ones at places that it passes. -/
theorem node?_makePath (tree : FileTree) (path : String) (place : Location) :
    (tree.makePath path).1.workingDirectory = tree.workingDirectory ∧
      ((tree.makePath path).1.node? place = tree.node? place ∨
        ∃ route holder front name, Route.ofPath path = .ok route ∧
          holder ∈ route :: route.passed ∧ holder.names = front ++ [name] ∧
          isDots name = false ∧ place = destination (tree.start holder) holder.names) := by
  refine makePath_induction (motive := fun after =>
    after.workingDirectory = tree.workingDirectory ∧ (after.node? place = tree.node? place ∨ _))
    (fun before after route holder hroute hholder hbefore hmake => ?_) ⟨rfl, .inl rfl⟩
  obtain ⟨hworking, hnode⟩ := hbefore
  obtain ⟨front, name, parent, hnames, hname, hwalk, _, _, rfl⟩ := exists_of_makeDirectory hmake
  refine ⟨hworking, ?_⟩
  by_cases hplace : place = name :: parent
  · refine .inr ⟨route, holder, front, name, hroute, hholder, hnames, hname, ?_⟩
    rw [hplace, hnames, Route.destination_concat_of_not_dots hname, eq_destination_of_walk hwalk,
      start, start, hworking]
  · rwa [node?_place_of_ne hplace]

/-- A directory that is new at the end of a descending way is empty. -/
theorem hasPath_joinPath_of_makePath (h : tree.IsRooted) {path : String} (hpath : path ≠ "")
    (hne : name ≠ "") (hslash : '/' ∉ name.toList) (hname : isDots name = false)
    (hdescends : ∀ route, Route.ofPath path = .ok route → Descends route.names)
    (hnew : tree.hasPath path = false) :
    (tree.makePath path).1.hasPath (joinPath path name) = false := by
  rw [Bool.eq_false_iff]
  intro hthere
  obtain ⟨place, hlocate⟩ := hasPath_eq_true_iff.mp hthere
  obtain ⟨route, hroute, hfollow⟩ := locate_eq_ok_iff.mp hlocate
  obtain ⟨_, ⟨rfl, _⟩ | ⟨holder, hholder, hroot, hnames⟩⟩ := Route.ofPath_joinPath hne hslash hroute
  · exact hpath rfl
  have hworking := (node?_makePath tree path []).1
  have hstart : (tree.makePath path).1.start route = tree.start holder := by
    rw [start, start, hroot, hworking]
  obtain ⟨hwalk, _⟩ := follow_eq_ok_iff.mp hfollow
  rw [hnames, walk_concat_eq_ok_iff, hstart] at hwalk
  obtain ⟨parent, hparent, henter⟩ := hwalk
  have hdestination := eq_destination_of_walk hparent
  have hsome : ((tree.makePath path).1.node? (name :: parent)).isSome = true := by
    obtain ⟨_, _, ⟨rfl, _⟩ | ⟨rfl, _⟩ | ⟨_, _, hsome, _⟩⟩ := enter_eq_ok_iff.mp henter
    · cases hname
    · cases hname
    · exact hsome
  rcases (node?_makePath tree path (name :: parent)).2 with
    hold | ⟨other, made, front, last, hother, hmade, hmadeNames, hlast, hplace⟩
  · -- the thing was there before, and so the directory was
    rw [hold] at hsome
    have hdir := h.holder _ hsome
    have hbefore := h.walk_of_descends (h.isDirectory_start holder) (access_makePath tree path).1
      (hdescends holder hholder) hparent hdir
    have hlead := leadsToDirectory_eq_true_iff.mpr ⟨parent, hbefore, hdir⟩
    rw [hasPath_of_leadsToDirectory hholder hlead] at hnew
    cases hnew
  · -- the thing is one of the directories on the way, but lies below its end
    obtain rfl : holder = other := Except.ok.inj (hholder.symm.trans hother)
    have hmadeRoot : made.fromRoot = holder.fromRoot := by
      rcases List.mem_cons.mp hmade with rfl | hpassed
      · rfl
      · obtain ⟨_, _, rfl⟩ := List.mem_map.mp hpassed
        rfl
    have hsuffix := destination_isSuffix_of_mem (hdescends holder hholder) hmade hmadeNames hlast
      (tree.start made)
    rw [← hplace, start, hmadeRoot, ← start, ← hdestination] at hsuffix
    have := hsuffix.length_le
    simp only [List.length_cons] at this
    omega

end StudentRoster.FileTree
