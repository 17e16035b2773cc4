import Mathlib.Data.List.Induction
import StudentRoster.Files.Tree

/-!
# Ways through a tree of files

A way is walked name by name (`walk`), and what it needs is read off its last step
(`walk_concat_eq_ok_iff`). From this follows what a write comes to (`writeBytes_eq_ok_iff`,
`writeBytes_eq_error_iff`): the file to which its path leads holds what was written
(`holds_of_writeBytes`), because a file takes no way through the tree away (`Grows.walk`).
-/

set_option autoImplicit false

namespace StudentRoster

/-- The bytes of a text are read as that text. -/
theorem fromUTF8?_toUTF8 (text : String) : String.fromUTF8? text.toUTF8 = some text := by
  rw [String.toUTF8_eq_toByteArray, String.fromUTF8?, dif_pos text.isValidUTF8]
  rfl

namespace FileTree

/-- The location that names lead to from a place. -/
def walk (tree : FileTree) (here : Location) (names : List String) : Except FileError Location :=
  names.foldlM tree.enter here

variable {tree : FileTree} {here location : Location} {names : List String} {name : String}

/-- What a step needs: a directory that may be passed, and in it something of this name, unless the
name stands for a directory that is there in any case. -/
theorem enter_eq_ok_iff :
    tree.enter here name = .ok location ↔
      tree.isDirectory here = true ∧ (tree.access here).pass = true ∧
        (name = "." ∧ location = here ∨ name = ".." ∧ location = here.tail ∨
          isDots name = false ∧ name.utf8ByteSize ≤ Route.maxNameBytes ∧
            (tree.node? (name :: here)).isSome = true ∧ location = name :: here) := by
  have hself (other : Location) : Except.ok other = (.ok location : Except FileError Location) ↔
      location = other := by
    rw [Except.ok.injEq, eq_comm]
  unfold enter
  cases hdir : tree.isDirectory here with
  | false => simp
  | true =>
    by_cases hpass : (tree.access here).pass = false
    · simp [hpass]
    rw [Bool.not_eq_false] at hpass
    by_cases hdot : name = "."
    · simp [hpass, hdot, isDots, hself]
    by_cases hdots : name = ".."
    · simp [hpass, hdots, isDots, hself]
    by_cases hlong : Route.maxNameBytes < name.utf8ByteSize
    · simp [hpass, hdot, hdots, hlong, Nat.not_le.mpr hlong]
    by_cases hnode : (tree.node? (name :: here)).isSome = true
    · simp [hpass, hdot, hdots, isDots, hlong, Nat.le_of_not_lt hlong, hnode, hself]
    · simp [hpass, hdot, hdots, hlong, hnode]

/-- A step leads on from a directory. -/
theorem isDirectory_of_enter (h : tree.enter here name = .ok location) :
    tree.isDirectory here = true :=
  (enter_eq_ok_iff.mp h).1

/-- A way in two parts leads where the second part leads from the end of the first. -/
theorem walk_append_eq_ok_iff {front back : List String} :
    tree.walk here (front ++ back) = .ok location ↔
      ∃ middle, tree.walk here front = .ok middle ∧ tree.walk middle back = .ok location := by
  unfold walk
  rw [List.foldlM_append]
  cases List.foldlM tree.enter here front with
  | error cause => simp [bind, Except.bind]
  | ok middle => simp [bind, Except.bind]

/-- A way of one name is one step. -/
theorem walk_singleton (tree : FileTree) (here : Location) (name : String) :
    tree.walk here [name] = tree.enter here name := by
  unfold walk
  cases h : tree.enter here name <;> simp [h, bind, Except.bind, pure, Except.pure]

/-- The last step of a way starts where the names in front of it lead. -/
theorem walk_concat_eq_ok_iff :
    tree.walk here (names ++ [name]) = .ok location ↔
      ∃ parent, tree.walk here names = .ok parent ∧ tree.enter parent name = .ok location := by
  simp only [walk_append_eq_ok_iff, walk_singleton]

/-! ## Where a path ends -/

/-- A path denotes what its route leads to. -/
theorem locate_eq_ok_iff {path : String} :
    tree.locate path = .ok location ↔
      ∃ route, Route.ofPath path = .ok route ∧ tree.follow route = .ok location := by
  unfold locate
  cases Route.ofPath path with
  | error cause => simp [bind, Except.bind]
  | ok route => simp [bind, Except.bind]

/-- Something stands where a path leads when the path denotes a location. -/
theorem hasPath_eq_true_iff {path : String} :
    tree.hasPath path = true ↔ ∃ location, tree.locate path = .ok location := by
  unfold hasPath
  cases tree.locate path <;> simp [Except.isOk, Except.toBool]

/-- Nothing is seen where a path leads that is too long. -/
theorem hasPath_of_long {path : String} (h : Route.maxPathBytes < path.utf8ByteSize) :
    tree.hasPath path = false := by
  have hroute : ∃ cause, Route.ofPath path = .error cause := by
    unfold Route.ofPath
    simp only [h, if_true]
    split_ifs <;> exact ⟨_, rfl⟩
  obtain ⟨cause, hcause⟩ := hroute
  simp only [hasPath, locate, hcause]
  rfl

/-- A route leads where its names lead, and with a slash at its end only to a directory. -/
theorem follow_eq_ok_iff {route : Route} :
    tree.follow route = .ok location ↔
      tree.walk (tree.start route) route.names = .ok location ∧
        (route.endsInSlash = true → tree.isDirectory location = true) := by
  unfold follow walk
  cases hwalk : route.names.foldlM tree.enter (tree.start route) with
  | error cause => simp [bind, Except.bind]
  | ok place =>
    simp only [bind, Except.bind, Except.ok.injEq]
    cases route.endsInSlash with
    | false => simp
    | true =>
      cases hdir : tree.isDirectory place with
      | true =>
        simp only [Bool.not_true, Bool.and_false, Bool.false_eq_true, if_false, Except.ok.injEq]
        exact ⟨fun heq => ⟨heq, fun _ => heq ▸ hdir⟩, fun h => h.1⟩
      | false =>
        simp only [Bool.not_false, Bool.and_self, if_true, reduceCtorEq, false_iff, not_and]
        rintro rfl
        simp [hdir]

/-- The last name of a route stands where the names in front of it lead. -/
theorem lastStep_of_names {route : Route} {front : List String}
    (h : route.names = front ++ [name]) :
    tree.lastStep route = (tree.walk (tree.start route) front).bind fun parent =>
      if !tree.isDirectory parent then .error .notDirectory
      else if !(tree.access parent).pass then .error .permissionDenied
      else .ok (some (parent, name)) := by
  simp only [lastStep, h, List.getLast?_append, List.getLast?_singleton, Option.some_or,
    List.dropLast_concat]
  rfl

/-- What a route with names leads to is the last of them in a directory. -/
theorem lastStep_of_follow {route : Route} {front : List String}
    (h : route.names = front ++ [name]) (hfollow : tree.follow route = .ok location) :
    ∃ parent, tree.lastStep route = .ok (some (parent, name)) ∧
      tree.enter parent name = .ok location := by
  rw [follow_eq_ok_iff, h, walk_concat_eq_ok_iff] at hfollow
  obtain ⟨⟨parent, hparent, henter⟩, _⟩ := hfollow
  refine ⟨parent, ?_, henter⟩
  obtain ⟨hdir, hpass, _⟩ := enter_eq_ok_iff.mp henter
  rw [lastStep_of_names h, hparent]
  simp [Except.bind, hdir, hpass]

/-- The last name of a route stands in the directory to which the names in front of it lead. -/
theorem exists_of_lastStep {route : Route} {parent : Location}
    (h : tree.lastStep route = .ok (some (parent, name))) :
    ∃ front, route.names = front ++ [name] ∧ tree.walk (tree.start route) front = .ok parent ∧
      tree.isDirectory parent = true ∧ (tree.access parent).pass = true := by
  rcases List.eq_nil_or_concat route.names with hnames | ⟨front, last, hnames⟩
  · simp [lastStep, hnames] at h
  · rw [List.concat_eq_append] at hnames
    rw [lastStep_of_names hnames] at h
    cases hwalk : tree.walk (tree.start route) front with
    | error cause =>
      rw [hwalk] at h
      cases h
    | ok place =>
      simp only [hwalk, Except.bind] at h
      split at h
      · cases h
      next hdir =>
      split at h
      · cases h
      next hpass =>
      obtain ⟨rfl, rfl⟩ := Prod.mk.inj (Option.some.inj (Except.ok.inj h))
      exact ⟨front, hnames, hwalk, by simpa using hdir, by simpa using hpass⟩

/-! ## Files -/

/-- A file that a path leads to is the one that a write to the path replaces, if it may be
written. -/
theorem fileTarget_of_locate {path : String} {route : Route} {front : List String}
    (hroute : Route.ofPath path = .ok route) (hnames : route.names = front ++ [name])
    (hslash : route.endsInSlash = false) (hdots : isDots name = false)
    (hlocate : tree.locate path = .ok location) (hfile : tree.isDirectory location = false)
    (hwrite : (tree.access location).write = true) : tree.fileTarget path = .ok location := by
  obtain ⟨other, hother, hfollow⟩ := locate_eq_ok_iff.mp hlocate
  obtain rfl : route = other := Except.ok.inj (hroute.symm.trans hother)
  obtain ⟨parent, hstep, henter⟩ := lastStep_of_follow hnames hfollow
  obtain ⟨_, _, ⟨rfl, _⟩ | ⟨rfl, _⟩ | ⟨_, hlong, hnode, rfl⟩⟩ := enter_eq_ok_iff.mp henter
  · cases hdots
  · cases hdots
  · have hstore : tree.mayStore (name :: parent) = true := by
      rw [mayStore, if_pos hnode, hwrite]
    simp [fileTarget, hroute, hstep, bind, Except.bind, hslash, hdots, Nat.not_lt.mpr hlong, hfile,
      hstore]

/-- What a write needs: a directory that may be passed, and in it a place where no directory
stands. -/
theorem exists_of_fileTarget {path : String} (h : tree.fileTarget path = .ok location) :
    ∃ route front name parent, Route.ofPath path = .ok route ∧ route.names = front ++ [name] ∧
      route.endsInSlash = false ∧ isDots name = false ∧
      name.utf8ByteSize ≤ Route.maxNameBytes ∧
      tree.walk (tree.start route) front = .ok parent ∧ tree.isDirectory parent = true ∧
      (tree.access parent).pass = true ∧ tree.isDirectory (name :: parent) = false ∧
      location = name :: parent := by
  unfold fileTarget at h
  cases hroute : Route.ofPath path with
  | error cause => simp [hroute, bind, Except.bind] at h
  | ok route =>
    cases hstep : tree.lastStep route with
    | error cause => simp [hroute, hstep, bind, Except.bind] at h
    | ok last =>
      simp only [hroute, hstep, bind, Except.bind] at h
      cases last with
      | none => cases h
      | some last =>
        obtain ⟨parent, name⟩ := last
        obtain ⟨front, hnames, hwalk, hdir, hpass⟩ := exists_of_lastStep hstep
        simp only at h
        split at h
        · cases h
        next hplain =>
        split at h
        · cases h
        next hlong =>
        split at h
        · cases h
        next hfile =>
        split at h
        · cases h
        obtain ⟨hslash, hdots⟩ := Bool.or_eq_false_iff.mp (Bool.eq_false_iff.mpr hplain)
        exact ⟨route, front, name, parent, rfl, hnames, hslash, hdots, Nat.le_of_not_lt hlong,
          hwalk, hdir, hpass, Bool.eq_false_iff.mpr hfile, (Except.ok.inj h).symm⟩

/-- Where a way leads it leads also in a tree in which nothing was taken away. -/
structure Grows (tree after : FileTree) : Prop where
  workingDirectory_eq : after.workingDirectory = tree.workingDirectory
  access_eq : after.access = tree.access
  isDirectory_of : ∀ place, tree.isDirectory place = true → after.isDirectory place = true
  isSome_of : ∀ place, (tree.node? place).isSome = true → (after.node? place).isSome = true

/-- A way through a tree stays open while the tree grows. -/
theorem Grows.walk {after : FileTree} (h : tree.Grows after)
    (hwalk : tree.walk here names = .ok location) : after.walk here names = .ok location := by
  induction names using List.reverseRecOn generalizing location with
  | nil => exact hwalk
  | append_singleton front name ih =>
    obtain ⟨parent, hparent, henter⟩ := walk_concat_eq_ok_iff.mp hwalk
    refine walk_concat_eq_ok_iff.mpr ⟨parent, ih hparent, ?_⟩
    obtain ⟨hdir, hpass, hname⟩ := enter_eq_ok_iff.mp henter
    refine enter_eq_ok_iff.mpr ⟨h.isDirectory_of parent hdir, by rwa [h.access_eq], ?_⟩
    exact hname.imp_right (Or.imp_right fun ⟨hdots, hlong, hnode, heq⟩ =>
      ⟨hdots, hlong, h.isSome_of _ hnode, heq⟩)

/-- A path that leads to a place leads there while the tree grows. -/
theorem Grows.locate {after : FileTree} {path : String} (h : tree.Grows after)
    (hlocate : tree.locate path = .ok location) : after.locate path = .ok location := by
  obtain ⟨route, hroute, hfollow⟩ := locate_eq_ok_iff.mp hlocate
  obtain ⟨hwalk, hslash⟩ := follow_eq_ok_iff.mp hfollow
  refine locate_eq_ok_iff.mpr ⟨route, hroute, follow_eq_ok_iff.mpr ⟨?_, fun hend =>
    h.isDirectory_of _ (hslash hend)⟩⟩
  have hstart : after.start route = tree.start route := by
    rw [start, start, h.workingDirectory_eq]
  rw [hstart]
  exact h.walk hwalk

/-- A file takes no directory away when it comes where none is. -/
theorem grows_place_file {place : Location} (h : tree.isDirectory place = false)
    (content : ByteArray) : tree.Grows (tree.place place (.file content)) := by
  have hroot : place ≠ [] := by
    rintro rfl
    cases h
  refine ⟨rfl, rfl, fun other hdir => ?_, fun other hnode => ?_⟩
  · have hne : other ≠ place := by
      rintro rfl
      rw [h] at hdir
      cases hdir
    rwa [isDirectory, node?_place_of_ne hne]
  · by_cases hother : other = place
    · rw [hother, node?_place_self hroot]
      rfl
    · rwa [node?_place_of_ne hother]

/-! ## What a write comes to -/

/-- The file to which a path leads has this content. -/
def Holds (tree : FileTree) (path : String) (content : ByteArray) : Prop :=
  ∃ place, tree.locate path = .ok place ∧ tree.node? place = some (.file content)

variable {after : FileTree} {path : String} {content : ByteArray} {place : Location}

/-- A file that may be read is read as what it holds. -/
theorem readBytes_of_locate (hlocate : tree.locate path = .ok place)
    (hfile : tree.node? place = some (.file content)) (hread : (tree.access place).read = true) :
    tree.readBytes path = .ok content := by
  simp [readBytes, hlocate, hfile, hread, bind, Except.bind]

/-- All of a content is stored where there is room for it. -/
theorem stored_of_hasRoom (h : tree.hasRoom place content = true) :
    tree.stored place content = content := by
  unfold hasRoom at h
  unfold stored
  cases hroom : tree.rooms.lookup place with
  | none => rfl
  | some room =>
    rw [hroom] at h
    have hsize : content.size ≤ room := by simpa using h
    show content.extract 0 room = content
    rw [← Nat.max_eq_left hsize, ByteArray.extract_zero_max_size]

/-- A write succeeds when the file can be opened and there is room for the content. -/
theorem writeBytes_eq_ok_iff :
    tree.writeBytes path content = (after, .ok ()) ↔
      ∃ place, tree.fileTarget path = .ok place ∧ tree.hasRoom place content = true ∧
        tree.place place (.file content) = after := by
  unfold writeBytes
  cases tree.fileTarget path with
  | error cause => simp
  | ok place =>
    cases hroom : tree.hasRoom place content with
    | true => simp [stored_of_hasRoom hroom, hroom]
    | false => simp [hroom]

/-- A write fails when the file cannot be opened, which leaves the tree as it is, or when there is
no room for the content, of which the first part is in the file then. -/
theorem writeBytes_eq_error_iff {cause : FileError} :
    tree.writeBytes path content = (after, .error cause) ↔
      tree.fileTarget path = .error cause ∧ tree = after ∨
        cause = .noSpace ∧ ∃ place, tree.fileTarget path = .ok place ∧
          tree.hasRoom place content = false ∧
          tree.place place (.file (tree.stored place content)) = after := by
  unfold writeBytes
  cases tree.fileTarget path with
  | error other => simp [and_comm]
  | ok place =>
    cases hroom : tree.hasRoom place content with
    | true => simp [hroom]
    | false =>
      simp only [Prod.mk.injEq, hroom, Bool.false_eq_true, if_false, Except.error.injEq,
        reduceCtorEq, false_and, false_or, Except.ok.injEq, exists_eq_left', true_and]
      rw [and_comm, eq_comm (a := FileError.noSpace)]

/-- Whatever comes of a write, at most the file of its path is another one. -/
theorem writeBytes_fst_cases (tree : FileTree) (path : String) (content : ByteArray) :
    (tree.writeBytes path content).1 = tree ∨
      ∃ place bytes, tree.fileTarget path = .ok place ∧
        (tree.writeBytes path content).1 = tree.place place (.file bytes) := by
  unfold writeBytes
  cases tree.fileTarget path with
  | error cause => exact .inl rfl
  | ok place => exact .inr ⟨place, _, rfl, rfl⟩

/-- A file never comes to the root. -/
theorem ne_nil_of_fileTarget (h : tree.fileTarget path = .ok place) : place ≠ [] := by
  obtain ⟨_, _, name, parent, _, _, _, _, _, _, _, _, _, rfl⟩ := exists_of_fileTarget h
  exact List.cons_ne_nil name parent

/-- A write takes no way through the tree away. -/
theorem grows_of_fileTarget (h : tree.fileTarget path = .ok place) (content : ByteArray) :
    tree.Grows (tree.place place (.file content)) := by
  obtain ⟨_, _, _, _, _, _, _, _, _, _, _, _, hfile, rfl⟩ := exists_of_fileTarget h
  exact grows_place_file hfile content

/-- Where a file has been written, its path leads. -/
theorem locate_of_fileTarget (h : tree.fileTarget path = .ok place) (content : ByteArray) :
    (tree.place place (.file content)).locate path = .ok place := by
  have hself : (tree.place place (.file content)).node? place = some (.file content) :=
    node?_place_self (ne_nil_of_fileTarget h)
  have hgrows := grows_of_fileTarget h content
  obtain ⟨route, front, name, parent, hroute, hnames, hslash, hdots, hlong, hwalk, hdir, hpass, _,
    rfl⟩ := exists_of_fileTarget h
  refine locate_eq_ok_iff.mpr ⟨route, hroute, follow_eq_ok_iff.mpr ⟨?_, by simp [hslash]⟩⟩
  rw [hnames, walk_concat_eq_ok_iff]
  refine ⟨parent, hgrows.walk hwalk,
    enter_eq_ok_iff.mpr ⟨hgrows.isDirectory_of _ hdir, by rwa [hgrows.access_eq], ?_⟩⟩
  exact .inr (.inr ⟨hdots, hlong, by rw [hself]; rfl, rfl⟩)

/-- Where a file can be written and none stands, its path does not lead yet. -/
theorem node?_eq_none_of_fileTarget (h : tree.fileTarget path = .ok place)
    (hnew : tree.hasPath path = false) : tree.node? place = none := by
  obtain ⟨route, front, name, parent, hroute, hnames, hslash, hdots, hlong, hwalk, hdir, hpass, _,
    rfl⟩ := exists_of_fileTarget h
  rw [Option.eq_none_iff_forall_not_mem]
  intro node hnode
  have henter : tree.enter parent name = .ok (name :: parent) :=
    enter_eq_ok_iff.mpr ⟨hdir, hpass, .inr (.inr ⟨hdots, hlong, by rw [hnode]; rfl, rfl⟩)⟩
  have hfollow : tree.follow route = .ok (name :: parent) :=
    follow_eq_ok_iff.mpr ⟨hnames ▸ walk_concat_eq_ok_iff.mpr ⟨parent, hwalk, henter⟩,
      by simp [hslash]⟩
  rw [hasPath_eq_true_iff.mpr ⟨_, locate_eq_ok_iff.mpr ⟨route, hroute, hfollow⟩⟩] at hnew
  cases hnew

/-- What is written to a path is what the file holds to which the path leads. -/
theorem holds_of_writeBytes (h : tree.writeBytes path content = (after, .ok ())) :
    after.Holds path content := by
  obtain ⟨place, htarget, -, rfl⟩ := writeBytes_eq_ok_iff.mp h
  exact ⟨place, locate_of_fileTarget htarget content,
    node?_place_self (ne_nil_of_fileTarget htarget)⟩

/-- A write changes only what its path leads to afterwards. -/
theorem locate_of_node?_ne
    (hchanged : (tree.writeBytes path content).1.node? place ≠ tree.node? place) :
    (tree.writeBytes path content).1.locate path = .ok place := by
  obtain hsame | ⟨target, bytes, htarget, hafter⟩ := tree.writeBytes_fst_cases path content
  · rw [hsame] at hchanged
    exact absurd rfl hchanged
  · rw [hafter] at hchanged ⊢
    have hplace : place = target := by
      by_contra hne
      exact hchanged (node?_place_of_ne hne)
    rw [hplace]
    exact locate_of_fileTarget htarget bytes

/-- A path of which a file is read leads to something. -/
theorem hasPath_of_readBytes (h : tree.readBytes path = .ok content) :
    tree.hasPath path = true := by
  unfold readBytes at h
  cases hlocate : tree.locate path with
  | error cause => simp [hlocate, bind, Except.bind] at h
  | ok place => exact hasPath_eq_true_iff.mpr ⟨place, hlocate⟩

/-- A file whose bytes are those of a text is read as that text. -/
theorem readText_of_readBytes {text : String}
    (h : tree.readBytes path = .ok text.toUTF8) : tree.readText path = .ok text := by
  simp only [readText, h, bind, Except.bind, fromUTF8?_toUTF8]

end FileTree

end StudentRoster
