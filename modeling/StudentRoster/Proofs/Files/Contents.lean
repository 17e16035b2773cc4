import StudentRoster.Proofs.Files.Directories

/-!
# Files among directories

What the files of a tree hold is a function of the place (`content?`). Making directories, however
many of them and whether or not all of them can be made, leaves that function as it is
(`content?_makePath`): a directory comes only where nothing stands (`node?_makePath_cases`).
-/

set_option autoImplicit false

namespace StudentRoster.FileTree

variable {tree after : FileTree}

/-- The content of the file at a place, if a file stands there. -/
def content? (tree : FileTree) (place : Location) : Option ByteArray :=
  match tree.node? place with
  | some (.file content) => some content
  | _ => none

/-- The same node at a place has the same content. -/
theorem content?_congr {place : Location} (h : after.node? place = tree.node? place) :
    after.content? place = tree.content? place := by
  rw [content?, content?, h]

/-- Where a directory comes there was no file, and there is none. -/
theorem content?_of_new_directory {place : Location} (hnone : tree.node? place = none)
    (hnew : after.node? place = some .directory) :
    after.content? place = tree.content? place := by
  rw [content?, content?, hnone, hnew]

/-- The making of a directory and of those on the way changes nothing, but that directories come
where nothing stands. -/
theorem node?_makePath_cases (tree : FileTree) (path : String) (place : Location) :
    (tree.makePath path).1.node? place = tree.node? place ∨
      tree.node? place = none ∧ (tree.makePath path).1.node? place = some .directory := by
  refine makePath_induction (motive := fun after => after.node? place = tree.node? place ∨
    tree.node? place = none ∧ after.node? place = some .directory)
    (fun before after _ holder _ _ hbefore hmake => ?_) (.inl rfl)
  obtain ⟨_, name, parent, _, _, _, _, hnone, rfl⟩ := exists_of_makeDirectory hmake
  by_cases hplace : place = name :: parent
  · subst hplace
    rcases hbefore with hsame | ⟨_, hdirectory⟩
    · exact .inr ⟨hsame.symm.trans hnone, node?_place_self (List.cons_ne_nil name parent)⟩
    · rw [hnone] at hdirectory
      cases hdirectory
  · rwa [node?_place_of_ne hplace]

/-- The making of a directory and of those on the way leaves all files as they are. -/
theorem content?_makePath (tree : FileTree) (path : String) :
    (tree.makePath path).1.content? = tree.content? ∧
      (tree.makePath path).1.workingDirectory = tree.workingDirectory := by
  refine ⟨funext fun place => ?_, (node?_makePath tree path []).1⟩
  rcases tree.node?_makePath_cases path place with hsame | ⟨hnone, hnew⟩
  · exact content?_congr hsame
  · exact content?_of_new_directory hnone hnew

/-! ## What a write changes -/

/-- Between two trees, the only file that may be new or have other content is the one at this path.
Apart from it only directories may be new, and nothing is gone. -/
structure ChangesOnly (tree after : FileTree) (path : String) : Prop where
  workingDirectory_eq : after.workingDirectory = tree.workingDirectory
  file : ∀ place, after.content? place ≠ tree.content? place → after.locate path = .ok place
  rest : ∀ place, after.locate path ≠ .ok place → after.node? place = tree.node? place ∨
    tree.node? place = none ∧ after.node? place = some .directory

/-- Where only directories are new, the files are as they were. -/
theorem changesOnly_of_rest {path : String}
    (hworking : after.workingDirectory = tree.workingDirectory)
    (hrest : ∀ place, after.locate path ≠ .ok place → after.node? place = tree.node? place ∨
      tree.node? place = none ∧ after.node? place = some .directory) :
    tree.ChangesOnly after path where
  workingDirectory_eq := hworking
  file place hchanged := by
    by_contra hother
    rcases hrest place hother with hsame | ⟨hnone, hnew⟩
    · exact hchanged (content?_congr hsame)
    · exact hchanged (content?_of_new_directory hnone hnew)
  rest := hrest

/-- A write after directories have been made changes the file of its path, also when it breaks
off. -/
theorem changesOnly_of_writeBytes {made : FileTree} (path : String) (content : ByteArray)
    (hworking : made.workingDirectory = tree.workingDirectory)
    (hmade : ∀ place, made.node? place = tree.node? place ∨
      tree.node? place = none ∧ made.node? place = some .directory) :
    tree.ChangesOnly (made.writeBytes path content).1 path := by
  refine changesOnly_of_rest ?_ fun place hother => ?_
  · obtain hsame | ⟨target, bytes, -, hafter⟩ := made.writeBytes_fst_cases path content
    · rwa [hsame]
    · rw [hafter]
      exact hworking
  · have hsame : (made.writeBytes path content).1.node? place = made.node? place :=
      not_ne_iff.mp (mt locate_of_node?_ne hother)
    rw [hsame]
    exact hmade place

/-- A write makes no directory and puts no file in the place of one. -/
theorem isDirectory_writeBytes (tree : FileTree) (path : String) (content : ByteArray) :
    (tree.writeBytes path content).1.isDirectory = tree.isDirectory := by
  obtain hsame | ⟨target, bytes, htarget, hafter⟩ := tree.writeBytes_fst_cases path content
  · rw [hsame]
  obtain ⟨_, _, name, parent, _, _, _, _, _, _, _, _, hfile, rfl⟩ := exists_of_fileTarget htarget
  rw [hafter]
  funext place
  by_cases hplace : place = name :: parent
  · rw [hplace, hfile, isDirectory, node?_place_self (ne_nil_of_fileTarget htarget)]
    rfl
  · rw [isDirectory, node?_place_of_ne hplace, isDirectory]

end StudentRoster.FileTree
