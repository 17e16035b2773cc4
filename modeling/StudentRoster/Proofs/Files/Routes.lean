import Mathlib.Data.List.Basic
import Mathlib.Data.List.TakeWhile
import StudentRoster.Files.Tree

/-!
# Names on a route

The way to a name in a directory is the way to the directory and then the name (`ofPath_joinPath`).
Where names lead can be told without a tree as long as nothing is in the way (`destination`). A way
whose names lead only down once a proper name has come (`Descends`) passes the places that hold its
end, and no other ones.
-/

set_option autoImplicit false

namespace StudentRoster.Route

open FileTree (isDots)

/-! ## Names in a directory -/

/-- The names between the slashes of a text. -/
def namesOf (text : List Char) : List String :=
  ((text.splitOn '/').filter (fun name => !name.isEmpty)).map String.ofList

/-- The names in front of a slash and behind it are found apart. -/
theorem namesOf_append_slash (front back : List Char) :
    namesOf (front ++ '/' :: back) = namesOf front ++ namesOf back := by
  have hsplit : (front ++ '/' :: back).splitOn '/' = front.splitOn '/' ++ back.splitOn '/' :=
    List.splitOnP_append_cons front back (by decide)
  rw [namesOf, hsplit, List.filter_append, List.map_append, ← namesOf, ← namesOf]

/-- A text without a slash is one name. -/
theorem namesOf_of_not_mem {text : List Char} (hne : text ≠ []) (h : '/' ∉ text) :
    namesOf text = [String.ofList text] := by
  have hsplit : text.splitOn '/' = [text] := by
    refine List.splitOnP_eq_singleton fun c hc => ?_
    rw [beq_eq_false_iff_ne]
    rintro rfl
    exact h hc
  simp [namesOf, hsplit, hne]

/-- Which paths have a route, and which route it is. -/
theorem ofPath_eq_ok_iff {path : String} {route : Route} :
    ofPath path = .ok route ↔
      '\x00' ∉ path.toList ∧ path.toList ≠ [] ∧ path.utf8ByteSize ≤ maxPathBytes ∧
        route = { fromRoot := path.toList.head? == some '/'
                  names := namesOf path.toList
                  endsInSlash := path.toList.getLast? == some '/' } := by
  unfold ofPath
  by_cases hnul : '\x00' ∈ path.toList
  · simp [hnul]
  by_cases hempty : path.toList = []
  · simp [hempty]
  by_cases hlong : maxPathBytes < path.utf8ByteSize
  · simp [hnul, hempty, hlong, Nat.not_le.mpr hlong]
  · simp [hnul, hempty, hlong, Nat.le_of_not_lt hlong, namesOf, eq_comm (a := route)]

/-- A slash at the end makes no name. -/
theorem namesOf_concat_slash (front : List Char) : namesOf (front ++ ['/']) = namesOf front := by
  rw [namesOf_append_slash]
  exact List.append_nil _

/-- A name in a directory stands behind a slash. -/
theorem exists_toList_joinPath {directory : String} (hdirectory : directory ≠ "") (name : String) :
    ∃ front, (joinPath directory name).toList = front ++ '/' :: name.toList ∧
      namesOf front = namesOf directory.toList ∧
      (front ++ ['/']).head? = directory.toList.head? := by
  have hempty : directory.isEmpty = false := by simpa using hdirectory
  have hne : directory.toList ≠ [] := by simpa using hdirectory
  unfold joinPath
  by_cases hlast : directory.toList.getLast? = some '/'
  · obtain ⟨front, hfront⟩ := List.getLast?_eq_some_iff.mp hlast
    refine ⟨front, by simp [hempty, hfront], ?_, by rw [hfront]⟩
    rw [hfront, namesOf_concat_slash]
  · refine ⟨directory.toList, by simp [hempty, hlast], rfl, ?_⟩
    rw [List.head?_append_of_ne_nil _ hne]

/-- A path of a name in a directory is at least as long as that of the directory. -/
theorem utf8ByteSize_le_joinPath (directory name : String) :
    directory.utf8ByteSize ≤ (joinPath directory name).utf8ByteSize := by
  unfold joinPath
  split
  · rw [String.utf8ByteSize_append]
    exact Nat.le_add_right ..
  · rw [String.utf8ByteSize_append, String.utf8ByteSize_append, Nat.add_assoc]
    exact Nat.le_add_right ..

/-- The way to a name in a directory is the way to the directory and then the name. -/
theorem ofPath_joinPath {directory name : String} {route : Route} (hname : name ≠ "")
    (hslash : '/' ∉ name.toList) (h : ofPath (joinPath directory name) = .ok route) :
    route.endsInSlash = false ∧
      (directory = "" ∧ route.names = [name] ∨
        ∃ holder, ofPath directory = .ok holder ∧ route.fromRoot = holder.fromRoot ∧
          route.names = holder.names ++ [name]) := by
  obtain ⟨hnul, -, hlong, rfl⟩ := ofPath_eq_ok_iff.mp h
  have hne : name.toList ≠ [] := by simpa using hname
  have hnames : namesOf name.toList = [name] := by
    rw [namesOf_of_not_mem hne hslash, String.ofList_toList]
  have hlast : name.toList.getLast? ≠ some '/' := fun hlast =>
    hslash (List.mem_of_getLast? hlast)
  by_cases hdirectory : directory = ""
  · subst hdirectory
    have hjoin : joinPath "" name = name := by simp [joinPath]
    rw [hjoin]
    exact ⟨by simpa using hlast, .inl ⟨rfl, hnames⟩⟩
  · obtain ⟨front, hfront, hholder, hhead⟩ := exists_toList_joinPath hdirectory name
    have hprefix : ∃ rest, (joinPath directory name) = directory ++ rest := by
      unfold joinPath
      split
      · exact ⟨name, rfl⟩
      · exact ⟨"/" ++ name, String.append_assoc ..⟩
    obtain ⟨rest, hrest⟩ := hprefix
    refine ⟨?_, .inr ⟨_, ofPath_eq_ok_iff.mpr ⟨?_, by simpa using hdirectory, ?_, rfl⟩, ?_, ?_⟩⟩
    · have hback : (front ++ '/' :: name.toList).getLast? = name.toList.getLast? := by
        rw [List.append_cons, List.getLast?_append_of_ne_nil _ hne]
      simpa [hfront, hback] using hlast
    · intro hmem
      exact hnul (by simp [hrest, hmem])
    · rw [hrest, String.utf8ByteSize_append] at hlong
      omega
    · simp only [hfront, ← hhead]
      cases front <;> simp
    · simp only [hfront, namesOf_append_slash, hholder, hnames]

/-! ## Where names lead -/

/-- Where names lead when nothing is in the way. -/
def destination (here : Location) (names : List String) : Location :=
  names.foldl (fun here name =>
    if name = "." then here else if name = ".." then here.tail else name :: here) here

/-- Names may be followed in two parts. -/
theorem destination_append (here : Location) (front back : List String) :
    destination here (front ++ back) = destination (destination here front) back :=
  List.foldl_append

/-- A proper name at the end leads one step down. -/
theorem destination_concat_of_not_dots {name : String} (h : isDots name = false) (here : Location)
    (names : List String) :
    destination here (names ++ [name]) = name :: destination here names := by
  obtain ⟨hdot, hdots⟩ : name ≠ "." ∧ name ≠ ".." := by simpa [isDots] using h
  rw [destination_append]
  simp [destination, hdot, hdots]

/-- Dots lead to a place that holds the one where they start. -/
theorem destination_isSuffix {names : List String} (h : ∀ name ∈ names, isDots name = true)
    (here : Location) : destination here names <:+ here := by
  induction names generalizing here with
  | nil => exact List.suffix_refl here
  | cons name rest ih =>
    have hrest (place : Location) : destination place rest <:+ place :=
      ih (fun other hother => h other (List.mem_cons_of_mem _ hother)) place
    have hname : name = "." ∨ name = ".." := by simpa [isDots] using h name (List.mem_cons_self ..)
    rcases hname with rfl | rfl
    · exact hrest here
    · exact (hrest here.tail).trans (List.tail_suffix here)

/-- Names without two dots lead down. -/
theorem isSuffix_destination {names : List String} (h : ".." ∉ names) (here : Location) :
    here <:+ destination here names := by
  induction names generalizing here with
  | nil => exact List.suffix_refl here
  | cons name rest ih =>
    obtain ⟨hname, hrest⟩ : ".." ≠ name ∧ ".." ∉ rest := by simpa using h
    have hdown (place : Location) : place <:+ destination place rest := ih hrest place
    by_cases hdot : name = "."
    · subst hdot
      exact hdown here
    · have hstep : destination here (name :: rest) = destination (name :: here) rest := by
        simp [destination, hdot, Ne.symm hname]
      rw [hstep]
      exact (List.suffix_cons name here).trans (hdown _)

/-- Names for the place itself lead nowhere else. -/
theorem destination_filter_dots (here : Location) (names : List String) :
    destination here (names.filter (· != ".")) = destination here names := by
  induction names generalizing here with
  | nil => rfl
  | cons name rest ih =>
    by_cases hdot : name = "."
    · subst hdot
      exact ih here
    · rw [List.filter_cons_of_pos (by simpa using hdot)]
      exact ih _

/-- The plain names of a route lead where all its names do. -/
theorem destination_plainNames (here : Location) (route : Route) :
    destination here route.plainNames = destination here route.names := by
  unfold plainNames
  cases hnames : route.names with
  | nil => rfl
  | cons name rest =>
    simp only
    split
    · exact destination_filter_dots _ rest
    · exact destination_filter_dots here (name :: rest)

/-- Behind the dots at their front, the names lead only down. -/
def Descends (names : List String) : Prop :=
  ".." ∉ names.dropWhile isDots

instance (names : List String) : Decidable (Descends names) :=
  inferInstanceAs (Decidable (¬ _))

/-- What stands behind a proper name leads only down. -/
theorem Descends.not_mem {names front back : List String} {name : String} (h : Descends names)
    (hnames : names = front ++ name :: back) (hname : isDots name = false) : ".." ∉ back := by
  intro hback
  apply h
  rw [hnames, List.dropWhile_append]
  split
  · rw [List.dropWhile_cons_of_neg (by simpa using hname)]
    exact List.mem_cons_of_mem _ hback
  · simp [hback]

/-- What leads only down does so at its front. -/
theorem Descends.of_append {front back : List String} (h : Descends (front ++ back)) :
    Descends front := by
  intro hfront
  apply h
  rw [List.dropWhile_append]
  split
  next hempty => simp [List.isEmpty_iff.mp hempty] at hfront
  · exact List.mem_append_left _ hfront

/-- Without the names for the place itself the others still lead down. -/
theorem Descends.filter {names : List String} (h : Descends names) :
    Descends (names.filter (· != ".")) := by
  induction names with
  | nil => exact h
  | cons name rest ih =>
    by_cases hdot : name = "."
    · subst hdot
      exact ih h
    · rw [List.filter_cons_of_pos (by simpa using hdot)]
      by_cases hdots : isDots name = true
      · rw [Descends, List.dropWhile_cons_of_pos hdots] at h ⊢
        exact ih h
      · rw [Descends, List.dropWhile_cons_of_neg hdots] at h ⊢
        simpa using h

/-- The plain names lead down where all names do. -/
theorem Descends.plainNames {route : Route} (h : Descends route.names) :
    Descends route.plainNames := by
  unfold Route.plainNames
  cases hnames : route.names with
  | nil => exact List.not_mem_nil
  | cons name rest =>
    rw [hnames] at h
    simp only
    split
    next hfirst =>
      have hrest : Descends rest := by
        rwa [Descends, hfirst.1, List.dropWhile_cons_of_pos (by decide)] at h
      rw [Descends, hfirst.1, List.dropWhile_cons_of_pos (by decide)]
      exact hrest.filter
    · exact h.filter

end StudentRoster.Route
