import StudentRoster.Proofs.Roster.Export

/-!
# Listings of any length

Two files hold the made-up students of one range of numbers, the second from where the first ends
(`crowd`). None of them is read here line by line: that each of them comes into an empty roster
follows from the way back from a listing to its students, and so holds however many there are
(`newcomers_crowd`). With as many students as a number of 32 bits cannot count, these files show
what the number that a loading tells is worth.
-/

set_option autoImplicit false

namespace StudentRoster

open Text

/-- A field with an id behind it is a field. -/
theorem isField_append_idText {word : String} (h : IsField word.toList) (id : Int32) :
    IsField (word ++ idText id).toList := by
  rw [idText, String.toList_append, String.toList_ofList]
  refine ⟨List.append_ne_nil_of_left_ne_nil h.1 _, fun c hc => ?_⟩
  rcases List.mem_append.mp hc with hfront | hdigit
  · exact h.2 c hfront
  · exact isBlank_eq_false_of_mem_integerDigits hdigit

/-- Made-up students are well formed. -/
theorem Student.isWellFormed_sample (n : Nat) : (sample n).IsWellFormed where
  firstName := isField_append_idText (by decide) _
  lastName := isField_append_idText (by decide) _
  major := by
    show IsField "GEN".toList
    decide

/-- Numbers below the size of an id make different ids. -/
theorem ofNat_injOn {m n : Nat} (hm : m < 2 ^ 32) (hn : n < 2 ^ 32)
    (h : Int32.ofNat m = Int32.ofNat n) : m = n := by
  have hbits : m % 2 ^ 32 = n % 2 ^ 32 := congrArg (fun id => id.toBitVec.toNat) h
  rwa [Nat.mod_eq_of_lt hm, Nat.mod_eq_of_lt hn] at hbits

/-- The made-up students with these many numbers from a first one on. -/
def samples (first count : Nat) : List Student :=
  (List.range' first count).map Student.sample

/-- Made-up students have different ids, as far as there are so many ids. -/
theorem nodup_ids_samples {first count : Nat} (h : first + count ≤ 2 ^ 32) :
    ((samples first count).map (·.id)).Nodup := by
  rw [samples, List.map_map]
  refine List.Nodup.map_on (fun m hm n hn heq => ?_) List.nodup_range'
  rw [List.mem_range'_1] at hm hn
  exact ofNat_injOn (by omega) (by omega) heq

/-- Two listings of made-up students, the second with the numbers behind those of the first. -/
def crowd (front back : Nat) : FileTree :=
  ((FileTree.empty ["work"]).place ["a.txt", "work"]
    (.file (Listing.print (samples 1 front)).toUTF8)).place ["b.txt", "work"]
      (.file (Listing.print (samples (front + 1) back)).toUTF8)

/-- A listing of made-up students offers them as they are read again. -/
theorem fileStudents_of_samples {tree : FileTree} {path : String} {first count : Nat}
    (h : tree.readBytes path = .ok (Listing.print (samples first count)).toUTF8) :
    fileStudents tree none path = (samples first count).map Student.reread := by
  have hwellFormed : ∀ s ∈ samples first count, s.IsWellFormed := by
    intro s hs
    obtain ⟨n, -, rfl⟩ := List.mem_map.mp hs
    exact Student.isWellFormed_sample n
  have htext := FileTree.readText_of_readBytes h
  simp only [fileStudents, htext, Listing.recased, Listing.ofText_print hwellFormed]

section crowd

variable (front back : Nat)

/-- The first file offers the students of its range. -/
theorem pathStudents_crowd_front :
    pathStudents (crowd front back) none ["a.txt"] = (samples 1 front).map Student.reread := by
  rw [pathStudents, List.flatMap_singleton, fileStudents_of_samples rfl]

/-- Together the files offer the students of both ranges. -/
theorem pathStudents_crowd :
    pathStudents (crowd front back) none ["a.txt", "b.txt"] =
      (samples 1 (front + back)).map Student.reread := by
  have hsplit : samples 1 (front + back) = samples 1 front ++ samples (front + 1) back := by
    rw [samples, samples, samples, ← List.map_append, Nat.add_comm front 1, List.range'_append_1]
  rw [hsplit, List.map_append, pathStudents_cons, pathStudents, List.flatMap_singleton,
    fileStudents_of_samples rfl, fileStudents_of_samples rfl]

end crowd

/-- However many made-up students there are, each comes into an empty roster, as far as there are so
many ids. -/
theorem newcomers_samples {count : Nat} (h : count < 2 ^ 32) :
    newcomers [] ((samples 1 count).map Student.reread) =
      (samples 1 count).map Student.reread := by
  refine newcomers_eq_self (fun _ _ => List.not_mem_nil) ?_
  rw [List.map_map]
  exact nodup_ids_samples (by omega)

/-- The students of both files come into an empty roster, those of the first file before those of
the second. -/
theorem length_newcomers_crowd {front back : Nat} (h : front + back < 2 ^ 32) :
    let tree := crowd front back
    let first := Roster.empty.load tree ["a.txt"] none
    (newcomers [] (pathStudents tree none ["a.txt"])).length = front ∧
      (newcomers first.1.ids (pathStudents tree none ["b.txt"])).length = back ∧
      (newcomers [] (pathStudents tree none ["a.txt", "b.txt"])).length = front + back := by
  intro tree first
  have hfront : (newcomers [] (pathStudents tree none ["a.txt"])).length = front := by
    rw [pathStudents_crowd_front, newcomers_samples (by omega), List.length_map, samples,
      List.length_map, List.length_range']
  have hboth : (newcomers [] (pathStudents tree none ["a.txt", "b.txt"])).length =
      front + back := by
    rw [pathStudents_crowd, newcomers_samples h, List.length_map, samples, List.length_map,
      List.length_range']
  have htaken := Loading.mem_ids_insertAll_newcomers .empty (pathStudents tree none ["a.txt"])
  have hids : first.1.ids = (Roster.empty.insertAll
      (newcomers Roster.empty.ids (pathStudents tree none ["a.txt"]))).ids := by
    rw [← congrArg (fun answer => answer.1.ids) (Roster.load_eq .empty tree ["a.txt"] none)]
  have hsplit := congrArg List.length (newcomers_append []
    (pathStudents tree none ["a.txt"]) (pathStudents tree none ["b.txt"]))
  rw [← pathStudents_append, List.length_append, hfront] at hsplit
  refine ⟨hfront, ?_, hboth⟩
  rw [hids, newcomers_congr htaken]
  exact Nat.add_left_cancel (hsplit.symm.trans hboth)

/-- An empty roster grows by the students of both files, and what is told is their number in 32
bits. -/
theorem load_crowd {front back : Nat} (h : front + back < 2 ^ 32) :
    let loaded := Roster.empty.load (crowd front back) ["a.txt", "b.txt"] none
    loaded.1.size = front + back ∧
      loaded.2.notes.getLast? = some (.loaded (.ofNat (front + back))) := by
  intro loaded
  obtain ⟨-, -, hcame⟩ := length_newcomers_crowd h
  have hnone : Roster.empty.ids = [] := rfl
  constructor
  · rw [Roster.size_load, hnone, hcame]
    exact Nat.zero_add _
  · rw [Roster.getLast?_notes_load, hnone, hcame]

end StudentRoster
