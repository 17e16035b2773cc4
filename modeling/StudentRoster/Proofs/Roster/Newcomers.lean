import StudentRoster.Roster

/-!
# Newcomers and latecomers

Of the students that are offered to a roster one after the other, a latecomer is one whose id is
taken already, by the roster or by a student offered before it; the others are newcomers. Both are
picked by their place among those offered, and share their laws (`sift`). `newcomers_cons` and
`latecomers_cons` are the steps by which a loop that looks only at the ids taken so far computes
them.
-/

set_option autoImplicit false

namespace StudentRoster

/-- Whether a student at a place among those offered finds its id taken. -/
def isLate (taken : List Int32) (offered : List Student) (entry : Student × Nat) : Bool :=
  taken.contains entry.1.id || ((offered.take entry.2).map (·.id)).contains entry.1.id

/-- The students whose id is neither taken nor carried by a student offered before. -/
def newcomers (taken : List Int32) (offered : List Student) : List Student :=
  (offered.zipIdx.filter fun entry => !isLate taken offered entry).map Prod.fst

/-- The students whose id is taken or carried by a student offered before. -/
def latecomers (taken : List Int32) (offered : List Student) : List Student :=
  (offered.zipIdx.filter (isLate taken offered)).map Prod.fst

/-- What the two have in common: a test decides on those that are late and on those that are not. -/
def sift (test : Bool → Bool) (taken : List Int32) (offered : List Student) : List Student :=
  (offered.zipIdx.filter fun entry => test (isLate taken offered entry)).map Prod.fst

/-- The newcomers are those that are not late. -/
theorem newcomers_eq_sift : newcomers = sift not := rfl

/-- The latecomers are those that are late. -/
theorem latecomers_eq_sift : latecomers = sift id := rfl

section steps

variable (test : Bool → Bool) (taken : List Int32) (student : Student) (rest : List Student)

/-- The first student is late if the id was taken before any was offered. -/
theorem isLate_cons_zero :
    isLate taken (student :: rest) (student, 0) = taken.contains student.id := by
  simp [isLate]

/-- Behind the first student offered, its id counts as taken. -/
theorem isLate_cons_succ (entry : Student × Nat) :
    isLate taken (student :: rest) (entry.1, entry.2 + 1) =
      isLate (student.id :: taken) rest entry := by
  simp only [isLate, List.take_succ_cons, List.map_cons, List.contains_cons]
  cases entry.1.id == student.id <;> cases taken.contains entry.1.id <;> rfl

/-- The first student is picked by the ids taken, and its own id is then taken for the rest. -/
theorem sift_cons : sift test taken (student :: rest) =
    (if test (taken.contains student.id) then [student] else []) ++
      sift test (student.id :: taken) rest := by
  have hzip : (student :: rest).zipIdx =
      (student, 0) :: rest.zipIdx.map fun entry => (entry.1, entry.2 + 1) := by
    rw [List.zipIdx_cons, List.zipIdx_succ]
  have htail : ((fun entry => test (isLate taken (student :: rest) entry)) ∘
      fun entry : Student × Nat => (entry.1, entry.2 + 1)) =
      fun entry => test (isLate (student.id :: taken) rest entry) := by
    funext entry
    rw [Function.comp_apply, isLate_cons_succ]
  rw [sift, hzip, List.filter_cons, List.filter_map, isLate_cons_zero, htail]
  cases test (taken.contains student.id) <;> simp [sift, Function.comp_def]

/-- The first student is a newcomer unless the id is taken. -/
theorem newcomers_cons : newcomers taken (student :: rest) =
    (if student.id ∈ taken then [] else [student]) ++ newcomers (student.id :: taken) rest := by
  rw [newcomers_eq_sift, sift_cons]
  by_cases h : student.id ∈ taken <;> simp [h]

/-- The first student is a latecomer if the id is taken. -/
theorem latecomers_cons : latecomers taken (student :: rest) =
    (if student.id ∈ taken then [student] else []) ++ latecomers (student.id :: taken) rest := by
  rw [latecomers_eq_sift, sift_cons]
  by_cases h : student.id ∈ taken <;> simp [h]

end steps

/-- Where no student is offered none comes. -/
@[simp] theorem newcomers_nil (taken : List Int32) : newcomers taken [] = [] := rfl

/-- Where no student is offered none is late. -/
@[simp] theorem latecomers_nil (taken : List Int32) : latecomers taken [] = [] := rfl

section laws

variable {taken other : List Int32}

/-- Only the set of the ids taken matters. -/
theorem sift_congr (h : ∀ id, id ∈ taken ↔ id ∈ other) (test : Bool → Bool)
    (offered : List Student) : sift test taken offered = sift test other offered := by
  have hlate : isLate taken offered = isLate other offered := by
    funext entry
    have hcontains : taken.contains entry.1.id = other.contains entry.1.id :=
      Bool.eq_iff_iff.mpr (by simpa using h entry.1.id)
    rw [isLate, isLate, hcontains]
  rw [sift, sift, hlate]

/-- Who comes depends only on which ids are taken, not on their order. -/
theorem newcomers_congr (h : ∀ id, id ∈ taken ↔ id ∈ other) (offered : List Student) :
    newcomers taken offered = newcomers other offered :=
  sift_congr h not offered

/-- Who is late depends only on which ids are taken, not on their order. -/
theorem latecomers_congr (h : ∀ id, id ∈ taken ↔ id ∈ other) (offered : List Student) :
    latecomers taken offered = latecomers other offered :=
  sift_congr h id offered

variable (taken)

/-- What is offered first takes its ids from what is offered later. -/
theorem sift_append (test : Bool → Bool) (front back : List Student) :
    sift test taken (front ++ back) =
      sift test taken front ++ sift test (taken ++ front.map (·.id)) back := by
  induction front generalizing taken with
  | nil => simp [sift]
  | cons student rest ih =>
    have hback : sift test (student.id :: taken ++ rest.map (·.id)) back =
        sift test (taken ++ (student :: rest).map (·.id)) back :=
      sift_congr (fun id => by simp [or_left_comm]) test back
    rw [List.cons_append, sift_cons, sift_cons, ih, hback, List.append_assoc]

/-- For the second part of what is offered the ids of the first part are taken. -/
theorem newcomers_append (front back : List Student) :
    newcomers taken (front ++ back) =
      newcomers taken front ++ newcomers (taken ++ front.map (·.id)) back :=
  sift_append taken not front back

/-- The latecomers of the second part are late also by the ids of the first part. -/
theorem latecomers_append (front back : List Student) :
    latecomers taken (front ++ back) =
      latecomers taken front ++ latecomers (taken ++ front.map (·.id)) back :=
  sift_append taken id front back

/-- A change that keeps ids keeps who is late. -/
theorem sift_map (test : Bool → Bool) {change : Student → Student}
    (h : ∀ student, (change student).id = student.id) (offered : List Student) :
    sift test taken (offered.map change) = (sift test taken offered).map change := by
  induction offered generalizing taken with
  | nil => rfl
  | cons student rest ih =>
    rw [List.map_cons, sift_cons, sift_cons, h, ih, List.map_append]
    cases test (taken.contains student.id) <;> rfl

/-- A change that keeps the ids changes the newcomers and not who they are. -/
theorem newcomers_map {change : Student → Student} (h : ∀ student, (change student).id = student.id)
    (offered : List Student) :
    newcomers taken (offered.map change) = (newcomers taken offered).map change :=
  sift_map taken not h offered

/-- A change that keeps the ids changes the latecomers and not who they are. -/
theorem latecomers_map {change : Student → Student}
    (h : ∀ student, (change student).id = student.id)
    (offered : List Student) :
    latecomers taken (offered.map change) = (latecomers taken offered).map change :=
  sift_map taken id h offered

/-- Everyone offered is a newcomer or a latecomer. -/
theorem length_newcomers_add_length_latecomers (offered : List Student) :
    (newcomers taken offered).length + (latecomers taken offered).length = offered.length := by
  induction offered generalizing taken with
  | nil => rfl
  | cons student rest ih =>
    have hrest := ih (student.id :: taken)
    rw [newcomers_cons, latecomers_cons]
    by_cases h : student.id ∈ taken <;> simp [h] <;> omega

/-- With the newcomers all ids that were offered are taken, and no others. -/
theorem mem_ids_newcomers (offered : List Student) (id : Int32) :
    id ∈ taken ∨ id ∈ (newcomers taken offered).map (·.id) ↔
      id ∈ taken ∨ id ∈ offered.map (·.id) := by
  induction offered generalizing taken with
  | nil => rfl
  | cons student rest ih =>
    have hrest := ih (student.id :: taken)
    simp only [List.mem_cons] at hrest
    rw [newcomers_cons, List.map_append, List.mem_append, List.map_cons, List.mem_cons]
    by_cases h : student.id ∈ taken
    · -- the id is taken, so that taking it again changes nothing
      have htaken : id = student.id ∨ id ∈ taken ↔ id ∈ taken :=
        or_iff_right_of_imp fun hid => hid ▸ h
      rw [htaken] at hrest
      simp only [if_pos h, List.map_nil, List.not_mem_nil, false_or]
      rw [hrest, or_left_comm, ← or_assoc, htaken]
    · simp only [if_neg h, List.map_singleton, List.mem_singleton]
      rw [or_left_comm, ← or_assoc, hrest, or_assoc, or_left_comm]

/-- The id of a newcomer was not taken. -/
theorem not_mem_of_mem_newcomers {taken : List Int32} {offered : List Student} {student : Student}
    (h : student ∈ newcomers taken offered) : student.id ∉ taken := by
  induction offered generalizing taken with
  | nil => simp at h
  | cons first rest ih =>
    rw [newcomers_cons, List.mem_append] at h
    rcases h with hfirst | hrest
    · split at hfirst
      · simp at hfirst
      · rw [List.mem_singleton.mp hfirst]
        assumption
    · exact fun htaken => ih hrest (List.mem_cons_of_mem first.id htaken)

/-- The ids of newcomers are the ids offered that are not taken, each once and in the order in which
they come first. -/
theorem ids_newcomers (offered : List Student) :
    (newcomers taken offered).map (·.id) =
      ((offered.map (·.id)).filter fun id => !taken.contains id).eraseDups := by
  induction offered generalizing taken with
  | nil => rfl
  | cons student rest ih =>
    have hskip : (fun id => !(student.id :: taken).contains id) =
        fun id => (!id == student.id) && !taken.contains id := by
      funext id
      rw [List.contains_cons, Bool.not_or]
    rw [newcomers_cons, List.map_append, ih, List.map_cons, List.filter_cons, hskip]
    by_cases h : student.id ∈ taken
    · have hsame : (fun id => (!id == student.id) && !taken.contains id) =
          fun id => !taken.contains id := by
        funext id
        by_cases hid : id = student.id <;> simp [hid, h]
      rw [hsame, if_pos h, if_neg (by simpa using h)]
      rfl
    · rw [if_neg h, if_pos (by simpa using h), List.eraseDups_cons, List.filter_filter]
      rfl

/-- The ids of the newcomers are those offered that were not taken. -/
theorem mem_ids_newcomers_iff (offered : List Student) (id : Int32) :
    id ∈ (newcomers taken offered).map (·.id) ↔ id ∈ offered.map (·.id) ∧ id ∉ taken := by
  rw [ids_newcomers, List.mem_eraseDups, List.mem_filter]
  simp

/-- Nobody comes when all ids are taken. -/
theorem newcomers_eq_nil {offered : List Student} (h : ∀ student ∈ offered, student.id ∈ taken) :
    newcomers taken offered = [] := by
  apply List.eq_nil_iff_forall_not_mem.mpr
  intro student hstudent
  have hid : student.id ∈ (newcomers taken offered).map (·.id) := List.mem_map_of_mem hstudent
  obtain ⟨hoffered, hfresh⟩ := (mem_ids_newcomers_iff taken offered student.id).mp hid
  obtain ⟨other, hother, heq⟩ := List.mem_map.mp hoffered
  exact hfresh (heq ▸ h other hother)

/-- When all ids are taken everybody is late. -/
theorem latecomers_eq_self {offered : List Student}
    (h : ∀ student ∈ offered, student.id ∈ taken) : latecomers taken offered = offered := by
  induction offered generalizing taken with
  | nil => rfl
  | cons student rest ih =>
    obtain ⟨hfirst, hrest⟩ := List.forall_mem_cons.mp h
    have htail := ih (student.id :: taken) fun other hother =>
      List.mem_cons_of_mem _ (hrest other hother)
    rw [latecomers_cons, if_pos hfirst, htail, List.singleton_append]

/-- A newcomer is the first of its id among those offered. -/
theorem find?_of_mem_newcomers {taken : List Int32} {offered : List Student} {student : Student}
    (h : student ∈ newcomers taken offered) :
    offered.find? (·.id == student.id) = some student := by
  induction offered generalizing taken with
  | nil => simp at h
  | cons first rest ih =>
    rw [newcomers_cons, List.mem_append] at h
    rcases h with hfirst | hrest
    · split at hfirst
      · simp at hfirst
      · rw [List.mem_singleton.mp hfirst]
        simp
    · have hne : first.id ≠ student.id := by
        have := not_mem_of_mem_newcomers hrest
        simp only [List.mem_cons, not_or] at this
        exact fun heq => this.1 heq.symm
      rw [List.find?_cons_of_neg (by simpa using hne), ih hrest]

end laws

end StudentRoster
