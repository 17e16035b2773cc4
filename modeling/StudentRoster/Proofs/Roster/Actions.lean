import Mathlib.Algebra.GroupWithZero.Nat
import Mathlib.Data.List.DropRight
import StudentRoster.Casing
import StudentRoster.Proofs.Roster.LookUp

/-!
# Runs of a roster

A roster is changed by a sequence of actions, each of which gives an answer. A run keeps the history
of actions and answers, and the size of a roster is read off that history: it is what came in less
what was taken out since the roster was last cleared (`size_run`).
-/

set_option autoImplicit false

namespace StudentRoster

/-! ## Runs -/

section runs

variable {σ τ α β : Type}

/-- The state after a sequence of actions, and each action with its answer. -/
def runActions (act : σ → α → σ × β) (state : σ) : List α → σ × List (α × β)
  | [] => (state, [])
  | action :: rest =>
    let step := act state action
    let run := runActions act step.1 rest
    (run.1, (action, step.2) :: run.2)

variable (act : σ → α → σ × β)

/-- A run may be cut in two, where the second part goes on from the state of the first. -/
theorem runActions_append (state : σ) (front back : List α) :
    runActions act state (front ++ back) =
      ((runActions act (runActions act state front).1 back).1,
        (runActions act state front).2 ++
          (runActions act (runActions act state front).1 back).2) := by
  induction front generalizing state with
  | nil => rfl
  | cons action rest ih =>
    simp only [List.cons_append, runActions, ih]

/-- Two systems whose single steps give the same answers and stay related do so over a run. -/
theorem runActions_simulates {act : σ → α → σ × β} {other : τ → α → τ × β} {Related : σ → τ → Prop}
    (step : ∀ {state : σ} {image : τ}, Related state image → ∀ action,
      Related (act state action).1 (other image action).1 ∧
        (act state action).2 = (other image action).2)
    {state : σ} {image : τ} (h : Related state image) (actions : List α) :
    Related (runActions act state actions).1 (runActions other image actions).1 ∧
      (runActions act state actions).2 = (runActions other image actions).2 := by
  induction actions generalizing state image with
  | nil => exact ⟨h, rfl⟩
  | cons action rest ih =>
    obtain ⟨hnext, hanswer⟩ := step h action
    obtain ⟨hlast, hhistory⟩ := ih hnext
    refine ⟨hlast, ?_⟩
    simp only [runActions, hanswer, hhistory]

/-- Two systems whose single steps stay related and give answers that are alike do so over a run of
allowed actions. -/
theorem runActions_relates {act : σ → α → σ × β} {other : τ → α → τ × β} {Related : σ → τ → Prop}
    {Alike : β → β → Prop} {Allowed : α → Prop}
    (step : ∀ {state : σ} {image : τ}, Related state image → ∀ {action}, Allowed action →
      Related (act state action).1 (other image action).1 ∧
        Alike (act state action).2 (other image action).2)
    {state : σ} {image : τ} (h : Related state image) {actions : List α}
    (hallowed : ∀ action ∈ actions, Allowed action) :
    Related (runActions act state actions).1 (runActions other image actions).1 ∧
      List.Forall₂ (fun entry other => entry.1 = other.1 ∧ Alike entry.2 other.2)
        (runActions act state actions).2 (runActions other image actions).2 := by
  induction actions generalizing state image with
  | nil => exact ⟨h, .nil⟩
  | cons action rest ih =>
    obtain ⟨hfirst, hrest⟩ := List.forall_mem_cons.mp hallowed
    obtain ⟨hnext, hanswer⟩ := step h hfirst
    obtain ⟨hlast, hhistory⟩ := ih hnext hrest
    exact ⟨hlast, .cons ⟨rfl, hanswer⟩ hhistory⟩

end runs

/-! ## Actions on a roster -/

/-- An action on a roster. -/
inductive RosterAction where
  | insert (student : Student)
  | enroll (student : Student)
  | insertAll (students : List Student)
  | take (id : Int32)
  | clear
  | recase (casing : Casing)
  deriving DecidableEq, Repr

/-- What an action answers. -/
inductive RosterAnswer where
  | done
  | refused (failure : Failure)
  /-- The student that was taken out, if there was one. -/
  | taken (student? : Option Student)
  deriving DecidableEq, Repr

/-- The roster after an action, and the answer. What is refused or finds no one changes nothing. -/
def Roster.act (roster : Roster) : RosterAction → Roster × RosterAnswer
  | .insert student => (roster.insert student, .done)
  | .enroll student =>
    match roster.enroll student with
    | .ok next => (next, .done)
    | .error failure => (roster, .refused failure)
  | .insertAll students => (roster.insertAll students, .done)
  | .take id =>
    match roster.take? id with
    | some (student, next) => (next, .taken (some student))
    | none => (roster, .taken none)
  | .clear => (roster.clear, .done)
  | .recase casing => (roster.recase casing, .done)

/-- The number of students that an action brought. -/
def broughtIn : RosterAction × RosterAnswer → Nat
  | (.insert _, .done) => 1
  | (.enroll _, .done) => 1
  | (.insertAll students, .done) => students.length
  | _ => 0

/-- The number of students that an action took out. -/
def takenOut : RosterAction × RosterAnswer → Nat
  | (.take _, .taken (some _)) => 1
  | _ => 0

/-- What happened after the roster was last cleared; all of it when it never was. -/
def sinceClear (history : List (RosterAction × RosterAnswer)) :
    List (RosterAction × RosterAnswer) :=
  history.rtakeWhile fun entry => entry.1 ≠ .clear

/-- One more entry is kept behind the last clearing, unless it is one. -/
theorem sinceClear_concat (history : List (RosterAction × RosterAnswer))
    (entry : RosterAction × RosterAnswer) :
    sinceClear (history ++ [entry]) =
      if entry.1 = .clear then [] else sinceClear history ++ [entry] := by
  rw [sinceClear, List.rtakeWhile_concat]
  by_cases h : entry.1 = .clear <;> simp [h, sinceClear]

namespace Roster

/-- One student more is one more. -/
theorem size_insert (roster : Roster) (student : Student) :
    (roster.insert student).size = roster.size + 1 := by
  simp [size, insert]

/-- A student that is taken out is one less. -/
theorem size_of_take?_eq_some {roster rest : Roster} {id : Int32} {student : Student}
    (h : roster.take? id = some (student, rest)) : rest.size + 1 = roster.size := by
  by_cases hid : id ∈ roster.ids
  · obtain ⟨newer, newest, older, hsplit⟩ := exists_isSplit hid
    rw [take?_of_split hsplit, Option.some.injEq, Prod.mk.injEq] at h
    rw [← h.2, ← length_students roster, hsplit.students_eq]
    simp only [size, List.size_toArray, List.length_append, List.length_reverse, List.length_cons]
    omega
  · rw [take?_of_not_mem_ids hid] at h
    cases h

/-- What one action does to the size. -/
theorem size_act (roster : Roster) (action : RosterAction) :
    (roster.act action).1.size + takenOut (action, (roster.act action).2) =
      if action = .clear then 0
      else roster.size + broughtIn (action, (roster.act action).2) := by
  cases action with
  | insert student => simp [act, takenOut, broughtIn, size_insert]
  | enroll student =>
    rw [act, enroll]
    by_cases h : roster.contains student.id = true
    · simp [h, takenOut, broughtIn]
    · simp [h, takenOut, broughtIn, size_insert]
  | insertAll students => simp [act, takenOut, broughtIn, size_insertAll]
  | take id =>
    rw [act]
    cases h : roster.take? id with
    | none => simp [takenOut, broughtIn]
    | some answer => simp [takenOut, broughtIn, size_of_take?_eq_some h]
  | clear => rfl
  | recase casing => simp [act, takenOut, broughtIn, size, recase]

/-- After a run, the size with what was taken out since the roster was last cleared is what came in
since then; from a roster that was never cleared, what it held at first counts too. -/
theorem size_run (roster : Roster) (actions : List RosterAction) :
    (runActions act roster actions).1.size +
        ((sinceClear (runActions act roster actions).2).map takenOut).sum =
      (if .clear ∈ actions then 0 else roster.size) +
        ((sinceClear (runActions act roster actions).2).map broughtIn).sum := by
  induction actions using List.reverseRecOn with
  | nil => rfl
  | append_singleton front action ih =>
    have hstep := size_act (runActions act roster front).1 action
    rw [runActions_append]
    simp only [runActions, sinceClear_concat]
    by_cases h : action = .clear
    · subst h
      have hsize : (act (runActions act roster front).1 .clear).1.size = 0 := rfl
      simp [hsize]
    · have hmem : RosterAction.clear ∈ front ++ [action] ↔ RosterAction.clear ∈ front := by
        simp [Ne.symm h]
      simp only [h, if_false, hmem, List.map_append, List.map_singleton, List.sum_append,
        List.sum_singleton] at hstep ⊢
      omega

end Roster

end StudentRoster
