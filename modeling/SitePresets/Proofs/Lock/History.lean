import SitePresets.Proofs.Grouping
import SitePresets.Proofs.Lock.Turn

/-!
# The history of locks

Which target each task asked for, and the tasks of each target in the order in which they came, as the steps
so far tell it.
-/

namespace SitePresets.Locks

variable {steps more : List Step} {step : Step} {task other target : String}

/-- The target of a task: the one that it asks for first. -/
def home? (steps : List Step) (task : String) : Option String :=
  Table.find? task (steps.filterMap Step.asked?)

/-- The tasks that ask for a target, in the order in which they come. -/
def arrivals (steps : List Step) (target : String) : List String :=
  ((steps.filterMap Step.asked?).map Prod.fst).eraseDups.filter fun task =>
    home? steps task = some target

theorem home_append (steps more : List Step) (task : String) :
    home? (steps ++ more) task = (home? steps task).or (home? more task) := by
  unfold home?
  rw [List.filterMap_append, Table.find?_append]

theorem home_mono (h : home? steps task = some target) :
    home? (steps ++ more) task = some target := by
  rw [home_append, h, Option.some_or]

theorem home_isSome_iff :
    (home? steps task).isSome ↔ task ∈ (steps.filterMap Step.asked?).map Prod.fst :=
  Table.find?_isSome_iff

theorem mem_arrivals : task ∈ arrivals steps target ↔ home? steps task = some target := by
  unfold arrivals
  rw [List.mem_filter, List.mem_eraseDups, decide_eq_true_iff, and_iff_right_iff_imp]
  intro h
  exact home_isSome_iff.1 (h ▸ rfl)

theorem nodup_arrivals (steps : List Step) (target : String) : (arrivals steps target).Nodup :=
  (Grouping.nodup_eraseDups _).filter _

/-- A step that brings no task, or one that came before, adds nothing to the history. -/
theorem home_of_idle (hidle : ∀ row, step.asked? = some row → (home? steps row.1).isSome)
    (task : String) : home? (steps ++ [step]) task = home? steps task := by
  rw [home_append]
  cases hasked : step.asked? with
  | none =>
    have hnone : home? [step] task = none := by
      unfold home?
      rw [List.filterMap_cons_none hasked]
      rfl
    rw [hnone, Option.or_none]
  | some row =>
    obtain ⟨other, target⟩ := row
    by_cases heq : other = task
    · obtain ⟨home, hhome⟩ := Option.isSome_iff_exists.1 (hidle _ hasked)
      rw [← heq, hhome, Option.some_or]
    · have hnone : home? [step] task = none := by
        unfold home?
        rw [List.filterMap_cons_some hasked, Table.find?, if_neg heq]
        rfl
      rw [hnone, Option.or_none]

theorem arrivals_of_idle (hidle : ∀ row, step.asked? = some row → (home? steps row.1).isSome)
    (target : String) : arrivals (steps ++ [step]) target = arrivals steps target := by
  unfold arrivals
  simp only [home_of_idle hidle]
  congr 1
  rw [List.filterMap_append, List.map_append, List.eraseDups_append]
  cases hasked : step.asked? with
  | none =>
    rw [List.filterMap_cons_none hasked]
    exact List.append_nil _
  | some row =>
    have hmem := home_isSome_iff.1 (hidle _ hasked)
    rw [List.filterMap_cons_some hasked]
    simp [List.removeAll, hmem]

/-- A step that brings a new task adds it to the tasks of its target. -/
theorem home_of_new (hasked : step.asked? = some (task, target)) (hnew : home? steps task = none)
    (other : String) :
    home? (steps ++ [step]) other = if other = task then some target else home? steps other := by
  have hstep : home? [step] other = if task = other then some target else none := by
    unfold home?
    rw [List.filterMap_cons_some hasked]
    rfl
  rw [home_append, hstep]
  by_cases heq : other = task
  · rw [if_pos heq, if_pos heq.symm, heq, hnew, Option.none_or]
  · rw [if_neg heq, if_neg (Ne.symm heq), Option.or_none]

theorem arrivals_of_new (hasked : step.asked? = some (task, target)) (hnew : home? steps task = none)
    (other : String) :
    arrivals (steps ++ [step]) other =
      arrivals steps other ++ if other = target then [task] else [] := by
  have hmem : task ∉ (steps.filterMap Step.asked?).map Prod.fst := fun hmem => by
    rw [← home_isSome_iff, hnew] at hmem
    cases hmem
  have hold : ((steps.filterMap Step.asked?).map Prod.fst).eraseDups.filter
      (fun asked => decide (home? (steps ++ [step]) asked = some other)) = arrivals steps other := by
    refine List.filter_congr fun asked hasked' => ?_
    have hne : asked ≠ task := fun heq => hmem (heq ▸ List.mem_eraseDups.1 hasked')
    rw [home_of_new hasked hnew, if_neg hne]
  have hbrought : ([step].filterMap Step.asked?).map Prod.fst = [task] := by
    rw [List.filterMap_cons_some hasked]
    rfl
  have hnovel : [task].removeAll ((steps.filterMap Step.asked?).map Prod.fst) = [task] := by
    simp [List.removeAll, hmem]
  conv => lhs; unfold arrivals
  rw [List.filterMap_append, List.map_append, List.eraseDups_append, List.filter_append, hold,
    hbrought, hnovel]
  congr 1
  show List.filter _ [task] = _
  rw [List.filter_cons, home_of_new hasked hnew, if_pos rfl, List.filter_nil]
  by_cases htarget : other = target
  · simp [htarget]
  · simp [htarget, Ne.symm htarget]

end SitePresets.Locks
