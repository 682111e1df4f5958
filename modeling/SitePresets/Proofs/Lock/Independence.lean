import Mathlib.Data.List.Induction
import SitePresets.Proofs.Lock.Responses

/-!
# Targets do not know of each other

The locks of one target are as they were if only the tasks of that target had taken steps.
-/

namespace SitePresets.Locks

open Lock

variable {steps whole : List Step} {step : Step} {task target other : String}
  {locks apart after : Locks} {turn : Turn}

/-- Locks as they are on one target, and no others. -/
structure IsPartOf (apart locks : Locks) (isOn : String → Bool) (target : String) : Prop where
  patience_eq : apart.patience = locks.patience
  queue_eq : apart.queue target = locks.queue target
  acquired_eq : apart.acquired = locks.acquired.filter isOn
  ended_eq : ∀ task, isOn task → apart.ended.get? task = locks.ended.get? task

theorem Step.task_of_asked {row : String × String} (h : step.asked? = some row) :
    row.1 = step.task := by
  cases step with
  | hold task target timeout => exact congrArg Prod.fst (Option.some.inj h).symm
  | release | cancel | expire => cases h

/-- A task asks for the same target if other tasks take no steps. -/
theorem home_filter (isOn : String → Bool) (htask : isOn task) (steps : List Step) :
    home? (steps.filter fun step => isOn step.task) task = home? steps task := by
  induction steps with
  | nil => rfl
  | cons step rest ih =>
    rw [List.filter_cons, ← List.singleton_append (l := rest), home_append]
    split
    · rw [← List.singleton_append, home_append, ih]
    · rename_i hoff
      have hnone : home? [step] task = none := by
        cases hhome : home? [step] task with
        | none => rfl
        | some found =>
          have hrow := Table.mem_of_find?_eq_some hhome
          obtain ⟨asking, hasking, hasked⟩ := List.mem_filterMap.1 hrow
          rw [List.mem_singleton.1 hasking] at hasked
          have heq : task = step.task := Step.task_of_asked hasked
          rw [← heq] at hoff
          exact absurd htask hoff
      rw [ih, hnone, Option.none_or]

namespace Passes

variable {isOn : String → Bool} (h : Passes steps locks step target turn after)

include h

/-- The target of the task of a step is the one that the step concerns. -/
theorem home_task : home? (steps ++ [step]) step.task = some target := by
  rcases h.tracks.concerned_eq_some.1 h.concerned with ⟨htask, -⟩ | ⟨hasked, hnew⟩
  · exact home_mono (h.tracks.home_of_queued htask)
  · rw [home_of_new hasked hnew, if_pos rfl]

/-- A turn on another target changes nothing on this one. -/
theorem isPartOf_of_ne (hpart : apart.IsPartOf locks isOn other)
    (hon : ∀ task home, home? (steps ++ [step]) task = some home → (isOn task ↔ home = other))
    (hne : target ≠ other) : apart.IsPartOf after isOn other := by
  have hoff (task : String) (hhome : home? (steps ++ [step]) task = some target) :
      ¬ isOn task := fun htask => hne ((hon task target hhome).1 htask)
  refine ⟨hpart.patience_eq.trans h.takes.patience_eq.symm, ?_, ?_, fun task htask => ?_⟩
  · rw [h.takes.queue_eq, if_neg (Ne.symm hne)]
    exact hpart.queue_eq
  · have hgained : turn.gained.filter isOn = [] :=
      List.filter_eq_nil_iff.2 fun task htask =>
        hoff task (h.fresh_of_waited (h.waited_of_gained htask)).2.2
    rw [h.takes.acquired_eq, List.filter_append, hgained, List.append_nil]
    exact hpart.acquired_eq
  · have hended : Table.find? task turn.ended.reverse = none := by
      rw [← Option.not_isSome_iff_eq_none, Table.find?_isSome_iff, List.map_reverse,
        List.mem_reverse]
      exact fun hended => hoff task (h.home_of_turn (.inr hended)) htask
    rw [h.takes.ended_eq, hended, Option.none_or]
    exact hpart.ended_eq task htask

/-- The same turn on both makes the same of this target. -/
theorem isPartOf_of_eq {apartAfter : Locks} (hpart : apart.IsPartOf locks isOn target)
    (hon : ∀ task, home? (steps ++ [step]) task = some target → isOn task)
    (htakes : apart.Takes target turn apartAfter) : apartAfter.IsPartOf after isOn target := by
  refine ⟨?_, ?_, ?_, fun task htask => ?_⟩
  · rw [htakes.patience_eq, h.takes.patience_eq, hpart.patience_eq]
  · rw [htakes.queue_eq, h.takes.queue_eq, if_pos rfl, if_pos rfl]
  · have hgained : turn.gained.filter isOn = turn.gained :=
      List.filter_eq_self.2 fun task htask =>
        hon task (h.fresh_of_waited (h.waited_of_gained htask)).2.2
    rw [htakes.acquired_eq, h.takes.acquired_eq, List.filter_append, hgained, hpart.acquired_eq]
  · rw [htakes.ended_eq, h.takes.ended_eq, hpart.ended_eq task htask]

end Passes

namespace Tracks

variable {isOn : String → Bool}

/-- A step of a task of the target finds the same there in both. -/
theorem concerned_eq (h : Tracks steps locks)
    (h' : Tracks (steps.filter fun step => isOn step.task) apart)
    (hpart : apart.IsPartOf locks isOn target)
    (hon : ∀ task home, home? steps task = some home → (isOn task ↔ home = target))
    (htask : isOn step.task) : apart.concerned? step = locks.concerned? step := by
  have hhome := home_filter isOn htask steps
  have htasks (other : String) :
      step.task ∈ apart.tasks other ↔ step.task ∈ locks.tasks other := by
    by_cases hother : other = target
    · unfold tasks
      rw [hother, hpart.queue_eq]
    · have hoff (hqueued : home? steps step.task = some other) : False :=
        hother ((hon step.task other hqueued).1 htask)
      refine iff_of_false (fun hqueued => hoff ?_) (fun hqueued => hoff (h.home_of_queued hqueued))
      rw [← hhome]
      exact h'.home_of_queued hqueued
  refine Option.ext fun other => ?_
  rw [h.concerned_eq_some, h'.concerned_eq_some, hhome, htasks]

/-- A step of a task of the target is taken by both, and one of another task leaves the target alone. -/
theorem isPartOf_step (h : Tracks steps locks)
    (h' : Tracks (steps.filter fun step => isOn step.task) apart)
    (hpart : apart.IsPartOf locks isOn target)
    (hon : ∀ task home, home? (steps ++ [step]) task = some home → (isOn task ↔ home = target)) :
    (if isOn step.task then apart.step step else apart).IsPartOf (locks.step step) isOn target := by
  have hsame (htask : isOn step.task) : apart.concerned? step = locks.concerned? step :=
    h.concerned_eq h' hpart (fun task home hhome => hon task home (home_mono hhome)) htask
  cases hstep : locks.concerned? step with
  | none =>
    rw [step_of_concerned_none hstep]
    split
    · rename_i htask
      rw [step_of_concerned_none ((hsame htask).trans hstep)]
      exact hpart
    · exact hpart
  | some concerned =>
    have hpasses := h.passes hstep
    have htarget : isOn step.task ↔ concerned = target := hon _ _ hpasses.home_task
    split
    · rename_i htask
      have htakes := takes_step ((hsame htask).trans hstep)
      obtain rfl := htarget.1 htask
      rw [hpart.queue_eq, hpart.patience_eq] at htakes
      exact hpasses.isPartOf_of_eq hpart (fun task hhome => (hon task _ hhome).2 rfl) htakes
    · rename_i htask
      exact hpasses.isPartOf_of_ne hpart hon fun heq => htask (htarget.2 heq)

/-- The steps of the other tasks leave no trace on a target. -/
theorem isPartOf_run (patience : Int) (steps : List Step)
    (hon : ∀ task home, home? steps task = some home → (isOn task ↔ home = target)) :
    ((Locks.empty patience).run (steps.filter fun step => isOn step.task)).IsPartOf
      ((Locks.empty patience).run steps) isOn target := by
  -- From the end, since the steps before one tell whose task it is.
  induction steps using List.reverseRecOn with
  | nil => exact ⟨rfl, rfl, rfl, fun _ _ => rfl⟩
  | append_singleton steps step ih =>
    have hpart := ih fun task home hhome => hon task home (home_mono hhome)
    have hstep := isPartOf_step (of_run patience steps) (of_run patience _) hpart hon
    rw [run_concat, List.filter_append, List.filter_singleton]
    cases htask : isOn step.task with
    | false =>
      rw [htask, if_neg Bool.false_ne_true] at hstep
      rwa [cond_false, List.append_nil]
    | true =>
      rw [htask, if_pos rfl] at hstep
      rwa [cond_true, run_concat]

/-- A task of the target is in the same state in both. -/
theorem state_eq_of_isPartOf {more : List Step} (h : Tracks steps locks) (h' : Tracks more apart)
    (hpart : apart.IsPartOf locks isOn target) (htask : isOn task)
    (hhome : ∀ {other}, home? steps task = some other ∨ home? more task = some other →
      other = target) : apart.state? task = locks.state? task := by
  refine h.state_congr h' (hpart.ended_eq task htask) fun other hqueued => ?_
  have hother : other = target :=
    hhome (hqueued.imp h.home_of_queued h'.home_of_queued)
  unfold tasks
  rw [hother, hpart.queue_eq]

end Tracks

end SitePresets.Locks
