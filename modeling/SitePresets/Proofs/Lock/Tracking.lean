import SitePresets.Proofs.Lock.History

/-!
# Locks that have come about by steps

What the steps so far say about the locks: a task is in the queue of the target that it asked for until it
ends, and the tasks of a target get the lock in the order in which they asked, except for those that ended
before.
-/

namespace SitePresets.Locks

open Lock

variable {steps more : List Step} {step : Step} {task other target : String} {locks after : Locks}

/-- Whether a task ended without getting the lock. -/
def isPassedOver (locks : Locks) (task : String) : Bool :=
  task ∉ locks.acquired ∧ (locks.ended.get? task).isSome

/-- The tasks in the queue of a target. -/
def tasks (locks : Locks) (target : String) : List String :=
  (locks.queue target).map Waiter.task

/-- The tasks that wait for a target, in the order in which they are going to get it. -/
def waiters (locks : Locks) (target : String) : List String :=
  (locks.queue target).tail.map Waiter.task

/-- Locks that have come about by some steps. -/
structure Tracks (steps : List Step) (locks : Locks) : Prop where
  keys_nodup : locks.queues.keys.Nodup
  /-- A task is in the queue of the target that it asked for, or it has ended. -/
  home_of_queued : ∀ {target task}, task ∈ locks.tasks target → home? steps task = some target
  home_of_ended : ∀ {task ending}, locks.ended.get? task = some ending → (home? steps task).isSome
  queued_or_ended : ∀ {target task}, home? steps task = some target →
    task ∈ locks.tasks target ∨ (locks.ended.get? task).isSome
  active : ∀ {target task}, task ∈ locks.tasks target → locks.ended.get? task = none
  /-- Who holds a lock has got it, and was not asked to leave. -/
  willing : ∀ {target waiter}, (locks.queue target).head? = some waiter → waiter.exit = none
  holder : ∀ {target task}, locks.holder? target = some task → task ∈ locks.acquired
  left : ∀ {task exit}, locks.ended.get? task = some (.left exit) → task ∈ locks.acquired
  home_of_acquired : ∀ {task}, task ∈ locks.acquired → (home? steps task).isSome
  /-- Each target is taken in the order in which its tasks asked for it. -/
  order : ∀ target,
    (locks.acquired.filter fun task => home? steps task = some target) ++ locks.waiters target =
      (arrivals steps target).filter fun task => !locks.isPassedOver task

theorem mem_tasks : task ∈ locks.tasks target ↔ ∃ waiter ∈ locks.queue target, waiter.task = task :=
  List.mem_map

theorem tasks_of_holder (h : locks.holder? target = some task) :
    locks.tasks target = task :: locks.waiters target := by
  unfold holder? at h
  unfold tasks waiters
  cases hqueue : locks.queue target with
  | nil =>
    rw [hqueue] at h
    cases h
  | cons first rest =>
    rw [hqueue] at h
    rw [List.map_cons, ← Option.some.inj h]
    rfl

theorem tasks_of_free (h : locks.holder? target = none) : locks.tasks target = [] := by
  unfold holder? at h
  unfold tasks
  rw [List.head?_eq_none_iff.1 (Option.map_eq_none_iff.1 h), List.map_nil]

theorem waiters_subset : locks.waiters target ⊆ locks.tasks target := by
  unfold waiters tasks
  rw [List.map_tail]
  exact (List.tail_sublist _).subset

namespace Tracks

variable (h : Tracks steps locks)

include h

theorem eq_of_mem (htask : task ∈ locks.tasks target) (hother : task ∈ locks.tasks other) :
    other = target :=
  Option.some.inj ((h.home_of_queued hother).symm.trans (h.home_of_queued htask))

/-- A task is once among those that got the lock or wait for it. -/
theorem nodup_order (target : String) :
    ((locks.acquired.filter fun task => home? steps task = some target) ++
      locks.waiters target).Nodup := by
  rw [h.order]
  exact (nodup_arrivals steps target).filter _

theorem not_mem_acquired (htask : task ∈ locks.waiters target) : task ∉ locks.acquired := by
  intro hacquired
  have hhome := h.home_of_queued (waiters_subset htask)
  have hmem : task ∈ locks.acquired.filter fun task => home? steps task = some target :=
    List.mem_filter.2 ⟨hacquired, decide_eq_true hhome⟩
  exact (List.nodup_append.1 (h.nodup_order target)).2.2 task hmem task htask rfl

theorem nodup_tasks (target : String) : (locks.tasks target).Nodup := by
  cases hholder : locks.holder? target with
  | none =>
    rw [tasks_of_free hholder]
    exact List.nodup_nil
  | some task =>
    rw [tasks_of_holder hholder, List.nodup_cons]
    refine ⟨fun hwaits => h.not_mem_acquired hwaits (h.holder hholder), ?_⟩
    exact (List.nodup_append.1 (h.nodup_order target)).2.1

theorem targetOf_eq_some : locks.targetOf? task = some target ↔ task ∈ locks.tasks target := by
  have hfound {row : String × List Waiter}
      (hfind : (locks.queues.rows.find? fun row =>
        row.2.any fun waiter => waiter.task = task) = some row) : task ∈ locks.tasks row.1 := by
    have hget : locks.queues.get? row.1 = some row.2 :=
      (Table.mem_rows_iff h.keys_nodup).1 (List.mem_of_find?_eq_some hfind)
    have hany := List.find?_some hfind
    obtain ⟨waiter, hwaiter, hname⟩ := List.any_eq_true.1 hany
    refine mem_tasks.2 ⟨waiter, ?_, of_decide_eq_true hname⟩
    unfold queue
    rwa [hget]
  unfold targetOf?
  rw [Option.map_eq_some_iff]
  constructor
  · rintro ⟨row, hfind, rfl⟩
    exact hfound hfind
  · intro htask
    obtain ⟨waiter, hwaiter, hname⟩ := mem_tasks.1 htask
    have hrow : (target, locks.queue target) ∈ locks.queues.rows := by
      refine (Table.mem_rows_iff h.keys_nodup).2 ?_
      unfold queue at hwaiter ⊢
      cases hget : locks.queues.get? target with
      | none =>
        rw [hget] at hwaiter
        cases hwaiter
      | some waiters => rfl
    have hany : ((locks.queue target).any fun waiter => waiter.task = task) = true :=
      List.any_eq_true.2 ⟨waiter, hwaiter, decide_eq_true hname⟩
    cases hfind : locks.queues.rows.find? fun row => row.2.any fun waiter => waiter.task = task with
    | none => exact absurd hany (List.find?_eq_none.1 hfind _ hrow)
    | some row => exact ⟨row, rfl, h.eq_of_mem htask (hfound hfind)⟩

theorem isKnown_iff : locks.isKnown task ↔ (home? steps task).isSome := by
  unfold isKnown Table.contains
  rw [Bool.or_eq_true, Option.isSome_iff_exists, Option.isSome_iff_exists]
  constructor
  · rintro (⟨target, htarget⟩ | ⟨ending, hending⟩)
    · rw [h.home_of_queued (h.targetOf_eq_some.1 htarget)]
      rfl
    · exact h.home_of_ended hending
  · intro hhome
    obtain ⟨target, htarget⟩ := Option.isSome_iff_exists.1 hhome
    rcases h.queued_or_ended htarget with hqueued | hended
    · exact .inl ⟨target, h.targetOf_eq_some.2 hqueued⟩
    · exact .inr (Option.isSome_iff_exists.1 hended)

/-! ### One step -/

/-- A step concerns a target if its task is in the queue, or is new and asks for it. -/
theorem concerned_eq_some : locks.concerned? step = some target ↔
    (step.task ∈ locks.tasks target ∧ step.asked? = none) ∨
      step.asked? = some (step.task, target) ∧ home? steps step.task = none := by
  cases step with
  | hold task other timeout =>
    show (if locks.isKnown task then none else some other) = some target ↔
      (task ∈ locks.tasks target ∧ some (task, other) = none) ∨
        some (task, other) = some (task, target) ∧ home? steps task = none
    rw [← Option.not_isSome_iff_eq_none (o := home? steps task), ← h.isKnown_iff]
    by_cases hknown : locks.isKnown task = true <;> simp [hknown]
  | release task exit =>
    refine h.targetOf_eq_some.trans ⟨fun htask => .inl ⟨htask, rfl⟩, ?_⟩
    rintro (⟨htask, -⟩ | ⟨hasked, -⟩)
    · exact htask
    · cases hasked
  | cancel task | expire task =>
    refine h.targetOf_eq_some.trans ⟨fun htask => .inl ⟨htask, rfl⟩, ?_⟩
    rintro (⟨htask, -⟩ | ⟨hasked, -⟩)
    · exact htask
    · cases hasked

theorem idle_of_concerned_none (hstep : locks.concerned? step = none) :
    ∀ row, step.asked? = some row → (home? steps row.1).isSome := by
  intro row hrow
  cases step with
  | hold task other timeout =>
    have hstep : (if locks.isKnown task then none else some other) = none := hstep
    split at hstep
    · rename_i hknown
      rw [← Option.some.inj hrow]
      exact h.isKnown_iff.1 hknown
    · cases hstep
  | release | cancel | expire => cases hrow

/-- A step on a target adds the task that it brings to the tasks of the target. -/
theorem home_snoc (hstep : locks.concerned? step = some target) (other : String) :
    home? (steps ++ [step]) other =
      if other ∈ step.newcomers then some target else home? steps other := by
  unfold Step.newcomers
  rcases h.concerned_eq_some.1 hstep with ⟨-, hasked⟩ | ⟨hasked, hnew⟩
  · rw [home_of_idle (fun row hrow => nomatch hasked.symm.trans hrow), hasked]
    rfl
  · rw [home_of_new hasked hnew, hasked]
    simp

theorem arrivals_snoc (hstep : locks.concerned? step = some target) (other : String) :
    arrivals (steps ++ [step]) other =
      arrivals steps other ++ if other = target then step.newcomers else [] := by
  unfold Step.newcomers
  rcases h.concerned_eq_some.1 hstep with ⟨-, hasked⟩ | ⟨hasked, hnew⟩
  · rw [arrivals_of_idle (fun row hrow => nomatch hasked.symm.trans hrow), hasked]
    simp
  · rw [arrivals_of_new hasked hnew, hasked]
    rfl

theorem newcomer_new (hstep : locks.concerned? step = some target) (htask : task ∈ step.newcomers) :
    home? steps task = none := by
  unfold Step.newcomers at htask
  rcases h.concerned_eq_some.1 hstep with ⟨-, hasked⟩ | ⟨hasked, hnew⟩
  · rw [hasked] at htask
    cases htask
  · rw [hasked] at htask
    rwa [List.mem_singleton.1 htask]

theorem fair_turn (hstep : locks.concerned? step = some target) :
    Turn.Fair (locks.queue target) step.newcomers
      (.ofStep locks.patience target (locks.queue target) step) := by
  refine Turn.fair_ofStep locks.patience target (h.nodup_tasks target) (fun _ => h.willing) ?_
  rcases h.concerned_eq_some.1 hstep with ⟨htask, hasked⟩ | ⟨hasked, hnew⟩
  · exact iff_of_true htask hasked
  · refine iff_of_false (fun htask => ?_) (hasked ▸ Option.some_ne_none _)
    have hhome := h.home_of_queued htask
    rw [hnew] at hhome
    cases hhome

end Tracks

/-! ### Taking a turn -/

theorem isPassedOver_iff :
    locks.isPassedOver task ↔ task ∉ locks.acquired ∧ (locks.ended.get? task).isSome :=
  decide_eq_true_iff

namespace Takes

variable {turn : Turn} (h : locks.Takes target turn after)

include h

theorem ended_isSome_iff : (after.ended.get? task).isSome ↔
    task ∈ turn.ended.map Prod.fst ∨ (locks.ended.get? task).isSome := by
  rw [h.ended_eq, Option.isSome_or, Bool.or_eq_true, Table.find?_isSome_iff, List.map_reverse,
    List.mem_reverse]

theorem mem_acquired_iff : task ∈ after.acquired ↔ task ∈ locks.acquired ∨ task ∈ turn.gained := by
  rw [h.acquired_eq, List.mem_append]

end Takes

/-- What is known before a step on a target, and what the step does. -/
structure Passes (steps : List Step) (locks : Locks) (step : Step) (target : String) (turn : Turn)
    (after : Locks) : Prop where
  tracks : Tracks steps locks
  concerned : locks.concerned? step = some target
  fair : turn.Fair (locks.queue target) step.newcomers
  takes : locks.Takes target turn after

namespace Passes

variable {turn : Turn} (h : Passes steps locks step target turn after)

include h

theorem tasks_eq (other : String) : after.tasks other =
    if other = target then turn.queue.map Waiter.task else locks.tasks other := by
  unfold tasks
  rw [h.takes.queue_eq]
  split <;> rfl

theorem waiters_eq (other : String) : after.waiters other =
    if other = target then turn.queue.tail.map Waiter.task else locks.waiters other := by
  unfold waiters
  rw [h.takes.queue_eq]
  split <;> rfl

theorem home_of_turn
    (htask : task ∈ turn.queue.map Waiter.task ∨ task ∈ turn.ended.map Prod.fst) :
    home? (steps ++ [step]) task = some target := by
  rcases List.mem_append.1 ((h.fair.accounted task).2 htask) with hqueued | hnew
  · exact home_mono (h.tracks.home_of_queued hqueued)
  · rw [h.tracks.home_snoc h.concerned, if_pos hnew]

/-- Who gets the lock had waited for it, or is new. -/
theorem waited_of_gained (htask : task ∈ turn.gained) :
    task ∈ locks.waiters target ++ step.newcomers := by
  have hserved : task ∈ turn.gained ++ turn.queue.tail.map Waiter.task :=
    List.mem_append_left _ htask
  rw [h.fair.served] at hserved
  exact (List.mem_filter.1 hserved).1

theorem fresh_of_waited (htask : task ∈ locks.waiters target ++ step.newcomers) :
    locks.ended.get? task = none ∧ task ∉ locks.acquired ∧
      home? (steps ++ [step]) task = some target := by
  rcases List.mem_append.1 htask with hwaits | hnew
  · have hqueued := waiters_subset hwaits
    exact ⟨h.tracks.active hqueued, h.tracks.not_mem_acquired hwaits,
      home_mono (h.tracks.home_of_queued hqueued)⟩
  · have hnone := h.tracks.newcomer_new h.concerned hnew
    refine ⟨?_, fun hacquired => ?_, ?_⟩
    · cases hended : locks.ended.get? task with
      | none => rfl
      | some ending =>
        have hhome := h.tracks.home_of_ended hended
        rw [hnone] at hhome
        cases hhome
    · have hhome := h.tracks.home_of_acquired hacquired
      rw [hnone] at hhome
      cases hhome
    · rw [h.tracks.home_snoc h.concerned, if_pos hnew]

/-- Another target is left alone. -/
theorem home_ne (hhome : home? steps task = some other) (hne : other ≠ target) :
    task ∉ turn.gained ∧ task ∉ turn.ended.map Prod.fst := by
  have hother : home? (steps ++ [step]) task = some other := home_mono hhome
  constructor
  · intro hgained
    rw [(h.fresh_of_waited (h.waited_of_gained hgained)).2.2] at hother
    exact hne (Option.some.inj hother).symm
  · intro hended
    rw [h.home_of_turn (.inr hended)] at hother
    exact hne (Option.some.inj hother).symm

theorem filter_acquired (other : String) :
    (locks.acquired.filter fun task => home? (steps ++ [step]) task = some other) =
      locks.acquired.filter fun task => home? steps task = some other := by
  refine List.filter_congr fun task htask => ?_
  obtain ⟨home, hhome⟩ := Option.isSome_iff_exists.1 (h.tracks.home_of_acquired htask)
  rw [hhome, home_mono hhome]

theorem isPassedOver_of_apart (hhome : home? steps task = some other) (hne : other ≠ target) :
    after.isPassedOver task = locks.isPassedOver task := by
  obtain ⟨hgained, hended⟩ := h.home_ne hhome hne
  unfold isPassedOver
  rw [decide_eq_decide, h.takes.mem_acquired_iff, h.takes.ended_isSome_iff, or_iff_left hgained,
    or_iff_right hended]

/-- Who waited, or is new, is passed over if it ends in the turn without the lock. -/
theorem isPassedOver_of_waited (htask : task ∈ locks.waiters target ++ step.newcomers) :
    after.isPassedOver task = decide (task ∉ turn.gained ∧ task ∈ turn.ended.map Prod.fst) := by
  obtain ⟨hended, hacquired, -⟩ := h.fresh_of_waited htask
  unfold isPassedOver
  rw [decide_eq_decide, h.takes.mem_acquired_iff, h.takes.ended_isSome_iff, or_iff_right hacquired, hended,
    or_iff_left (by simp)]

theorem isPassedOver_later (htask : locks.isPassedOver task) : after.isPassedOver task := by
  obtain ⟨hacquired, hended⟩ := of_decide_eq_true htask
  refine decide_eq_true ⟨?_, h.takes.ended_isSome_iff.2 (.inr hended)⟩
  rw [h.takes.mem_acquired_iff, or_iff_right hacquired]
  intro hgained
  rw [(h.fresh_of_waited (h.waited_of_gained hgained)).1] at hended
  cases hended

theorem acquired_apart (hne : other ≠ target) :
    (after.acquired.filter fun task => home? (steps ++ [step]) task = some other) =
      locks.acquired.filter fun task => home? steps task = some other := by
  have hgained : (turn.gained.filter fun task => home? (steps ++ [step]) task = some other) = [] := by
    refine List.filter_eq_nil_iff.2 fun task htask heq => hne ?_
    have hhome := (h.fresh_of_waited (h.waited_of_gained htask)).2.2
    exact Option.some.inj ((of_decide_eq_true heq).symm.trans hhome)
  rw [h.takes.acquired_eq, List.filter_append, hgained, List.append_nil]
  exact h.filter_acquired other

/-- On the target of the turn those that got the lock or wait for it stay in their order. -/
theorem order_target :
    (after.acquired.filter fun task => home? (steps ++ [step]) task = some target) ++
        after.waiters target =
      (arrivals (steps ++ [step]) target).filter fun task => !after.isPassedOver task := by
  have hgained : (turn.gained.filter fun task => home? (steps ++ [step]) task = some target) =
      turn.gained :=
    List.filter_eq_self.2 fun task htask =>
      decide_eq_true (h.fresh_of_waited (h.waited_of_gained htask)).2.2
  have hkept : (locks.acquired.filter fun task => home? steps task = some target).filter
      (fun task => !after.isPassedOver task) =
        locks.acquired.filter fun task => home? steps task = some target := by
    refine List.filter_eq_self.2 fun task htask => ?_
    have hacquired := h.takes.mem_acquired_iff.2 (.inl (List.mem_filter.1 htask).1)
    simp [isPassedOver, hacquired]
  have harrived : (arrivals steps target).filter (fun task => !after.isPassedOver task) =
      ((arrivals steps target).filter fun task => !locks.isPassedOver task).filter
        fun task => !after.isPassedOver task := by
    rw [List.filter_filter]
    refine List.filter_congr fun task _ => ?_
    cases hpassed : locks.isPassedOver task with
    | false => simp
    | true => simp [h.isPassedOver_later hpassed]
  have hserved : turn.gained ++ turn.queue.tail.map Waiter.task =
      (locks.waiters target ++ step.newcomers).filter fun task => !after.isPassedOver task := by
    rw [h.fair.served]
    refine List.filter_congr fun task htask => ?_
    rw [h.isPassedOver_of_waited htask, ← decide_not, decide_eq_decide, not_and, imp_iff_not_or,
      not_not]
  -- Those that get the lock now are the first of those that waited, so the old order goes on with them.
  calc (after.acquired.filter fun task => home? (steps ++ [step]) task = some target) ++
        after.waiters target
    _ = (locks.acquired.filter fun task => home? steps task = some target) ++
          (turn.gained ++ turn.queue.tail.map Waiter.task) := by
      rw [h.takes.acquired_eq, List.filter_append, h.filter_acquired, hgained, h.waiters_eq, if_pos rfl,
        List.append_assoc]
    _ = ((locks.acquired.filter fun task => home? steps task = some target) ++
          (locks.waiters target ++ step.newcomers)).filter fun task => !after.isPassedOver task := by
      rw [List.filter_append, hkept, hserved]
    _ = ((arrivals steps target).filter fun task => !after.isPassedOver task) ++
          step.newcomers.filter fun task => !after.isPassedOver task := by
      rw [← List.append_assoc, h.tracks.order, List.filter_append, ← harrived]
    _ = (arrivals (steps ++ [step]) target).filter fun task => !after.isPassedOver task := by
      rw [h.tracks.arrivals_snoc h.concerned, if_pos rfl, List.filter_append]

theorem order_apart (hne : other ≠ target) :
    (after.acquired.filter fun task => home? (steps ++ [step]) task = some other) ++
        after.waiters other =
      (arrivals (steps ++ [step]) other).filter fun task => !after.isPassedOver task := by
  rw [h.acquired_apart hne, h.waiters_eq, if_neg hne, h.tracks.order,
    h.tracks.arrivals_snoc h.concerned, if_neg hne, List.append_nil]
  refine List.filter_congr fun task htask => ?_
  rw [h.isPassedOver_of_apart (mem_arrivals.1 htask) hne]

theorem tracks_after : Tracks (steps ++ [step]) after where
  keys_nodup := h.takes.keys_nodup h.tracks.keys_nodup
  home_of_queued := by
    intro other task htask
    rw [h.tasks_eq] at htask
    split at htask
    · rename_i heq
      rw [heq]
      exact h.home_of_turn (.inl htask)
    · exact home_mono (h.tracks.home_of_queued htask)
  home_of_ended := by
    intro task ending hending
    rcases h.takes.ended_isSome_iff.1 (Option.isSome_iff_exists.2 ⟨ending, hending⟩) with hended | hended
    · rw [h.home_of_turn (.inr hended)]
      rfl
    · obtain ⟨before, hbefore⟩ := Option.isSome_iff_exists.1 hended
      obtain ⟨home, hhome⟩ := Option.isSome_iff_exists.1 (h.tracks.home_of_ended hbefore)
      rw [home_mono hhome]
      rfl
  queued_or_ended := by
    intro other task hhome
    rw [h.tasks_eq, h.takes.ended_isSome_iff]
    rw [h.tracks.home_snoc h.concerned] at hhome
    split at hhome
    · rename_i hnew
      -- A newcomer is in the queue after its turn, unless it ended at once.
      obtain rfl := Option.some.inj hhome
      rw [if_pos rfl]
      rcases (h.fair.accounted task).1 (List.mem_append_right _ hnew) with hqueued | hended
      · exact .inl hqueued
      · exact .inr (.inl hended)
    · rcases h.tracks.queued_or_ended hhome with hqueued | hended
      · split
        · rename_i heq
          rw [heq] at hqueued
          rcases (h.fair.accounted task).1 (List.mem_append_left _ hqueued) with hqueued | hended
          · exact .inl hqueued
          · exact .inr (.inl hended)
        · exact .inl hqueued
      · exact .inr (.inr hended)
  active := by
    intro other task htask
    rw [← Option.not_isSome_iff_eq_none, h.takes.ended_isSome_iff]
    rw [h.tasks_eq] at htask
    split at htask
    · rintro (hended | hended)
      · exact h.fair.apart task hended htask
      · rcases List.mem_append.1 ((h.fair.accounted task).2 (.inl htask)) with hqueued | hnew
        · rw [h.tracks.active hqueued] at hended
          cases hended
        · rw [(h.fresh_of_waited (List.mem_append_right _ hnew)).1] at hended
          cases hended
    · rename_i hne
      rintro (hended | hended)
      · exact (h.home_ne (h.tracks.home_of_queued htask) hne).2 hended
      · rw [h.tracks.active htask] at hended
        cases hended
  willing := by
    intro other waiter hhead
    rw [h.takes.queue_eq] at hhead
    split at hhead
    · exact h.fair.willing waiter hhead
    · exact h.tracks.willing hhead
  holder := by
    intro other task hholder
    rw [h.takes.mem_acquired_iff]
    unfold holder? at hholder
    rw [h.takes.queue_eq] at hholder
    split at hholder
    · obtain ⟨waiter, hwaiter, rfl⟩ := Option.map_eq_some_iff.1 hholder
      rcases h.fair.holder waiter hwaiter with hgained | hheld
      · exact .inr hgained
      · exact .inl (h.tracks.holder hheld)
    · exact .inl (h.tracks.holder hholder)
  left := by
    intro task exit hending
    rw [h.takes.mem_acquired_iff]
    rw [h.takes.ended_eq] at hending
    rcases Option.or_eq_some_iff.1 hending with hfind | ⟨-, hbefore⟩
    · have hrow := List.mem_reverse.1 (Table.mem_of_find?_eq_some hfind)
      rcases h.fair.left task exit hrow with hgained | hheld
      · exact .inr hgained
      · exact .inl (h.tracks.holder hheld)
    · exact .inl (h.tracks.left hbefore)
  home_of_acquired := by
    intro task hacquired
    rcases h.takes.mem_acquired_iff.1 hacquired with hacquired | hgained
    · obtain ⟨home, hhome⟩ := Option.isSome_iff_exists.1 (h.tracks.home_of_acquired hacquired)
      rw [home_mono hhome]
      rfl
    · rw [(h.fresh_of_waited (h.waited_of_gained hgained)).2.2]
      rfl
  order := by
    intro other
    by_cases hne : other = target
    · rw [hne]
      exact h.order_target
    · exact h.order_apart hne

end Passes

/-! ### Runs -/

theorem run_concat (locks : Locks) (steps : List Step) (step : Step) :
    locks.run (steps ++ [step]) = (locks.run steps).step step :=
  List.foldl_concat ..

namespace Tracks

theorem empty (patience : Int) : Tracks [] (Locks.empty patience) where
  keys_nodup := List.nodup_nil
  home_of_queued h := nomatch h
  home_of_ended h := nomatch h
  queued_or_ended h := nomatch h
  active h := nomatch h
  willing h := nomatch h
  holder h := nomatch h
  left h := nomatch h
  home_of_acquired h := nomatch h
  order _ := rfl

theorem passes (h : Tracks steps locks) (hstep : locks.concerned? step = some target) :
    Passes steps locks step target (.ofStep locks.patience target (locks.queue target) step)
      (locks.step step) :=
  ⟨h, hstep, h.fair_turn hstep, takes_step hstep⟩

theorem of_idle (h : Tracks steps locks)
    (hidle : ∀ row, step.asked? = some row → (home? steps row.1).isSome) :
    Tracks (steps ++ [step]) locks where
  keys_nodup := h.keys_nodup
  home_of_queued htask := (home_of_idle hidle _).trans (h.home_of_queued htask)
  home_of_ended hended := home_of_idle hidle _ ▸ h.home_of_ended hended
  queued_or_ended hhome := h.queued_or_ended ((home_of_idle hidle _).symm.trans hhome)
  active := h.active
  willing := h.willing
  holder := h.holder
  left := h.left
  home_of_acquired hacquired := home_of_idle hidle _ ▸ h.home_of_acquired hacquired
  order target := by
    simp only [home_of_idle hidle]
    rw [arrivals_of_idle hidle, h.order]

theorem snoc (h : Tracks steps locks) (step : Step) : Tracks (steps ++ [step]) (locks.step step) := by
  cases hstep : locks.concerned? step with
  | none =>
    rw [step_of_concerned_none hstep]
    exact h.of_idle (h.idle_of_concerned_none hstep)
  | some target => exact (h.passes hstep).tracks_after

theorem run (h : Tracks steps locks) (more : List Step) : Tracks (steps ++ more) (locks.run more) := by
  induction more generalizing steps locks with
  | nil =>
    rw [List.append_nil]
    exact h
  | cons step rest ih =>
    have hrest := ih (h.snoc step)
    rw [List.append_assoc] at hrest
    exact hrest

theorem of_run (patience : Int) (steps : List Step) : Tracks steps ((Locks.empty patience).run steps) :=
  (empty patience).run steps

end Tracks

end SitePresets.Locks
