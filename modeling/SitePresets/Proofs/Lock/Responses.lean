import Mathlib.Data.List.TakeWhile
import SitePresets.Proofs.Lock.Tracking

/-!
# Responses of locks

What a step does, by the state of its task and of its target: a free lock is taken, a taken one makes a task
wait or fail, and whoever leaves the lock hands it to those that wait.
-/

namespace SitePresets.Locks

open Lock

variable {steps : List Step} {step : Step} {task other target : String} {locks after : Locks}
  {turn : Turn} {ending : Ending} {timeout : Option Int} {exit : Exit}

def Holds (locks : Locks) (task target : String) : Prop :=
  locks.targetOf? task = some target ∧ locks.state? task = some .holding

def Waits (locks : Locks) (task target : String) : Prop :=
  locks.targetOf? task = some target ∧ locks.state? task = some .waiting

/-! ### States -/

theorem state_eq_ended :
    locks.state? task = some (.ended ending) ↔ locks.ended.get? task = some ending := by
  unfold state?
  cases locks.ended.get? task with
  | some found => simp
  | none =>
    cases locks.targetOf? task with
    | none => simp
    | some target =>
      dsimp only
      split <;> simp

theorem isLocked_iff_ne_nil : locks.isLocked target = true ↔ locks.queue target ≠ [] := by
  unfold isLocked
  rw [Bool.not_eq_true', List.isEmpty_eq_false_iff]

theorem isLocked_eq_false : locks.isLocked target = false ↔ locks.queue target = [] := by
  rw [← Bool.not_eq_true, isLocked_iff_ne_nil, not_not]

namespace Tracks

variable (h : Tracks steps locks)

include h

theorem state_of_mem (htask : task ∈ locks.tasks target) :
    locks.state? task = some (if locks.holder? target = some task then .holding else .waiting) := by
  unfold state?
  rw [h.active htask, h.targetOf_eq_some.2 htask]

theorem state_eq_none : locks.state? task = none ↔ home? steps task = none := by
  unfold state?
  rw [← Option.not_isSome_iff_eq_none (o := home? steps task), ← h.isKnown_iff]
  unfold isKnown Table.contains
  cases locks.ended.get? task with
  | some ending => simp
  | none => cases locks.targetOf? task <;> simp

theorem holds_iff : locks.Holds task target ↔ locks.holder? target = some task := by
  constructor
  · rintro ⟨htarget, hstate⟩
    rw [h.state_of_mem (h.targetOf_eq_some.1 htarget)] at hstate
    by_contra hholder
    rw [if_neg hholder] at hstate
    cases hstate
  · intro hholder
    have htask : task ∈ locks.tasks target := by
      rw [tasks_of_holder hholder]
      exact List.mem_cons_self
    refine ⟨h.targetOf_eq_some.2 htask, ?_⟩
    rw [h.state_of_mem htask, if_pos hholder]

theorem waits_iff : locks.Waits task target ↔ task ∈ locks.waiters target := by
  constructor
  · rintro ⟨htarget, hstate⟩
    have htask := h.targetOf_eq_some.1 htarget
    rw [h.state_of_mem htask] at hstate
    cases hholder : locks.holder? target with
    | none =>
      rw [tasks_of_free hholder] at htask
      cases htask
    | some first =>
      rw [tasks_of_holder hholder] at htask
      refine (List.mem_cons.1 htask).resolve_left ?_
      rintro rfl
      rw [if_pos hholder] at hstate
      cases hstate
  · intro hwaits
    have htask := waiters_subset hwaits
    refine ⟨h.targetOf_eq_some.2 htask, ?_⟩
    rw [h.state_of_mem htask, if_neg]
    intro hholder
    exact h.not_mem_acquired hwaits (h.holder hholder)

/-- The task that waits for a lock waits for the one that holds it. -/
theorem exists_holder_of_waits (hwaits : task ∈ locks.waiters target) :
    ∃ first, locks.holder? target = some first ∧ first ≠ task := by
  cases hholder : locks.holder? target with
  | none =>
    have htask := waiters_subset hwaits
    rw [tasks_of_free hholder] at htask
    cases htask
  | some first =>
    refine ⟨first, rfl, ?_⟩
    rintro rfl
    exact h.not_mem_acquired hwaits (h.holder hholder)

end Tracks

/-! ### Situations -/

/-- The situations in which a step finds the locks. -/
inductive Situation (locks : Locks) : Step → Prop
  | idle {step : Step} (hstep : locks.concerned? step = none) : Situation locks step
  | free {task target : String} (timeout : Option Int) (hnew : locks.state? task = none)
    (hfree : locks.isLocked target = false) : Situation locks (.hold task target timeout)
  | refused {task target : String} {timeout : Option Int} (hnew : locks.state? task = none)
    (htaken : locks.isLocked target = true) (hwait : timeout.getD locks.patience ≤ 0) :
    Situation locks (.hold task target timeout)
  | queued {task target : String} {timeout : Option Int} (hnew : locks.state? task = none)
    (htaken : locks.isLocked target = true) (hwait : 0 < timeout.getD locks.patience) :
    Situation locks (.hold task target timeout)
  | left {task target : String} (exit : Exit) (hholds : locks.Holds task target) :
    Situation locks (.release task exit)
  | asked {task target : String} (exit : Exit) (hwaits : locks.Waits task target) :
    Situation locks (.release task exit)
  | dropped {task target : String} (hholds : locks.Holds task target) : Situation locks (.cancel task)
  | cancelled {task target : String} (hwaits : locks.Waits task target) :
    Situation locks (.cancel task)
  | unaffected {task target : String} (hholds : locks.Holds task target) :
    Situation locks (.expire task)
  | expired {task target : String} (hwaits : locks.Waits task target) :
    Situation locks (.expire task)

namespace Tracks

variable (h : Tracks steps locks)

include h

theorem holds_or_waits (htask : locks.targetOf? task = some target) :
    locks.Holds task target ∨ locks.Waits task target := by
  have hstate := h.state_of_mem (h.targetOf_eq_some.1 htask)
  by_cases hholder : locks.holder? target = some task
  · exact .inl (h.holds_iff.2 hholder)
  · rw [if_neg hholder] at hstate
    exact .inr ⟨htask, hstate⟩

theorem situation (step : Step) : locks.Situation step := by
  cases step with
  | hold task target timeout =>
    by_cases hknown : locks.isKnown task = true
    · exact .idle (if_pos hknown)
    · have hnew : locks.state? task = none := by
        rw [h.state_eq_none, ← Option.not_isSome_iff_eq_none, ← h.isKnown_iff]
        exact hknown
      cases htaken : locks.isLocked target with
      | false => exact .free timeout hnew htaken
      | true =>
        by_cases hwait : timeout.getD locks.patience ≤ 0
        · exact .refused hnew htaken hwait
        · exact .queued hnew htaken (by omega)
  | release task exit =>
    cases htarget : locks.targetOf? task with
    | none => exact .idle htarget
    | some target =>
      rcases h.holds_or_waits htarget with hholds | hwaits
      · exact .left exit hholds
      · exact .asked exit hwaits
  | cancel task =>
    cases htarget : locks.targetOf? task with
    | none => exact .idle htarget
    | some target =>
      rcases h.holds_or_waits htarget with hholds | hwaits
      · exact .dropped hholds
      · exact .cancelled hwaits
  | expire task =>
    cases htarget : locks.targetOf? task with
    | none => exact .idle htarget
    | some target =>
      rcases h.holds_or_waits htarget with hholds | hwaits
      · exact .unaffected hholds
      · exact .expired hwaits

/-! ### Asking for a lock -/

theorem concerned_of_new (hnew : locks.state? task = none) (target : String) (timeout : Option Int) :
    locks.concerned? (.hold task target timeout) = some target := by
  refine if_neg ?_
  rw [h.isKnown_iff, h.state_eq_none.1 hnew]
  exact Bool.false_ne_true

theorem takes_hold (hnew : locks.state? task = none) (target : String) (timeout : Option Int) :
    locks.Takes target (.join task target (timeout.getD locks.patience) (locks.queue target))
      (locks.step (.hold task target timeout)) :=
  takes_step (h.concerned_of_new hnew target timeout)

theorem takes_free (timeout : Option Int) (hnew : locks.state? task = none)
    (hfree : locks.isLocked target = false) :
    locks.Takes target {
        queue := [{ task, wait := timeout.getD locks.patience }]
        gained := [task] }
      (locks.step (.hold task target timeout)) := by
  have htakes := h.takes_hold hnew target timeout
  rwa [isLocked_eq_false.1 hfree, Turn.join_free] at htakes

theorem takes_refused (hnew : locks.state? task = none) (htaken : locks.isLocked target = true)
    (hwait : timeout.getD locks.patience ≤ 0) :
    locks.Takes target {
        queue := locks.queue target
        ended := [(task, .refused target (timeout.getD locks.patience))] }
      (locks.step (.hold task target timeout)) := by
  have htakes := h.takes_hold hnew target timeout
  rwa [Turn.join_refused (isLocked_iff_ne_nil.1 htaken) hwait] at htakes

theorem takes_queued (hnew : locks.state? task = none) (htaken : locks.isLocked target = true)
    (hwait : 0 < timeout.getD locks.patience) :
    locks.Takes target {
        queue := locks.queue target ++ [{ task, wait := timeout.getD locks.patience }] }
      (locks.step (.hold task target timeout)) := by
  have htakes := h.takes_hold hnew target timeout
  rwa [Turn.join_queued (isLocked_iff_ne_nil.1 htaken) (by omega)] at htakes

/-! ### Leaving -/

/-- A task that holds a lock leaves it: it ends, and the lock goes on to those behind it. -/
theorem takes_leave (hholds : locks.Holds task target)
    (hafter : locks.Takes target (.leave task ending (locks.queue target)) after) :
    locks.Takes target (.passOn task ending (locks.queue target).tail) after := by
  have hholder := h.holds_iff.1 hholds
  unfold holder? at hholder
  cases hqueue : locks.queue target with
  | nil =>
    rw [hqueue] at hholder
    cases hholder
  | cons first rest =>
    rw [hqueue] at hholder hafter
    obtain rfl : first.task = task := Option.some.inj hholder
    rwa [Turn.leave_holder] at hafter

omit h in
theorem takes_release (htask : locks.targetOf? task = some target) (exit : Exit) :
    locks.Takes target
      (if locks.holder? target = some task then .leave task (.left exit) (locks.queue target)
        else .ask task exit (locks.queue target)) (locks.step (.release task exit)) :=
  takes_step (show locks.concerned? (.release task exit) = some target from htask)

theorem takes_left (hholds : locks.Holds task target) (exit : Exit) :
    locks.Takes target (.leave task (.left exit) (locks.queue target))
      (locks.step (.release task exit)) := by
  have htakes := takes_release hholds.1 exit
  rwa [if_pos (h.holds_iff.1 hholds)] at htakes

omit h in
theorem takes_cancel (htask : locks.targetOf? task = some target) :
    locks.Takes target (.leave task .cancelled (locks.queue target)) (locks.step (.cancel task)) :=
  takes_step (show locks.concerned? (.cancel task) = some target from htask)

theorem takes_asked (hwaits : locks.Waits task target) (exit : Exit) :
    locks.Takes target (.ask task exit (locks.queue target)) (locks.step (.release task exit)) := by
  have htakes := takes_release hwaits.1 exit
  obtain ⟨first, hfirst, hne⟩ := h.exists_holder_of_waits (h.waits_iff.1 hwaits)
  rwa [hfirst, if_neg fun heq => hne (Option.some.inj heq)] at htakes

/-- A task that waits goes: it ends without the lock, and the others keep their places. -/
theorem takes_withdrawal (hwaits : locks.Waits task target)
    (hafter : locks.Takes target (.leave task ending (locks.queue target)) after) :
    ∃ first rest, locks.queue target = first :: rest ∧
      locks.Takes target {
        queue := first :: rest.filter fun waiter => waiter.task ≠ task
        ended := [(task, ending)] } after := by
  obtain ⟨holder, hholder, hne⟩ := h.exists_holder_of_waits (h.waits_iff.1 hwaits)
  unfold holder? at hholder
  cases hqueue : locks.queue target with
  | nil =>
    rw [hqueue] at hholder
    cases hholder
  | cons first rest =>
    rw [hqueue] at hholder hafter
    have hfirst : first.task ≠ task := fun heq => hne ((Option.some.inj hholder).symm.trans heq)
    rw [Turn.leave_waiter hfirst] at hafter
    exact ⟨first, rest, rfl, hafter⟩

theorem takes_expired (hwaits : locks.Waits task target) :
    ∃ waiter ∈ (locks.queue target).tail, waiter.task = task ∧
      locks.Takes target (.leave task (.refused target waiter.wait) (locks.queue target))
        (locks.step (.expire task)) := by
  obtain ⟨waiter, hwaiter, rfl⟩ := List.mem_map.1 (h.waits_iff.1 hwaits)
  have htakes : locks.Takes target (.expire waiter.task target (locks.queue target))
      (locks.step (.expire waiter.task)) :=
    takes_step (show locks.concerned? (.expire waiter.task) = some target from hwaits.1)
  rw [Turn.expire_waiter hwaiter (h.nodup_tasks target)] at htakes
  exact ⟨waiter, hwaiter, rfl, htakes⟩

/-- Who holds a lock waits no more, so its time does not run out. -/
theorem step_expire_of_holds (hholds : locks.Holds task target) :
    locks.step (.expire task) = locks := by
  have hwaits : task ∉ locks.waiters target := fun hwaits =>
    h.not_mem_acquired hwaits (h.holder (h.holds_iff.1 hholds))
  show locks.expire task = locks
  unfold expire
  rw [hholds.1]
  dsimp only
  cases hfind : (locks.queue target).tail.find? fun waiter => waiter.task = task with
  | none => rfl
  | some waiter =>
    have htask : waiter.task = task := by simpa using List.find?_some hfind
    exact absurd (List.mem_map.2 ⟨waiter, List.mem_of_find?_eq_some hfind, htask⟩) hwaits

end Tracks

/-- The lock of a target goes on to those that wait for it: those that were asked to leave get it and
leave at once, and the first other one holds it. -/
structure HandsOver (locks : Locks) (target : String) (after : Locks) : Prop where
  queue_eq : after.queue target =
    (locks.queue target).tail.dropWhile fun waiter => waiter.exit.isSome
  acquired_eq : after.acquired = locks.acquired ++
    (((locks.queue target).tail.takeWhile fun waiter => waiter.exit.isSome).map Waiter.task ++
      (after.holder? target).toList)
  left : ∀ waiter ∈ (locks.queue target).tail.takeWhile fun waiter => waiter.exit.isSome,
    ∃ exit, waiter.exit = some exit ∧ after.state? waiter.task = some (.ended (.left exit))
  /-- The first that waits gets the lock. -/
  next : ∀ task, (locks.waiters target).head? = some task →
    ∃ more, after.acquired = locks.acquired ++ task :: more
  /-- Without one it is free. -/
  free : locks.waiters target = [] → after.isLocked target = false ∧ after.acquired = locks.acquired

/-- What the locks do in each situation. -/
structure Responds (locks : Locks) : Prop where
  free : ∀ task target timeout, locks.state? task = none → locks.isLocked target = false →
    (locks.step (.hold task target timeout)).Holds task target ∧
      (locks.step (.hold task target timeout)).acquired = locks.acquired ++ [task]
  refused : ∀ task target timeout, locks.state? task = none → locks.isLocked target = true →
    timeout.getD locks.patience ≤ 0 →
      (∃ ending, (locks.step (.hold task target timeout)).state? task = some (.ended ending) ∧
          ending.error? = some (.lockTimeout target (timeout.getD locks.patience))) ∧
        (∀ other, (locks.step (.hold task target timeout)).queue other = locks.queue other) ∧
          (locks.step (.hold task target timeout)).acquired = locks.acquired
  queued : ∀ task target timeout, locks.state? task = none → locks.isLocked target = true →
    0 < timeout.getD locks.patience →
      (locks.step (.hold task target timeout)).Waits task target ∧
        (locks.step (.hold task target timeout)).queue target =
            locks.queue target ++ [({ task, wait := timeout.getD locks.patience } : Waiter)] ∧
          (locks.step (.hold task target timeout)).acquired = locks.acquired
  left : ∀ task target exit, locks.Holds task target →
    (locks.step (.release task exit)).state? task = some (.ended (.left exit)) ∧
      locks.HandsOver target (locks.step (.release task exit))
  dropped : ∀ task target, locks.Holds task target →
    (locks.step (.cancel task)).state? task = some (.ended .cancelled) ∧
      locks.HandsOver target (locks.step (.cancel task))
  /-- A task that is to leave before it holds the lock keeps its place. -/
  asked : ∀ task target exit, locks.Waits task target →
    (∀ other, (locks.step (.release task exit)).tasks other = locks.tasks other) ∧
      (∀ other, (locks.step (.release task exit)).state? other = locks.state? other) ∧
        (locks.step (.release task exit)).acquired = locks.acquired
  cancelled : ∀ task target, locks.Waits task target →
    (locks.step (.cancel task)).state? task = some (.ended .cancelled) ∧
      (locks.step (.cancel task)).holder? target = locks.holder? target ∧
        (locks.step (.cancel task)).waiters target = (locks.waiters target).filter (· ≠ task) ∧
          (locks.step (.cancel task)).acquired = locks.acquired
  /-- A task whose time runs out as it waits fails with the time that it had, and the others keep their
  places. -/
  expired : ∀ task target, locks.Waits task target →
    (∃ waiter ∈ (locks.queue target).tail, waiter.task = task ∧
      ∃ ending, (locks.step (.expire task)).state? task = some (.ended ending) ∧
        ending.error? = some (.lockTimeout target waiter.wait)) ∧
      (locks.step (.expire task)).holder? target = locks.holder? target ∧
        (locks.step (.expire task)).waiters target = (locks.waiters target).filter (· ≠ task) ∧
          (locks.step (.expire task)).acquired = locks.acquired
  /-- Once it holds the lock a task has all the time. -/
  unaffected : ∀ task target, locks.Holds task target → locks.step (.expire task) = locks

theorem Takes.handsOver
    (h : locks.Takes target (.passOn task ending (locks.queue target).tail) after)
    (hleft : ∀ row ∈ (Turn.handOver (locks.queue target).tail).ended,
      after.ended.get? row.1 = some row.2) : locks.HandsOver target after := by
  unfold Turn.passOn at h
  have hqueue : after.queue target =
      (locks.queue target).tail.dropWhile fun waiter => waiter.exit.isSome := by
    rw [h.queue_eq, if_pos rfl, Turn.queue_handOver]
  have hholder : after.holder? target =
      ((locks.queue target).tail.dropWhile fun waiter => waiter.exit.isSome).head?.map
        Waiter.task := by
    unfold holder?
    rw [hqueue]
  refine ⟨hqueue, ?_, fun waiter hwaiter => ?_, fun task hnext => ?_, fun hfree => ?_⟩
  · rw [h.acquired_eq, Turn.gained_handOver, hholder]
  · cases hexit : waiter.exit with
    | none =>
      have hasked := List.mem_takeWhile_imp hwaiter
      rw [hexit] at hasked
      cases hasked
    | some exit =>
      refine ⟨exit, rfl, state_eq_ended.2 (hleft (waiter.task, .left exit) ?_)⟩
      exact Turn.mem_ended_handOver.2 ⟨waiter, hwaiter, exit, hexit, rfl⟩
  · rw [h.acquired_eq]
    unfold waiters at hnext
    cases hrest : (locks.queue target).tail with
    | nil =>
      rw [hrest] at hnext
      cases hnext
    | cons first rest =>
      rw [hrest] at hnext
      obtain rfl : first.task = task := Option.some.inj hnext
      refine ⟨(Turn.handOver (first :: rest)).gained.tail, ?_⟩
      dsimp only
      unfold Turn.handOver
      cases first.exit <;> rfl
  · have hnil : (locks.queue target).tail = [] := List.map_eq_nil_iff.1 hfree
    rw [isLocked_eq_false, h.queue_eq, if_pos rfl, h.acquired_eq, hnil]
    exact ⟨rfl, List.append_nil _⟩

theorem holder_eq_head (locks : Locks) (target : String) :
    locks.holder? target = (locks.tasks target).head? := by
  unfold holder? tasks
  rw [List.head?_map]

/-- The state of a task is told from its end and from the queues that it is in. -/
theorem Tracks.state_congr {more : List Step} (h : Tracks steps locks) (h' : Tracks more after)
    (hended : after.ended.get? task = locks.ended.get? task)
    (htasks : ∀ target, task ∈ locks.tasks target ∨ task ∈ after.tasks target →
      after.tasks target = locks.tasks target) :
    after.state? task = locks.state? task := by
  have htarget : after.targetOf? task = locks.targetOf? task := by
    refine Option.ext fun target => ?_
    rw [h.targetOf_eq_some, h'.targetOf_eq_some]
    constructor
    · intro htask
      rwa [← htasks target (.inr htask)]
    · intro htask
      rwa [htasks target (.inl htask)]
  unfold state?
  rw [hended, htarget]
  cases htask : locks.targetOf? task with
  | none => rfl
  | some target =>
    dsimp only
    rw [holder_eq_head, holder_eq_head, htasks target (.inl (h.targetOf_eq_some.1 htask))]

namespace Tracks

variable (h : Tracks steps locks)

include h

/-- Each task ends once, in the way that the turn says. -/
theorem ended_of_leave (hholds : locks.Holds task target)
    (htakes : locks.Takes target (.passOn task ending (locks.queue target).tail) after)
    {row : String × Ending}
    (hrow : row ∈ (Turn.passOn task ending (locks.queue target).tail).ended) :
    after.ended.get? row.1 = some row.2 := by
  have hnodup : ((Turn.passOn task ending (locks.queue target).tail).ended.map Prod.fst).Nodup := by
    have htasks := h.nodup_tasks target
    rw [tasks_of_holder (h.holds_iff.1 hholds)] at htasks
    refine htasks.sublist (List.Sublist.cons_cons task ?_)
    rw [Turn.ended_handOver]
    exact (List.takeWhile_sublist _).map _
  have hfind : Table.find? row.1 (Turn.passOn task ending (locks.queue target).tail).ended =
      some row.2 := (Table.find?_eq_some_iff hnodup).2 hrow
  rw [htakes.ended_eq, Table.find?_reverse hnodup, hfind, Option.some_or]

theorem leaves (hholds : locks.Holds task target)
    (hafter : locks.Takes target (.leave task ending (locks.queue target)) after) :
    after.state? task = some (.ended ending) ∧ locks.HandsOver target after := by
  have htakes := h.takes_leave hholds hafter
  constructor
  · exact state_eq_ended.2 (h.ended_of_leave hholds htakes List.mem_cons_self)
  · exact htakes.handsOver fun row hrow =>
      h.ended_of_leave hholds htakes (List.mem_cons_of_mem _ hrow)

theorem withdraws (hwaits : locks.Waits task target)
    (hafter : locks.Takes target (.leave task ending (locks.queue target)) after) :
    after.state? task = some (.ended ending) ∧ after.holder? target = locks.holder? target ∧
      after.waiters target = (locks.waiters target).filter (· ≠ task) ∧
        after.acquired = locks.acquired := by
  obtain ⟨first, rest, hqueue, htakes⟩ := h.takes_withdrawal hwaits hafter
  refine ⟨state_eq_ended.2 ?_, ?_, ?_, ?_⟩
  · rw [htakes.ended_eq]
    simp [Table.find?]
  · unfold holder?
    rw [htakes.queue_eq, if_pos rfl, hqueue]
    rfl
  · unfold waiters
    rw [htakes.queue_eq, if_pos rfl, hqueue, List.tail_cons, List.tail_cons, List.filter_map]
    rfl
  · rw [htakes.acquired_eq, List.append_nil]

theorem responds : locks.Responds where
  free := by
    intro task target timeout hnew hfree
    have htakes := h.takes_free timeout hnew hfree
    refine ⟨(h.snoc _).holds_iff.2 ?_, htakes.acquired_eq⟩
    unfold holder?
    rw [htakes.queue_eq, if_pos rfl]
    rfl
  refused := by
    intro task target timeout hnew htaken hwait
    have htakes := h.takes_refused hnew htaken hwait
    have hended : (locks.step (.hold task target timeout)).ended.get? task =
        some (.refused target (timeout.getD locks.patience)) := by
      rw [htakes.ended_eq]
      simp [Table.find?]
    refine ⟨⟨_, state_eq_ended.2 hended, rfl⟩, fun other => ?_, ?_⟩
    · rw [htakes.queue_eq]
      split
      · rename_i hother
        rw [hother]
      · rfl
    · rw [htakes.acquired_eq, List.append_nil]
  queued := by
    intro task target timeout hnew htaken hwait
    have htakes := h.takes_queued hnew htaken hwait
    have hqueue := htakes.queue_eq target
    rw [if_pos rfl] at hqueue
    refine ⟨(h.snoc _).waits_iff.2 ?_, hqueue, ?_⟩
    · unfold waiters
      rw [hqueue, List.tail_append_of_ne_nil (isLocked_iff_ne_nil.1 htaken)]
      simp
    · rw [htakes.acquired_eq, List.append_nil]
  left task target exit hholds := h.leaves hholds (h.takes_left hholds exit)
  dropped task target hholds := h.leaves hholds (takes_cancel hholds.1)
  asked := by
    intro task target exit hwaits
    have htakes := h.takes_asked hwaits exit
    have htasks (other : String) :
        (locks.step (.release task exit)).tasks other = locks.tasks other := by
      unfold tasks
      rw [htakes.queue_eq]
      split
      · rename_i hother
        rw [hother, Turn.tasks_ask]
      · rfl
    refine ⟨htasks, fun other => ?_, ?_⟩
    · exact h.state_congr (h.snoc _) (htakes.ended_eq other) fun target _ => htasks target
    · rw [htakes.acquired_eq]
      exact List.append_nil _
  cancelled task target hwaits := h.withdraws hwaits (takes_cancel hwaits.1)
  expired := by
    intro task target hwaits
    obtain ⟨waiter, hwaiter, htask, htakes⟩ := h.takes_expired hwaits
    obtain ⟨hstate, hothers⟩ := h.withdraws hwaits htakes
    exact ⟨⟨waiter, hwaiter, htask, _, hstate, rfl⟩, hothers⟩
  unaffected task target hholds := h.step_expire_of_holds hholds

end Tracks

end SitePresets.Locks
