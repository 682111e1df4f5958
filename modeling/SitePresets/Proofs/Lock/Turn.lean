import SitePresets.Lock
import SitePresets.Proofs.Descriptor.Facets
import SitePresets.Proofs.Table

/-!
# Turns

A step concerns one target at most, and what it does there is decided by the queue of that target alone:
which queue is left, which tasks get the lock, and which tasks end.
-/

namespace SitePresets

namespace Locks.Step

def task : Step → String
  | .hold task _ _ => task
  | .release task _ => task
  | .cancel task => task
  | .expire task => task

/-- The task that a step brings, and the target that it asks for. -/
def asked? : Step → Option (String × String)
  | .hold task target _ => some (task, target)
  | _ => none

def newcomers (step : Step) : List String :=
  (step.asked?.map Prod.fst).toList

end Locks.Step

namespace Lock

/-- What a step makes of one target: its queue then, the tasks that get the lock in their order, and the
tasks that end. -/
structure Turn where
  queue : List Waiter
  gained : List String := []
  ended : List (String × Ending) := []

namespace Turn

/-- The free lock goes to the first of a queue. One that was asked to leave passes it on at once. -/
def handOver : List Waiter → Turn
  | [] => { queue := [] }
  | waiter :: rest =>
    match waiter.exit with
    | some exit => {
        queue := (handOver rest).queue
        gained := waiter.task :: (handOver rest).gained
        ended := (waiter.task, .left exit) :: (handOver rest).ended }
    | none => { queue := waiter :: rest, gained := [waiter.task] }

/-- A new task asks for the target. -/
def join (task target : String) (wait : Int) (queue : List Waiter) : Turn :=
  if queue = [] then { queue := [{ task, wait }], gained := [task] }
  else if wait ≤ 0 then { queue, ended := [(task, .refused target wait)] }
  else { queue := queue ++ [{ task, wait }] }

/-- A task that held the lock ends, and the lock goes on to the rest of the queue. -/
def passOn (task : String) (ending : Ending) (rest : List Waiter) : Turn where
  queue := (handOver rest).queue
  gained := (handOver rest).gained
  ended := (task, ending) :: (handOver rest).ended

/-- A task goes out of the queue. -/
def leave (task : String) (ending : Ending) : List Waiter → Turn
  | [] => { queue := [], ended := [(task, ending)] }
  | first :: rest =>
    if first.task = task then passOn task ending rest
    else {
      queue := first :: rest.filter fun waiter => waiter.task ≠ task
      ended := [(task, ending)] }

/-- A task is to leave as soon as it holds the lock. -/
def ask (task : String) (exit : Exit) (queue : List Waiter) : Turn where
  queue := queue.map fun waiter =>
    if waiter.task = task then { waiter with exit := waiter.exit.or (some exit) } else waiter

/-- The time of a task runs out. -/
def expire (task target : String) (queue : List Waiter) : Turn :=
  match queue.tail.find? fun waiter => waiter.task = task with
  | none => { queue }
  | some waiter => leave task (.refused target waiter.wait) queue

/-- What a step makes of the target that it concerns. -/
def ofStep (patience : Int) (target : String) (queue : List Waiter) : Locks.Step → Turn
  | .hold task _ timeout => join task target (timeout.getD patience) queue
  | .release task exit =>
    if queue.head?.map Waiter.task = some task then leave task (.left exit) queue
    else ask task exit queue
  | .cancel task => leave task .cancelled queue
  | .expire task => expire task target queue

/-! ### Handing over -/

variable {queue : List Waiter} {waiter : Waiter} {row : String × Ending}

theorem queue_handOver (queue : List Waiter) :
    (handOver queue).queue = queue.dropWhile fun waiter => waiter.exit.isSome := by
  induction queue with
  | nil => rfl
  | cons waiter rest ih =>
    rw [handOver, List.dropWhile_cons]
    cases waiter.exit with
    | none => rfl
    | some exit => exact ih

/-- Those that were asked to leave get the lock, and then the first that was not. -/
theorem gained_handOver (queue : List Waiter) :
    (handOver queue).gained =
      (queue.takeWhile fun waiter => waiter.exit.isSome).map Waiter.task ++
        ((queue.dropWhile fun waiter => waiter.exit.isSome).head?.map Waiter.task).toList := by
  induction queue with
  | nil => rfl
  | cons waiter rest ih =>
    rw [handOver, List.takeWhile_cons, List.dropWhile_cons]
    cases waiter.exit with
    | none => rfl
    | some exit => exact congrArg (waiter.task :: ·) ih

theorem ended_handOver (queue : List Waiter) :
    (handOver queue).ended.map Prod.fst =
      (queue.takeWhile fun waiter => waiter.exit.isSome).map Waiter.task := by
  induction queue with
  | nil => rfl
  | cons waiter rest ih =>
    rw [handOver, List.takeWhile_cons]
    cases waiter.exit with
    | none => rfl
    | some exit => exact congrArg (waiter.task :: ·) ih

theorem mem_ended_handOver : row ∈ (handOver queue).ended ↔
    ∃ waiter ∈ queue.takeWhile fun waiter => waiter.exit.isSome,
      ∃ exit, waiter.exit = some exit ∧ row = (waiter.task, .left exit) := by
  induction queue with
  | nil => simp [handOver]
  | cons first rest ih =>
    rw [handOver, List.takeWhile_cons]
    cases hexit : first.exit with
    | none => simp
    | some exit => simp [ih, hexit]

/-- Nobody is passed over when the lock is handed over. -/
theorem served_handOver (queue : List Waiter) :
    (handOver queue).gained ++ (handOver queue).queue.tail.map Waiter.task =
      queue.map Waiter.task := by
  induction queue with
  | nil => rfl
  | cons waiter rest ih =>
    rw [handOver]
    cases waiter.exit with
    | none => rfl
    | some exit => exact congrArg (waiter.task :: ·) ih

theorem mem_queue_of_gained {task : String} (h : task ∈ (handOver queue).gained) :
    task ∈ queue.map Waiter.task := by
  rw [← served_handOver]
  exact List.mem_append_left _ h

/-- After that each of the queue is still there, or has ended. -/
theorem mem_handOver {task : String} :
    task ∈ queue.map Waiter.task ↔
      task ∈ (handOver queue).queue.map Waiter.task ∨
        task ∈ (handOver queue).ended.map Prod.fst := by
  rw [queue_handOver, ended_handOver, or_comm, ← List.mem_append, ← List.map_append,
    List.takeWhile_append_dropWhile]

/-- Who holds the lock in the end was not asked to leave, and has got it. -/
theorem head_handOver (h : (handOver queue).queue.head? = some waiter) :
    waiter.exit = none ∧ waiter.task ∈ (handOver queue).gained := by
  rw [gained_handOver]
  rw [queue_handOver] at h
  constructor
  · have hexit := List.head?_dropWhile_not (fun waiter : Waiter => waiter.exit.isSome) queue
    rw [h] at hexit
    simpa using hexit
  · rw [h]
    simp

theorem mem_gained_of_ended {task : String} (h : task ∈ (handOver queue).ended.map Prod.fst) :
    task ∈ (handOver queue).gained := by
  rw [ended_handOver] at h
  rw [gained_handOver]
  exact List.mem_append_left _ h

theorem not_mem_of_ended {task : String} (hnodup : (queue.map Waiter.task).Nodup)
    (h : task ∈ (handOver queue).ended.map Prod.fst) :
    task ∉ (handOver queue).queue.map Waiter.task := by
  rw [ended_handOver] at h
  rw [queue_handOver]
  intro hqueue
  rw [← List.takeWhile_append_dropWhile (p := fun waiter : Waiter => waiter.exit.isSome) (l := queue),
    List.map_append, List.nodup_append] at hnodup
  exact hnodup.2.2 task h task hqueue rfl

/-! ### What every turn keeps to -/

/-- A turn on a queue and perhaps a newcomer. -/
structure Fair (queue : List Waiter) (newcomers : List String) (turn : Turn) : Prop where
  /-- Those that wait get the lock in their order, unless they end without it. -/
  served : turn.gained ++ turn.queue.tail.map Waiter.task =
    (queue.tail.map Waiter.task ++ newcomers).filter fun task =>
      task ∈ turn.gained ∨ task ∉ turn.ended.map Prod.fst
  /-- Each task is in the queue, or has ended. -/
  accounted : ∀ task, task ∈ queue.map Waiter.task ++ newcomers ↔
    task ∈ turn.queue.map Waiter.task ∨ task ∈ turn.ended.map Prod.fst
  apart : ∀ task ∈ turn.ended.map Prod.fst, task ∉ turn.queue.map Waiter.task
  /-- Who holds the lock then got it now or held it before, and was not asked to leave. -/
  willing : ∀ waiter, turn.queue.head? = some waiter → waiter.exit = none
  holder : ∀ waiter, turn.queue.head? = some waiter →
    waiter.task ∈ turn.gained ∨ queue.head?.map Waiter.task = some waiter.task
  /-- Who leaves got the lock now or held it before. -/
  left : ∀ task exit, (task, .left exit) ∈ turn.ended →
    task ∈ turn.gained ∨ queue.head?.map Waiter.task = some task

theorem join_free (task target : String) (wait : Int) :
    join task target wait [] = { queue := [{ task, wait }], gained := [task] } :=
  if_pos rfl

theorem join_refused {wait : Int} (htaken : queue ≠ []) (hwait : wait ≤ 0) (task target : String) :
    join task target wait queue = { queue, ended := [(task, .refused target wait)] } :=
  (if_neg htaken).trans (if_pos hwait)

theorem join_queued {wait : Int} (htaken : queue ≠ []) (hwait : ¬ wait ≤ 0) (task target : String) :
    join task target wait queue = { queue := queue ++ [{ task, wait }] } :=
  (if_neg htaken).trans (if_neg hwait)

theorem fair_join (task target : String) (wait : Int) (hnew : task ∉ queue.map Waiter.task)
    (hwilling : ∀ waiter, queue.head? = some waiter → waiter.exit = none) :
    Fair queue [task] (join task target wait queue) := by
  cases queue with
  | nil =>
    rw [join_free]
    exact ⟨by simp, by simp, by simp, by simp, by simp, by simp⟩
  | cons first rest =>
    have htaken : first :: rest ≠ [] := List.cons_ne_nil first rest
    have hrest : task ∉ rest.map Waiter.task := fun h => hnew (List.mem_cons_of_mem _ h)
    by_cases hwait : wait ≤ 0
    · rw [join_refused htaken hwait]
      refine ⟨?_, ?_, ?_, hwilling, fun waiter h => .inr (congrArg _ h), by simp⟩
      · have hkept : (rest.map Waiter.task).filter (fun other => decide (other ≠ task)) =
            rest.map Waiter.task :=
          List.filter_eq_self.2 fun other hother =>
            decide_eq_true fun heq => hrest (heq ▸ hother)
        simpa using hkept.symm
      · simp [or_assoc]
      · simpa using hnew
    · rw [join_queued htaken hwait]
      refine ⟨by simp, by simp, by simp, ?_, ?_, by simp⟩
      · exact fun waiter h => hwilling waiter h
      · exact fun waiter h => .inr (congrArg _ h)

theorem leave_holder (first : Waiter) (rest : List Waiter) (ending : Ending) :
    leave first.task ending (first :: rest) = passOn first.task ending rest :=
  if_pos rfl

theorem leave_waiter {first : Waiter} {task : String} (h : first.task ≠ task) (rest : List Waiter)
    (ending : Ending) :
    leave task ending (first :: rest) = {
      queue := first :: rest.filter fun waiter => waiter.task ≠ task
      ended := [(task, ending)] } :=
  if_neg h

theorem fair_leave_holder (first : Waiter) (rest : List Waiter) (ending : Ending)
    (hnodup : ((first :: rest).map Waiter.task).Nodup) :
    Fair (first :: rest) [] (leave first.task ending (first :: rest)) := by
  obtain ⟨hfirst, hrest⟩ := List.nodup_cons.1 hnodup
  rw [leave_holder]
  unfold passOn
  refine ⟨?_, fun other => ?_, ?_, ?_, ?_, ?_⟩
  · dsimp only
    rw [served_handOver, List.append_nil]
    refine (List.filter_eq_self.2 fun other hother => decide_eq_true ?_).symm
    rw [List.map_cons, List.mem_cons, or_iff_not_imp_right, not_not]
    rintro (rfl | hended)
    · exact absurd hother hfirst
    · exact mem_gained_of_ended hended
  · rw [List.append_nil, List.map_cons, List.map_cons, List.mem_cons, List.mem_cons, mem_handOver,
      or_left_comm]
  · intro other hother
    rcases List.mem_cons.1 hother with rfl | hother
    · exact fun hqueue => hfirst (mem_handOver.2 (.inl hqueue))
    · exact not_mem_of_ended hrest hother
  · exact fun waiter h => (head_handOver h).1
  · exact fun waiter h => .inl (head_handOver h).2
  · intro other exit hother
    rcases List.mem_cons.1 hother with heq | hother
    · exact .inr (congrArg some (Prod.mk.inj heq).1.symm)
    · exact .inl (mem_gained_of_ended (List.mem_map_of_mem hother))

theorem fair_leave_waiter {first : Waiter} {task : String} {rest : List Waiter} {ending : Ending}
    (hne : first.task ≠ task) (htask : task ∈ rest.map Waiter.task) (hwilling : first.exit = none)
    (hending : ∀ exit, ending ≠ .left exit) :
    Fair (first :: rest) [] (leave task ending (first :: rest)) := by
  have hmap : (rest.filter fun waiter => decide (waiter.task ≠ task)).map Waiter.task =
      (rest.map Waiter.task).filter fun other => decide (other ≠ task) := by
    rw [List.filter_map]
    rfl
  rw [leave_waiter hne]
  refine ⟨?_, fun other => ?_, ?_, ?_, ?_, ?_⟩
  · simpa using hmap
  · rw [List.append_nil, List.map_cons, List.map_cons, hmap, List.map_singleton, List.mem_singleton,
      List.mem_cons, List.mem_cons, List.mem_filter, decide_eq_true_eq, or_assoc]
    refine or_congr_right ⟨fun hother => ?_, ?_⟩
    · by_cases heq : other = task
      · exact .inr heq
      · exact .inl ⟨hother, heq⟩
    · rintro (⟨hother, -⟩ | rfl)
      · exact hother
      · exact htask
  · intro other hother
    obtain rfl := List.mem_singleton.1 hother
    rw [List.map_cons, hmap, List.mem_cons, List.mem_filter]
    rintro (heq | ⟨-, hother⟩)
    · exact hne heq.symm
    · exact of_decide_eq_true hother rfl
  · intro waiter h
    exact Option.some.inj h ▸ hwilling
  · exact fun waiter h => .inr (congrArg (Option.map Waiter.task) h)
  · intro other exit hother
    obtain ⟨-, hleft⟩ := Prod.mk.inj (List.mem_singleton.1 hother)
    exact absurd hleft.symm (hending exit)

/-- Who is asked to leave stays in its place. -/
theorem tasks_ask (task : String) (exit : Exit) (queue : List Waiter) :
    (ask task exit queue).queue.map Waiter.task = queue.map Waiter.task := by
  unfold ask
  rw [List.map_map]
  refine List.map_congr_left fun waiter _ => ?_
  show Waiter.task (if waiter.task = task then _ else waiter) = _
  split <;> rfl

theorem fair_ask (task : String) (exit : Exit)
    (hwilling : ∀ waiter, queue.head? = some waiter → waiter.exit = none)
    (hholder : queue.head?.map Waiter.task ≠ some task) : Fair queue [] (ask task exit queue) := by
  have hhead (waiter : Waiter) (h : (ask task exit queue).queue.head? = some waiter) :
      queue.head? = some waiter := by
    cases queue with
    | nil => cases h
    | cons first rest =>
      have hne : first.task ≠ task := fun heq => hholder (congrArg some heq)
      have h : some (if first.task = task then _ else first) = some waiter := h
      rwa [if_neg hne] at h
  refine ⟨?_, fun other => ?_, (fun _ h => nomatch h), ?_, ?_, fun _ _ h => nomatch h⟩
  · have htail : (ask task exit queue).queue.tail.map Waiter.task = queue.tail.map Waiter.task := by
      rw [List.map_tail, tasks_ask, List.map_tail]
    rw [htail]
    simp [ask]
  · rw [tasks_ask, List.append_nil]
    exact (or_iff_left (fun h => nomatch h)).symm
  · exact fun waiter h => hwilling waiter (hhead waiter h)
  · exact fun waiter h => .inr (congrArg _ (hhead waiter h))

theorem fair_self (hwilling : ∀ waiter, queue.head? = some waiter → waiter.exit = none) :
    Fair queue [] { queue } :=
  ⟨by simp, by simp, by simp, hwilling, fun _ h => .inr (congrArg _ h), by simp⟩

/-- Each task is once in the queue, so the time that runs out is that of the task. -/
theorem expire_waiter (hwaiter : waiter ∈ queue.tail) (hnodup : (queue.map Waiter.task).Nodup)
    (target : String) :
    expire waiter.task target queue = leave waiter.task (.refused target waiter.wait) queue := by
  unfold expire
  cases hfind : queue.tail.find? fun other => decide (other.task = waiter.task) with
  | none => simpa using List.find?_eq_none.1 hfind waiter hwaiter
  | some other =>
    have hsame : other.task = waiter.task := by simpa using List.find?_some hfind
    have htail := hnodup.sublist ((List.tail_sublist queue).map Waiter.task)
    rw [List.inj_on_of_nodup_map htail (List.mem_of_find?_eq_some hfind) hwaiter hsame]

theorem expire_self {task : String} (h : task ∉ queue.tail.map Waiter.task) (target : String) :
    expire task target queue = { queue } := by
  unfold expire
  cases hfind : queue.tail.find? fun waiter => decide (waiter.task = task) with
  | none => rfl
  | some waiter =>
    have htask : waiter.task = task := by simpa using List.find?_some hfind
    exact absurd (List.mem_map.2 ⟨waiter, List.mem_of_find?_eq_some hfind, htask⟩) h

/-- A step of a task in the queue, or one that brings a task, is a fair turn. -/
theorem fair_ofStep (patience : Int) (target : String) {step : Locks.Step}
    (hnodup : (queue.map Waiter.task).Nodup)
    (hwilling : ∀ waiter, queue.head? = some waiter → waiter.exit = none)
    (htask : step.task ∈ queue.map Waiter.task ↔ step.asked? = none) :
    Fair queue step.newcomers (ofStep patience target queue step) := by
  cases step with
  | hold task other timeout =>
    refine fair_join task target (timeout.getD patience) (fun hmem => ?_) hwilling
    cases htask.1 hmem
  | release task exit =>
    show Fair queue [] (if queue.head?.map Waiter.task = some task then leave task (.left exit) queue
      else ask task exit queue)
    split
    · rename_i hholder
      cases queue with
      | nil => cases hholder
      | cons first rest =>
        obtain rfl : first.task = task := Option.some.inj hholder
        exact fair_leave_holder first rest (.left exit) hnodup
    · rename_i hholder
      exact fair_ask task exit hwilling hholder
  | cancel task =>
    have hmem : task ∈ queue.map Waiter.task := htask.2 rfl
    cases queue with
    | nil => cases hmem
    | cons first rest =>
      by_cases hfirst : first.task = task
      · subst hfirst
        exact fair_leave_holder first rest .cancelled hnodup
      · refine fair_leave_waiter hfirst ?_ (hwilling first rfl) fun _ => nofun
        exact (List.mem_cons.1 hmem).resolve_left (Ne.symm hfirst)
  | expire task =>
    show Fair queue [] (expire task target queue)
    by_cases hwaits : task ∈ queue.tail.map Waiter.task
    · cases queue with
      | nil => cases hwaits
      | cons first rest =>
        obtain ⟨waiter, hwaiter, rfl⟩ := List.mem_map.1 hwaits
        have hfirst : first.task ≠ waiter.task := fun heq =>
          (List.nodup_cons.1 hnodup).1 (heq ▸ hwaits)
        rw [expire_waiter hwaiter hnodup]
        exact fair_leave_waiter hfirst hwaits (hwilling first rfl) fun _ => nofun
    · rw [expire_self hwaits]
      exact fair_self hwilling

/-! ### Times -/

theorem subset_leave (task : String) (ending : Ending) (queue : List Waiter) :
    (leave task ending queue).queue ⊆ queue := by
  cases queue with
  | nil => exact List.Subset.refl []
  | cons first rest =>
    by_cases hfirst : first.task = task
    · subst hfirst
      rw [leave_holder]
      show (handOver rest).queue ⊆ first :: rest
      rw [queue_handOver]
      exact List.subset_cons_of_subset first (List.dropWhile_subset _)
    · rw [leave_waiter hfirst]
      exact List.cons_subset_cons first (List.filter_subset_self _)

/-- Nobody in the queue is given more time or less: a waiter was there before with the same, or the step has
brought it. -/
theorem timed_ofStep {patience : Int} {target : String} {step : Locks.Step}
    (h : waiter ∈ (ofStep patience target queue step).queue) :
    (∃ before ∈ queue, before.task = waiter.task ∧ before.wait = waiter.wait) ∨
      ∃ asked timeout, step = .hold waiter.task asked timeout ∧ waiter.wait = timeout.getD patience := by
  cases step with
  | hold task asked timeout =>
    have h : waiter ∈ (join task target (timeout.getD patience) queue).queue := h
    have hnew (hwaiter : waiter = { task, wait := timeout.getD patience }) :
        ∃ asked' timeout', Locks.Step.hold task asked timeout = .hold waiter.task asked' timeout' ∧
          waiter.wait = timeout'.getD patience := by
      subst hwaiter
      exact ⟨asked, timeout, rfl, rfl⟩
    unfold join at h
    split at h
    · exact .inr (hnew (List.mem_singleton.1 h))
    · split at h
      · exact .inl ⟨waiter, h, rfl, rfl⟩
      · rcases List.mem_append.1 h with h | h
        · exact .inl ⟨waiter, h, rfl, rfl⟩
        · exact .inr (hnew (List.mem_singleton.1 h))
  | release task exit =>
    unfold ofStep at h
    dsimp only at h
    split at h
    · exact .inl ⟨waiter, subset_leave _ _ _ h, rfl, rfl⟩
    · obtain ⟨before, hbefore, rfl⟩ := List.mem_map.1 h
      refine .inl ⟨before, hbefore, ?_⟩
      split <;> exact ⟨rfl, rfl⟩
  | cancel task => exact .inl ⟨waiter, subset_leave _ _ _ h, rfl, rfl⟩
  | expire task =>
    have h : waiter ∈ (expire task target queue).queue := h
    unfold expire at h
    split at h
    · exact .inl ⟨waiter, h, rfl, rfl⟩
    · exact .inl ⟨waiter, subset_leave _ _ _ h, rfl, rfl⟩

end Turn

end Lock

open Lock

namespace Locks

/-- The locks after a turn on a target. -/
structure Takes (locks : Locks) (target : String) (turn : Turn) (after : Locks) : Prop where
  queue_eq : ∀ other, after.queue other = if other = target then turn.queue else locks.queue other
  acquired_eq : after.acquired = locks.acquired ++ turn.gained
  ended_eq : ∀ task, after.ended.get? task =
    (Table.find? task turn.ended.reverse).or (locks.ended.get? task)
  patience_eq : after.patience = locks.patience
  keys_nodup : locks.queues.keys.Nodup → after.queues.keys.Nodup

variable {locks middle after : Locks} {target task : String} {turn : Turn}

theorem queue_put (locks : Locks) (target : String) (waiters : List Waiter) (other : String) :
    { locks with queues := locks.queues.put target waiters }.queue other =
      if other = target then waiters else locks.queue other := by
  unfold queue
  rw [Table.get?_put]
  split <;> rfl

namespace Takes

theorem of_put (locks : Locks) (target : String) (queue : List Waiter) :
    locks.Takes target { queue } { locks with queues := locks.queues.put target queue } where
  queue_eq := queue_put locks target queue
  acquired_eq := (List.append_nil _).symm
  ended_eq _ := rfl
  patience_eq := rfl
  keys_nodup h := Table.nodup_keys_put h target queue

/-- A task gets the lock before the rest of the turn. -/
theorem gain (h : Takes { locks with acquired := locks.acquired ++ [task] } target turn after) :
    locks.Takes target { turn with gained := task :: turn.gained } after where
  queue_eq := h.queue_eq
  acquired_eq := by rw [h.acquired_eq, List.append_assoc, List.singleton_append]
  ended_eq := h.ended_eq
  patience_eq := h.patience_eq
  keys_nodup := h.keys_nodup

/-- A task ends before the rest of the turn. -/
theorem finish {ending : Ending}
    (h : Takes { locks with ended := locks.ended.put task ending } target turn after) :
    locks.Takes target { turn with ended := (task, ending) :: turn.ended } after where
  queue_eq := h.queue_eq
  acquired_eq := h.acquired_eq
  ended_eq other := by
    have hended := h.ended_eq other
    rw [Table.get?_put] at hended
    rw [hended, List.reverse_cons, Table.find?_append, Option.or_assoc]
    by_cases hother : other = task
    · rw [if_pos hother, hother]
      simp [Table.find?]
    · rw [if_neg hother]
      simp [Table.find?, Ne.symm hother]
  patience_eq := h.patience_eq
  keys_nodup := h.keys_nodup

theorem refl (locks : Locks) (target : String) :
    locks.Takes target { queue := locks.queue target } locks := by
  refine ⟨fun other => ?_, (List.append_nil _).symm, fun _ => rfl, rfl, id⟩
  split
  · rename_i hother
    rw [hother]
  · rfl

/-- A task ends, and the queue stays as it is. -/
theorem of_end (locks : Locks) (target task : String) (ending : Ending) :
    locks.Takes target { queue := locks.queue target, ended := [(task, ending)] }
      { locks with ended := locks.ended.put task ending } :=
  (refl { locks with ended := locks.ended.put task ending } target).finish

end Takes

theorem takes_handOver (locks : Locks) (target : String) (queue : List Waiter) :
    locks.Takes target (.handOver queue) (locks.handOver target queue) := by
  induction queue generalizing locks with
  | nil => exact .of_put locks target []
  | cons waiter rest ih =>
    unfold handOver Turn.handOver
    -- A task that was asked to leave gets the lock and ends before the rest of the queue takes its turn.
    cases waiter.exit with
    | none => exact .gain (.of_put _ target (waiter :: rest))
    | some exit => exact .gain (.finish (ih _))

theorem takes_remove (locks : Locks) (task target : String) (ending : Ending) :
    locks.Takes target (.leave task ending (locks.queue target))
      (locks.remove task target ending) := by
  unfold remove Turn.leave
  have hqueue : { locks with ended := locks.ended.put task ending }.queue target =
      locks.queue target := rfl
  dsimp only
  rw [hqueue]
  cases h : locks.queue target with
  | nil =>
    have hend := Takes.of_end locks target task ending
    rw [h] at hend
    exact hend
  | cons first rest =>
    dsimp only
    split
    · exact .finish (takes_handOver _ target rest)
    · exact .finish (.of_put _ target _)

/-- The target that a step concerns: none if the step does nothing. -/
def concerned? (locks : Locks) : Step → Option String
  | .hold task target _ => if locks.isKnown task then none else some target
  | .release task _ => locks.targetOf? task
  | .cancel task => locks.targetOf? task
  | .expire task => locks.targetOf? task

theorem step_of_concerned_none {step : Step} (h : locks.concerned? step = none) :
    locks.step step = locks := by
  cases step with
  | hold task target timeout =>
    have h : (if locks.isKnown task then none else some target) = none := h
    split at h
    · rename_i hknown
      exact if_pos hknown
    · cases h
  | release task exit =>
    have h : locks.targetOf? task = none := h
    show locks.release task exit = locks
    unfold release
    rw [h]
  | cancel task =>
    have h : locks.targetOf? task = none := h
    show locks.cancel task = locks
    unfold cancel
    rw [h]
  | expire task =>
    have h : locks.targetOf? task = none := h
    show locks.expire task = locks
    unfold expire
    rw [h]

/-- A step takes its turn on the target that it concerns. -/
theorem takes_step {step : Step} (h : locks.concerned? step = some target) :
    locks.Takes target (.ofStep locks.patience target (locks.queue target) step)
      (locks.step step) := by
  cases step with
  | hold task other timeout =>
    have h : (if locks.isKnown task then none else some other) = some target := h
    split at h
    · cases h
    · rename_i hknown
      obtain rfl := Option.some.inj h
      show locks.Takes other (.join ..) (locks.hold task other timeout)
      unfold hold Turn.join
      rw [if_neg hknown]
      dsimp only
      cases hqueue : locks.queue other with
      | nil => exact takes_handOver locks other [{ task, wait := _ }]
      | cons first rest =>
        dsimp only
        rw [if_neg (List.cons_ne_nil first rest), ← hqueue]
        split
        · exact .of_end locks other task _
        · exact .of_put locks other _
  | release task exit =>
    have htarget : locks.targetOf? task = some target := h
    show locks.Takes target (.ofStep ..) (locks.release task exit)
    unfold release Turn.ofStep
    rw [htarget]
    dsimp only
    unfold holder?
    split
    · exact takes_remove locks task target (.left exit)
    · exact .of_put locks target _
  | cancel task =>
    have htarget : locks.targetOf? task = some target := h
    show locks.Takes target (.leave ..) (locks.cancel task)
    unfold cancel
    rw [htarget]
    exact takes_remove locks task target .cancelled
  | expire task =>
    have htarget : locks.targetOf? task = some target := h
    show locks.Takes target (.expire ..) (locks.expire task)
    unfold expire Turn.expire
    rw [htarget]
    dsimp only
    cases (locks.queue target).tail.find? fun waiter => waiter.task = task with
    | none => exact .refl locks target
    | some waiter => exact takes_remove locks task target _

end Locks

end SitePresets
