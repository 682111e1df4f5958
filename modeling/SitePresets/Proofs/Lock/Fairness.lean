import SitePresets.Proofs.Lock.Independence

/-!
# Fair locks

A lock has one holder at most, and whoever asked first gets it first, unless it gives up before. A task that
has ended stays as it is, and the targets do not know of each other.
-/

namespace SitePresets.Locks

open Lock

variable {steps more : List Step} {step : Step} {task target : String} {locks after : Locks}

/-! ### Giving up -/

/-- The steps by which a task ends without the lock: it is cancelled while it waits, its time runs out before,
or it has no time to wait for a taken lock. -/
inductive GivesUp (locks : Locks) (task : String) : Step → Prop
  | cancelled {target : String} (hwaits : locks.Waits task target) : GivesUp locks task (.cancel task)
  | expired {target : String} (hwaits : locks.Waits task target) : GivesUp locks task (.expire task)
  | refused {target : String} {timeout : Option Int} (hnew : locks.state? task = none)
    (htaken : locks.isLocked target = true) (hwait : timeout.getD locks.patience ≤ 0) :
    GivesUp locks task (.hold task target timeout)

theorem not_ended_of_new (hnew : locks.state? task = none) : ¬ (locks.ended.get? task).isSome := by
  intro hended
  obtain ⟨ending, hending⟩ := Option.isSome_iff_exists.1 hended
  rw [state_eq_ended.2 hending] at hnew
  cases hnew

namespace Takes

variable {turn : Turn} (h : locks.Takes target turn after)

include h

/-- A turn in which only such tasks end that got the lock passes nobody over. -/
theorem isPassedOver_of_served
    (hended : ∀ other ∈ turn.ended.map Prod.fst, other ∈ locks.acquired ∨ other ∈ turn.gained)
    (hgained : ∀ other ∈ turn.gained, ¬ (locks.ended.get? other).isSome) :
    after.isPassedOver task ↔ locks.isPassedOver task := by
  rw [isPassedOver_iff, isPassedOver_iff, h.mem_acquired_iff, h.ended_isSome_iff, not_or]
  constructor
  · rintro ⟨⟨hacquired, hnot⟩, hturn | hbefore⟩
    · exact absurd (hended task hturn) (not_or.2 ⟨hacquired, hnot⟩)
    · exact ⟨hacquired, hbefore⟩
  · rintro ⟨hacquired, hbefore⟩
    exact ⟨⟨hacquired, fun hgain => hgained task hgain hbefore⟩, .inr hbefore⟩

/-- A turn in which one task ends without the lock passes that task over. -/
theorem isPassedOver_of_ended {other : String} (hended : turn.ended.map Prod.fst = [other])
    (hgained : turn.gained = []) (hother : other ∉ locks.acquired) :
    after.isPassedOver task ↔ locks.isPassedOver task ∨ task = other := by
  rw [isPassedOver_iff, isPassedOver_iff, h.mem_acquired_iff, h.ended_isSome_iff, hended, hgained,
    List.mem_singleton]
  constructor
  · rintro ⟨hacquired, heq | hbefore⟩
    · exact .inr heq
    · exact .inl ⟨fun hmem => hacquired (.inl hmem), hbefore⟩
  · rintro (⟨hacquired, hbefore⟩ | rfl)
    · exact ⟨fun hmem => hmem.elim hacquired (fun hnil => nomatch hnil), .inr hbefore⟩
    · exact ⟨fun hmem => hmem.elim hother (fun hnil => nomatch hnil), .inl rfl⟩

end Takes

namespace Tracks

variable (h : Tracks steps locks)

include h

theorem isPassedOver_of_leaves {ending : Ending} (hholds : locks.Holds task target)
    (hafter : locks.Takes target (.leave task ending (locks.queue target)) after) (other : String) :
    after.isPassedOver other ↔ locks.isPassedOver other := by
  have hholder := h.holds_iff.1 hholds
  refine (h.takes_leave hholds hafter).isPassedOver_of_served (fun found hfound => ?_)
    fun found hfound => ?_
  · rcases List.mem_cons.1 hfound with rfl | hfound
    · exact .inl (h.holder hholder)
    · exact .inr (Turn.mem_gained_of_ended hfound)
  · have hwaits : found ∈ locks.waiters target := Turn.mem_queue_of_gained hfound
    rw [h.active (waiters_subset hwaits)]
    exact Bool.false_ne_true

theorem isPassedOver_of_withdrawal {ending : Ending} (hwaits : locks.Waits task target)
    (hafter : locks.Takes target (.leave task ending (locks.queue target)) after) (other : String) :
    after.isPassedOver other ↔ locks.isPassedOver other ∨ other = task := by
  obtain ⟨first, rest, -, htakes⟩ := h.takes_withdrawal hwaits hafter
  exact htakes.isPassedOver_of_ended rfl rfl (h.not_mem_acquired (h.waits_iff.1 hwaits))

/-- The steps that pass a task over. -/
theorem isPassedOver_snoc (step : Step) (task : String) :
    (locks.step step).isPassedOver task ↔ locks.isPassedOver task ∨ locks.GivesUp task step := by
  -- A task ends without the lock when it is refused, or cancelled or out of time as it waits. Otherwise those
  -- that end had it.
  cases h.situation step with
  | idle hstep =>
    rw [step_of_concerned_none hstep]
    refine (or_iff_left ?_).symm
    rintro (hwaits | hwaits | ⟨hnew, -, -⟩)
    · exact nomatch hstep.symm.trans hwaits.1
    · exact nomatch hstep.symm.trans hwaits.1
    · exact nomatch hstep.symm.trans (h.concerned_of_new hnew _ _)
  | free timeout hnew hfree =>
    rw [(h.takes_free timeout hnew hfree).isPassedOver_of_served (fun _ hnil => nomatch hnil)
      fun other hother => List.mem_singleton.1 hother ▸ not_ended_of_new hnew]
    refine (or_iff_left ?_).symm
    rintro ⟨⟩
    rename_i htaken hwait
    exact nomatch hfree.symm.trans htaken
  | @refused other target timeout hnew htaken hwait =>
    have hother : other ∉ locks.acquired := by
      intro hacquired
      have hhome := h.home_of_acquired hacquired
      rw [h.state_eq_none.1 hnew] at hhome
      cases hhome
    rw [(h.takes_refused hnew htaken hwait).isPassedOver_of_ended rfl rfl hother]
    refine or_congr_right ⟨?_, ?_⟩
    · rintro rfl
      exact .refused hnew htaken hwait
    · rintro ⟨⟩
      rfl
  | queued hnew htaken hwait =>
    rw [(h.takes_queued hnew htaken hwait).isPassedOver_of_served (fun _ hnil => nomatch hnil)
      fun _ hnil => nomatch hnil]
    refine (or_iff_left ?_).symm
    rintro ⟨⟩
    omega
  | left exit hholds =>
    rw [h.isPassedOver_of_leaves hholds (h.takes_left hholds exit)]
    refine (or_iff_left ?_).symm
    rintro ⟨⟩
  | asked exit hwaits =>
    rw [(h.takes_asked hwaits exit).isPassedOver_of_served (fun _ hnil => nomatch hnil)
      fun _ hnil => nomatch hnil]
    refine (or_iff_left ?_).symm
    rintro ⟨⟩
  | dropped hholds =>
    rw [h.isPassedOver_of_leaves hholds (takes_cancel hholds.1)]
    refine (or_iff_left ?_).symm
    rintro ⟨hwaits⟩
    exact nomatch hholds.2.symm.trans hwaits.2
  | cancelled hwaits =>
    rw [h.isPassedOver_of_withdrawal hwaits (takes_cancel hwaits.1)]
    refine or_congr_right ⟨?_, ?_⟩
    · rintro rfl
      exact .cancelled hwaits
    · rintro ⟨⟩
      rfl
  | unaffected hholds =>
    rw [h.step_expire_of_holds hholds]
    refine (or_iff_left ?_).symm
    rintro ⟨⟩
    rename_i hwaits
    exact nomatch hholds.2.symm.trans hwaits.2
  | expired hwaits =>
    obtain ⟨waiter, -, -, htakes⟩ := h.takes_expired hwaits
    rw [h.isPassedOver_of_withdrawal hwaits htakes]
    refine or_congr_right ⟨?_, ?_⟩
    · rintro rfl
      exact .expired hwaits
    · rintro ⟨⟩
      rfl

end Tracks

/-- Who was passed over gave up at some step. -/
theorem isPassedOver_run (patience : Int) (steps : List Step) (task : String) :
    ((Locks.empty patience).run steps).isPassedOver task ↔
      ∃ before step rest, steps = before ++ step :: rest ∧
        ((Locks.empty patience).run before).GivesUp task step := by
  induction steps using List.reverseRecOn with
  | nil =>
    refine iff_of_false (fun hpassed => ?_) ?_
    · exact Bool.false_ne_true (isPassedOver_iff.1 hpassed).2
    · rintro ⟨before, step, rest, hsteps, -⟩
      simp at hsteps
  | append_singleton steps last ih =>
    rw [run_concat, (Tracks.of_run patience steps).isPassedOver_snoc, ih]
    constructor
    · rintro (⟨before, step, rest, rfl, hgives⟩ | hgives)
      · exact ⟨before, step, rest ++ [last], by simp, hgives⟩
      · exact ⟨steps, last, [], rfl, hgives⟩
    · rintro ⟨before, step, rest, hsteps, hgives⟩
      rcases List.eq_nil_or_concat rest with rfl | ⟨init, final, rfl⟩
      · obtain ⟨rfl, hlast⟩ := List.append_inj' hsteps rfl
        rw [(List.cons.inj hlast).1]
        exact .inr hgives
      · have hconcat : steps ++ [last] = (before ++ step :: init) ++ [final] := by
          rw [hsteps, List.concat_eq_append, List.append_assoc, List.cons_append]
        exact .inl ⟨before, step, init, (List.append_inj' hconcat rfl).1, hgives⟩

/-! ### Times -/

/-- Whoever holds a lock or waits for it does so with the time that it asked for. -/
theorem timed_run (patience : Int) (steps : List Step) :
    ((Locks.empty patience).run steps).patience = patience ∧
      ∀ target, ∀ waiter ∈ ((Locks.empty patience).run steps).queue target,
        ∃ timeout, .hold waiter.task target timeout ∈ steps ∧
          waiter.wait = timeout.getD patience := by
  induction steps using List.reverseRecOn with
  | nil => exact ⟨rfl, fun _ _ h => nomatch h⟩
  | append_singleton steps step ih =>
    obtain ⟨hpatience, htimed⟩ := ih
    rw [run_concat]
    have hkept (target : String) (waiter : Waiter)
        (hwaiter : waiter ∈ ((Locks.empty patience).run steps).queue target) :
        ∃ timeout, .hold waiter.task target timeout ∈ steps ++ [step] ∧
          waiter.wait = timeout.getD patience := by
      obtain ⟨timeout, hstep, hwait⟩ := htimed target waiter hwaiter
      exact ⟨timeout, List.mem_append_left _ hstep, hwait⟩
    cases hconcerned : ((Locks.empty patience).run steps).concerned? step with
    | none =>
      rw [step_of_concerned_none hconcerned]
      exact ⟨hpatience, hkept⟩
    | some concerned =>
      have htakes := takes_step hconcerned
      refine ⟨htakes.patience_eq.trans hpatience, fun target waiter hwaiter => ?_⟩
      rw [htakes.queue_eq] at hwaiter
      split at hwaiter
      · rename_i htarget
        subst htarget
        rcases Turn.timed_ofStep hwaiter with
          ⟨before, hbefore, htask, hwait⟩ | ⟨asked, timeout, rfl, hwait⟩
        · rw [← htask, ← hwait]
          exact hkept target before hbefore
        · obtain rfl : asked = target := by
            have hnew : (if Locks.isKnown _ waiter.task then none else some asked) = some target := hconcerned
            split at hnew
            · cases hnew
            · exact Option.some.inj hnew
          rw [hpatience] at hwait
          exact ⟨timeout, List.mem_append_right _ List.mem_cons_self, hwait⟩
      · exact hkept target waiter hwaiter

/-! ### What has ended -/

namespace Passes

variable {turn : Turn} (h : Passes steps locks step target turn after)

include h

theorem active_of_turn (htask : task ∈ turn.ended.map Prod.fst) :
    locks.ended.get? task = none := by
  rcases List.mem_append.1 ((h.fair.accounted task).2 (.inr htask)) with hqueued | hnew
  · exact h.tracks.active hqueued
  · exact (h.fresh_of_waited (List.mem_append_right _ hnew)).1

/-- Who has ended neither ends once more nor gets a lock. -/
theorem keeps_ended {ending : Ending} (hended : locks.ended.get? task = some ending) :
    after.ended.get? task = some ending ∧ (task ∈ after.acquired ↔ task ∈ locks.acquired) := by
  constructor
  · have hnone : Table.find? task turn.ended.reverse = none := by
      rw [← Option.not_isSome_iff_eq_none, Table.find?_isSome_iff, List.map_reverse,
        List.mem_reverse]
      intro htask
      rw [h.active_of_turn htask] at hended
      cases hended
    rw [h.takes.ended_eq, hnone, Option.none_or, hended]
  · rw [h.takes.mem_acquired_iff]
    refine or_iff_left fun hgained => ?_
    rw [(h.fresh_of_waited (h.waited_of_gained hgained)).1] at hended
    cases hended

end Passes

namespace Tracks

theorem keeps_ended (h : Tracks steps locks) {ending : Ending}
    (hended : locks.ended.get? task = some ending) (more : List Step) :
    (locks.run more).ended.get? task = some ending ∧
      (task ∈ (locks.run more).acquired ↔ task ∈ locks.acquired) := by
  induction more generalizing steps locks with
  | nil => exact ⟨hended, .rfl⟩
  | cons step rest ih =>
    have hstep : (locks.step step).ended.get? task = some ending ∧
        (task ∈ (locks.step step).acquired ↔ task ∈ locks.acquired) := by
      cases hconcerned : locks.concerned? step with
      | none =>
        rw [step_of_concerned_none hconcerned]
        exact ⟨hended, .rfl⟩
      | some target => exact (h.passes hconcerned).keeps_ended hended
    obtain ⟨hlater, hacquired⟩ := ih (h.snoc step) hstep.1
    exact ⟨hlater, hacquired.trans hstep.2⟩

end Tracks

/-! ### Taking turns -/

/-- What locks keep to that have come about by some steps. -/
structure TakeTurns (patience : Int) (steps : List Step) (locks : Locks) : Prop where
  /-- A target has one holder at most. -/
  exclusive : ∀ target task other,
    locks.Holds task target → locks.Holds other target → task = other
  locked_iff : ∀ target, locks.isLocked target = true ↔ ∃ task, locks.Holds task target
  /-- Nobody waits for a free target. -/
  busy : ∀ task target, locks.Waits task target → locks.isLocked target = true
  /-- No task is lost. -/
  accounted : ∀ task target, home? steps task = some target →
    locks.Holds task target ∨ locks.Waits task target ∨
      ∃ ending, locks.state? task = some (.ended ending)
  waits_iff : ∀ task target, locks.Waits task target ↔ task ∈ locks.waiters target
  /-- The tasks of a target get it in the order in which they came. Those that have got it, and then
  those that wait, are all but the ones that are passed over. -/
  order : ∀ target,
    (locks.acquired.filter fun task => home? steps task = some target) ++ locks.waiters target =
      (arrivals steps target).filter fun task => !locks.isPassedOver task
  /-- Only those are passed over that were cancelled or ran out of time as they waited, or had no time to
  wait. -/
  passed_over : ∀ task, locks.isPassedOver task ↔
    ∃ before step rest, steps = before ++ step :: rest ∧
      ((Locks.empty patience).run before).GivesUp task step
  /-- Each task in a queue has the time that it asked for. -/
  timed : ∀ target, ∀ waiter ∈ locks.queue target, ∃ timeout,
    .hold waiter.task target timeout ∈ steps ∧ waiter.wait = timeout.getD patience
  responds : locks.Responds
  /-- Who has ended stays so, and gets no lock later. -/
  final : ∀ task ending, locks.state? task = some (.ended ending) → ∀ more,
    (locks.run more).state? task = some (.ended ending) ∧
      (task ∈ (locks.run more).acquired ↔ task ∈ locks.acquired)
  /-- Each target is as if only its own tasks had taken steps. -/
  apart : ∀ target,
    let own := (Locks.empty patience).run
      (steps.filter fun step => home? steps step.task = some target)
    own.queue target = locks.queue target ∧
      (own.acquired = locks.acquired.filter fun task => home? steps task = some target) ∧
        ∀ task, home? steps task = some target → own.state? task = locks.state? task

/-- Locks take turns, whatever the tasks do. -/
theorem run_takesTurns (patience : Int) (steps : List Step) :
    TakeTurns patience steps ((Locks.empty patience).run steps) := by
  have h := Tracks.of_run patience steps
  refine ⟨?_, ?_, ?_, ?_, fun _ _ => h.waits_iff, h.order, isPassedOver_run patience steps,
    (timed_run patience steps).2, h.responds, ?_, ?_⟩
  · intro target task other htask hother
    exact Option.some.inj ((h.holds_iff.1 htask).symm.trans (h.holds_iff.1 hother))
  · intro target
    simp only [h.holds_iff]
    rw [isLocked_iff_holder?, Option.isSome_iff_exists]
  · intro task target hwaits
    obtain ⟨first, hfirst, -⟩ := h.exists_holder_of_waits (h.waits_iff.1 hwaits)
    rw [isLocked_iff_holder?, hfirst]
    rfl
  · intro task target hhome
    rcases h.queued_or_ended hhome with hqueued | hended
    · rcases h.holds_or_waits (h.targetOf_eq_some.2 hqueued) with hholds | hwaits
      · exact .inl hholds
      · exact .inr (.inl hwaits)
    · obtain ⟨ending, hending⟩ := Option.isSome_iff_exists.1 hended
      exact .inr (.inr ⟨ending, state_eq_ended.2 hending⟩)
  · intro task ending hstate more
    obtain ⟨hended, hacquired⟩ := h.keeps_ended (state_eq_ended.1 hstate) more
    exact ⟨state_eq_ended.2 hended, hacquired⟩
  · intro target
    have hon (task home : String) (hhome : home? steps task = some home) :
        decide (home? steps task = some target) = true ↔ home = target := by
      rw [decide_eq_true_iff, hhome, Option.some_inj]
    have hpart := Tracks.isPartOf_run patience steps hon
    refine ⟨hpart.queue_eq, hpart.acquired_eq, fun task htask => ?_⟩
    refine h.state_eq_of_isPartOf (Tracks.of_run patience _) hpart (decide_eq_true htask) ?_
    have hsame := home_filter (fun task => home? steps task = some target) (decide_eq_true htask) steps
    intro other hother
    rw [hsame, or_self] at hother
    exact Option.some.inj (hother.symm.trans htask)

/-- Who is out of time gets no lock, and who comes after moves up. -/
example :
    let locks := (Locks.empty 5).run [.hold "a" "site" none, .hold "b" "site" (some 3),
      .hold "c" "site" none, .expire "b", .expire "a", .release "a" .normal]
    locks.acquired = ["a", "c"] ∧ locks.state? "b" = some (.ended (.refused "site" 3)) ∧
      locks.state? "c" = some .holding := by
  decide

/-- Who is to leave before it holds the lock gets it in its turn, and passes it on at once. -/
example :
    let locks := (Locks.empty 5).run [.hold "a" "site" none, .hold "b" "site" none,
      .hold "c" "site" none, .release "b" .normal, .release "a" .crash]
    locks.acquired = ["a", "b", "c"] ∧ locks.state? "b" = some (.ended (.left .normal)) ∧
      locks.state? "c" = some .holding := by
  decide

end SitePresets.Locks
