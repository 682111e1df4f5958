import SitePresets.Error
import SitePresets.Table

/-!
# Locks

Locks of named targets. Each target has a queue of tasks: the first one holds the lock, the others
wait in the order in which they came.
-/

namespace SitePresets

namespace Lock

inductive Exit where
  | normal
  | crash
  deriving DecidableEq, Repr

/-- A task in a queue, how long it waits there for the lock, and how it leaves as soon as it holds it, if that
was asked for. -/
structure Waiter where
  task : String
  wait : Int
  exit : Option Exit := none
  deriving DecidableEq, Repr

inductive Ending where
  | left (exit : Exit)
  | cancelled
  /-- The lock was not free in time. -/
  | refused (target : String) (timeout : Int)
  deriving DecidableEq, Repr

/-- The error of a task that got no lock in time. -/
def Ending.error? : Ending → Option Error
  | refused target timeout => some (.lockTimeout target timeout)
  | _ => none

end Lock

open Lock

structure Locks where
  /-- How long a task waits that says nothing about it. -/
  patience : Int
  queues : Table String (List Waiter)
  ended : Table String Ending
  /-- The tasks that got a lock, in the order in which they got it. -/
  acquired : List String
  deriving Repr

namespace Locks

def defaultPatience : Int := 5

def empty (patience : Int) : Locks :=
  { patience, queues := .empty, ended := .empty, acquired := [] }

def queue (locks : Locks) (target : String) : List Waiter :=
  (locks.queues.get? target).getD []

def holder? (locks : Locks) (target : String) : Option String :=
  (locks.queue target).head?.map Waiter.task

def isLocked (locks : Locks) (target : String) : Bool :=
  !(locks.queue target).isEmpty

def targetOf? (locks : Locks) (task : String) : Option String :=
  (locks.queues.rows.find? fun row => row.2.any fun waiter => waiter.task = task).map Prod.fst

def isKnown (locks : Locks) (task : String) : Bool :=
  (locks.targetOf? task).isSome || locks.ended.contains task

/-- Lets the first task of a queue take the free lock. A task that was asked to leave does so at once,
and the next one takes it. -/
def handOver (locks : Locks) (target : String) : List Waiter → Locks
  | [] => { locks with queues := locks.queues.put target [] }
  | waiter :: rest =>
    let locks := { locks with acquired := locks.acquired ++ [waiter.task] }
    match waiter.exit with
    | some exit =>
      handOver { locks with ended := locks.ended.put waiter.task (.left exit) } target rest
    | none => { locks with queues := locks.queues.put target (waiter :: rest) }

/-- A new task asks for a target. On a taken one it waits, or fails at once if it has no time. -/
def hold (locks : Locks) (task target : String) (timeout : Option Int) : Locks :=
  if locks.isKnown task then locks
  else
    let wait := timeout.getD locks.patience
    match locks.queue target with
    | [] => locks.handOver target [{ task, wait }]
    | waiters =>
      if wait ≤ 0 then { locks with ended := locks.ended.put task (.refused target wait) }
      else { locks with queues := locks.queues.put target (waiters ++ [{ task, wait }]) }

/-- Takes a task out of its queue; if it held the lock the next one takes it. -/
def remove (locks : Locks) (task target : String) (ending : Ending) : Locks :=
  let locks := { locks with ended := locks.ended.put task ending }
  match locks.queue target with
  | [] => locks
  | first :: rest =>
    if first.task = task then locks.handOver target rest
    else { locks with
      queues := locks.queues.put target (first :: rest.filter fun waiter => waiter.task ≠ task) }

/-- Asks a task to leave. One that still waits leaves as soon as it holds the lock; what it was asked
first counts. -/
def release (locks : Locks) (task : String) (exit : Exit) : Locks :=
  match locks.targetOf? task with
  | none => locks
  | some target =>
    if locks.holder? target = some task then locks.remove task target (.left exit)
    else { locks with
      queues := locks.queues.put target ((locks.queue target).map fun waiter =>
        if waiter.task = task then { waiter with exit := waiter.exit.or (some exit) } else waiter) }

def cancel (locks : Locks) (task : String) : Locks :=
  match locks.targetOf? task with
  | none => locks
  | some target => locks.remove task target .cancelled

/-- The time of a task has run out. One that still waits fails; one that holds the lock waits no more. -/
def expire (locks : Locks) (task : String) : Locks :=
  match locks.targetOf? task with
  | none => locks
  | some target =>
    match (locks.queue target).tail.find? fun waiter => waiter.task = task with
    | none => locks
    | some waiter => locks.remove task target (.refused target waiter.wait)

end Locks

inductive TaskState where
  | waiting
  | holding
  | ended (ending : Lock.Ending)
  deriving DecidableEq, Repr

namespace Locks

/-- The state of a task; `none` if it never asked for a lock. -/
def state? (locks : Locks) (task : String) : Option TaskState :=
  match locks.ended.get? task with
  | some ending => some (.ended ending)
  | none =>
    match locks.targetOf? task with
    | some target => some (if locks.holder? target = some task then .holding else .waiting)
    | none => none

inductive Step where
  | hold (task target : String) (timeout : Option Int)
  | release (task : String) (exit : Lock.Exit)
  | cancel (task : String)
  | expire (task : String)
  deriving Repr

def step (locks : Locks) : Step → Locks
  | .hold task target timeout => locks.hold task target timeout
  | .release task exit => locks.release task exit
  | .cancel task => locks.cancel task
  | .expire task => locks.expire task

def run (locks : Locks) (steps : List Step) : Locks :=
  steps.foldl step locks

theorem isLocked_iff_holder? (locks : Locks) (target : String) :
    locks.isLocked target = (locks.holder? target).isSome := by
  unfold isLocked holder?
  cases locks.queue target <;> rfl

end Locks

end SitePresets
