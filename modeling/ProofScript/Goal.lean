import ProofScript.Formula.Printer

/-!
# Pending goals

A sequent is a goal that waits, with the assumptions that come into force when
it is taken up. Sequents wait in a queue and are served in the order of their
arrival. `GoalQueue.toList` shows a queue from its front; every operation is
described by what it does to that list.
-/

namespace ProofScript

/-- A pending goal with the assumptions it brings. -/
structure Sequent where
  assumptions : List Formula
  goal : Formula
deriving DecidableEq

/-- A pending goal prints as its assumptions, separated by commas, a turnstile
and the goal; without assumptions nothing stands before the turnstile. -/
def Sequent.display (sequent : Sequent) : String :=
  match sequent.assumptions with
  | [] => "⊢ " ++ sequent.goal.display
  | assumptions =>
      ", ".intercalate (assumptions.map Formula.display) ++ " ⊢ " ++ sequent.goal.display

/-- Pending goals in the order of their arrival, the oldest first. -/
structure GoalQueue where
  toList : List Sequent := []
deriving DecidableEq

namespace GoalQueue

/-- The queue in which nothing waits. -/
def empty : GoalQueue := {}

/-- A new goal waits behind all others. -/
def enqueue (queue : GoalQueue) (sequent : Sequent) : GoalQueue where
  toList := queue.toList ++ [sequent]

/-- Several goals arrive in the order of the list. -/
def enqueueAll (queue : GoalQueue) (sequents : List Sequent) : GoalQueue where
  toList := queue.toList ++ sequents

/-- The goal that has waited longest, and the queue without it. -/
def dequeue? (queue : GoalQueue) : Option (Sequent × GoalQueue) :=
  match queue.toList with
  | [] => none
  | sequent :: rest => some (sequent, { toList := rest })

/-- How many goals wait. -/
def size (queue : GoalQueue) : Nat := queue.toList.length

/-- Whether no goal waits. -/
def isEmpty (queue : GoalQueue) : Bool := queue.toList.isEmpty

@[simp]
theorem toList_empty : empty.toList = [] := rfl

@[simp]
theorem toList_enqueue (queue : GoalQueue) (sequent : Sequent) :
    (queue.enqueue sequent).toList = queue.toList ++ [sequent] := rfl

@[simp]
theorem toList_enqueueAll (queue : GoalQueue) (sequents : List Sequent) :
    (queue.enqueueAll sequents).toList = queue.toList ++ sequents := rfl

theorem dequeue?_eq_none_iff {queue : GoalQueue} :
    queue.dequeue? = none ↔ queue.toList = [] := by
  cases queue with
  | mk waiting => cases waiting <;> simp [dequeue?]

theorem dequeue?_eq_some_iff {queue rest : GoalQueue} {sequent : Sequent} :
    queue.dequeue? = some (sequent, rest) ↔ queue.toList = sequent :: rest.toList := by
  cases queue with
  | mk waiting => cases rest; cases waiting <;> simp [dequeue?]

end GoalQueue

end ProofScript
