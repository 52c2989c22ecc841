import ProofScript.Goal

/-!
# Proofs in progress

A state holds what a proof has come to: the assumptions in force, numbered from
one in the order of their arrival, the goal under proof, and the goals that still
wait. No goal is under proof before the first one is set and after the current
one has been closed; the next one then has to be taken from the queue.
-/

namespace ProofScript

/-- What a proof has come to. -/
structure State where
  assumptions : List Formula := []
  goal : Option Formula := none
  pending : GoalQueue := {}
deriving DecidableEq

namespace State

/-- The state before the first line of a script. -/
def empty : State := {}

/-- The state in which a proof of `goal` begins. -/
def start (goal : Formula) : State := { goal := some goal }

/-- The assumption with a given number. Numbers count from one. -/
def assumption? (state : State) : (number : Nat) → Option Formula
  | 0 => none
  | position + 1 => state.assumptions[position]?

/-- Whether nothing is left to prove. -/
def isComplete (state : State) : Bool := state.goal.isNone && state.pending.isEmpty

/-- How many goals are left to prove, the current one included. -/
def openGoals (state : State) : Nat := state.pending.size + if state.goal.isSome then 1 else 0

/-- The printed state, line by line: the numbered assumptions, the goals that
wait, and the goal under proof. -/
def lines (state : State) : List String :=
  ["Assumptions:"]
    ++ (state.assumptions.zipIdx 1).map
        (fun (formula, number) => "  " ++ toString number ++ ". " ++ formula.display)
    ++ ["Other goals:"]
    ++ state.pending.toList.map (fun sequent => "  " ++ sequent.display)
    ++ [match state.goal with
        | some goal => "Current goal: " ++ goal.display
        | none => "Current goal: Done."]

/-- The printed state. No line break follows the last line. -/
def display (state : State) : String := "\n".intercalate state.lines

/-- A state is complete exactly when it has no open goals. -/
theorem isComplete_iff_openGoals_eq_zero (state : State) :
    state.isComplete = true ↔ state.openGoals = 0 := by
  cases state with
  | mk assumptions goal pending =>
      cases goal <;> simp [isComplete, openGoals, GoalQueue.isEmpty, GoalQueue.size]

end State

end ProofScript
