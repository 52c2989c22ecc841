import ProofScript.Refinement

/-!
# Running steps

`State.apply` applies one step: it takes the next pending goal if the step says
so, and then applies the rule of the step, if it names one. A refused step leaves
nothing behind, not even the goal it took. `State.run` applies steps one after
the other, numbers them as lines and stops at the first refusal. `State.attempts`
shows what came of each step, and can go on after a refusal from the state before
it.
-/

namespace ProofScript

/-- A refused step: the number of its line and the cause. -/
structure Failure where
  line : Nat
  cause : Refusal
deriving DecidableEq

/-- A step that was applied: the number of its line, and the state after it. -/
structure Applied where
  line : Nat
  step : Step
  after : State
deriving DecidableEq

namespace State

/-- Take up the goal that has waited longest. Its assumptions join those in
force. That a goal waits is checked before that none is under proof. -/
def pop (state : State) : Except Refusal State :=
  match state.pending.dequeue?, state.goal with
  | none, _ => .error .noGoalsLeft
  | some _, some _ => .error .goalNotProven
  | some (next, rest), none =>
      .ok {
        assumptions := state.assumptions ++ next.assumptions
        goal := some next.goal
        pending := rest }

/-- Apply a rule. The rule `goal` starts over from any state; an inference looks
at nothing before it has made sure that a goal is under proof. -/
def applyRule (state : State) (argument : Option Argument) : Rule → Except Refusal State
  | .goal =>
      match argument.bind Argument.formula? with
      | none => .error .invalidGoal
      | some goal => .ok (start goal)
  | .infer inference =>
      match state.goal with
      | none => .error .noCurrentGoal
      | some goal => (inference.refine state argument goal).map state.refine

/-- Apply one step. -/
def apply (state : State) (step : Step) : Except Refusal State := do
  let ready ← if step.pop then state.pop else .ok state
  match step.rule with
  | none => .ok ready
  | some rule => ready.applyRule step.argument rule

/-- Apply steps in order; the first of them stands on the given line. -/
def runFrom (state : State) (line : Nat) : Script → Except Failure State
  | [] => .ok state
  | step :: rest =>
      match state.apply step with
      | .error cause => .error { line, cause }
      | .ok next => next.runFrom (line + 1) rest

/-- Apply the steps of a script, whose lines count from one. -/
def run (state : State) (script : Script) : Except Failure State := state.runFrom 1 script

/-- What comes of each step in turn: the state after it, or why it was refused.
After a refusal nothing more is tried, unless `keepGoing` asks to go on from the
state before the refused step. -/
def attempts (keepGoing : Bool) (state : State) : Script → List (Except Refusal State)
  | [] => []
  | step :: rest =>
      match state.apply step with
      | .ok next => .ok next :: next.attempts keepGoing rest
      | .error cause =>
          .error cause :: if keepGoing then state.attempts keepGoing rest else []

/-- The last state that a list of attempts reached, starting from `state`. -/
def lastGood (state : State) : List (Except Refusal State) → State
  | [] => state
  | .ok next :: rest => next.lastGood rest
  | .error _ :: rest => state.lastGood rest

/-- The steps that a run applies before it ends; the first of them stands on the
given line. -/
def history (state : State) (line : Nat) : Script → List Applied
  | [] => []
  | step :: rest =>
      match state.apply step with
      | .error _ => []
      | .ok next => { line, step, after := next } :: next.history (line + 1) rest

end State

end ProofScript
