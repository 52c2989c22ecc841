import ProofScript.Refusal
import ProofScript.Rule
import ProofScript.State

/-!
# Inferences as refinements of a goal

Inferences are read backwards: an inference replaces the goal under proof by what
suffices to prove it. `Refinement` records the replacement, that is the goal to go
on with, if any, the assumptions it may use from now on, and the further goals
that have to wait. `Inference.refine` is the table of the rules; it sees the goal,
the argument of the line and the state in which an assumption number is looked up,
and it changes nothing. `State.refine` carries a refinement out.
-/

namespace ProofScript

/-- What an inference puts in place of the goal under proof. -/
structure Refinement where
  /-- The goal to go on with; none if the inference leaves the goal closed or
  to its subgoals. -/
  goal : Option Formula := none
  /-- New assumptions, in force from now on. -/
  assumed : List Formula := []
  /-- New goals, which wait behind those already pending. -/
  subgoals : List Sequent := []
deriving DecidableEq

namespace Refinement

/-- Nothing is left to prove of the goal. -/
def closed : Refinement := {}

/-- Another goal takes the place of the goal. -/
def replaced (goal : Formula) : Refinement := { goal := some goal }

/-- Another goal takes the place of the goal, under one more assumption. -/
def supposed (assumption goal : Formula) : Refinement :=
  { goal := some goal, assumed := [assumption] }

/-- The goal is left to goals that have to wait. -/
def divided (subgoals : List Sequent) : Refinement := { subgoals }

end Refinement

/-- What each inference makes of a goal. Where an inference needs an argument of
some form, an argument of another form counts as none. -/
def Inference.refine (inference : Inference) (state : State) (argument : Option Argument)
    (goal : Formula) : Except Refusal Refinement :=
  match inference with
  | .assm =>
      match argument.bind Argument.index? with
      | none => .error .numberRequired
      | some number =>
          match state.assumption? number with
          | none => .error .assumptionOutOfBounds
          | some assumption =>
              if assumption = goal then .ok .closed else .error .assumptionMismatch
  | .andI =>
      match goal with
      | .and p q => .ok (.divided [⟨[], p⟩, ⟨[], q⟩])
      | _ => .error .notConjunction
  | .andE1 =>
      match argument.bind Argument.formula? with
      | some (.and p q) =>
          if q = goal then .ok (.replaced (.and p q)) else .error .rightConjunctMismatch
      | _ => .error .conjunctionRequired
  | .andE2 =>
      match argument.bind Argument.formula? with
      | some (.and p q) =>
          if p = goal then .ok (.replaced (.and p q)) else .error .leftConjunctMismatch
      | _ => .error .conjunctionRequired
  | .orI1 =>
      match goal with
      | .or p _ => .ok (.replaced p)
      | _ => .error .notDisjunction
  | .orI2 =>
      match goal with
      | .or _ q => .ok (.replaced q)
      | _ => .error .notDisjunction
  | .orE =>
      match argument.bind Argument.formula? with
      | some (.or p q) => .ok (.divided [⟨[], .or p q⟩, ⟨[p], goal⟩, ⟨[q], goal⟩])
      | _ => .error .disjunctionRequired
  | .implI =>
      match goal with
      | .implies p q => .ok (.supposed p q)
      | _ => .error .notImplication
  | .implE =>
      match argument.bind Argument.formula? with
      | some (.implies p q) => .ok (.divided [⟨[], .implies p q⟩, ⟨[], p⟩])
      | _ => .error .implicationRequired
  | .notI =>
      match goal with
      | .not p => .ok (.supposed p .bot)
      | _ => .error .notNegation
  | .notE =>
      match argument.bind Argument.formula? with
      | some p => .ok (.divided [⟨[], .not p⟩, ⟨[], p⟩])
      | none => .error .formulaRequired
  | .dNeg => .ok (.replaced (.not (.not goal)))
  | .lem =>
      match goal with
      | .or (.not p) q => if p = q then .ok .closed else .error .notExcludedMiddle
      | _ => .error .notExcludedMiddle
  | .abort => .ok (.replaced .bot)

/-- The state in which a refinement of the goal under proof has been carried
out. -/
def State.refine (state : State) (refinement : Refinement) : State where
  assumptions := state.assumptions ++ refinement.assumed
  goal := refinement.goal
  pending := state.pending.enqueueAll refinement.subgoals

end ProofScript
