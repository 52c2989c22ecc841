/-!
# Refused steps

A step that does not apply is refused for one cause. The causes stand here in
the order of the rules that give them, the two of taking a goal first, and
`Refusal.message` holds their wording.
-/

namespace ProofScript

/-- Why a step does not apply. -/
inductive Refusal where
  /-- A goal was to be taken and none waits. -/
  | noGoalsLeft
  /-- A goal was to be taken while another is under proof. -/
  | goalNotProven
  /-- The rule `goal` without a formula. -/
  | invalidGoal
  /-- An inference with no goal under proof. -/
  | noCurrentGoal
  /-- The rule `assm` without a number. -/
  | numberRequired
  /-- The rule `assm` with a number that no assumption has. -/
  | assumptionOutOfBounds
  /-- The rule `assm` with an assumption other than the goal. -/
  | assumptionMismatch
  /-- The rule `andI` on a goal that is no conjunction. -/
  | notConjunction
  /-- The rules `andE1` and `andE2` without a conjunction. -/
  | conjunctionRequired
  /-- The rule `andE1` with a right conjunct other than the goal. -/
  | rightConjunctMismatch
  /-- The rule `andE2` with a left conjunct other than the goal. -/
  | leftConjunctMismatch
  /-- The rules `orI1` and `orI2` on a goal that is no disjunction. -/
  | notDisjunction
  /-- The rule `orE` without a disjunction. -/
  | disjunctionRequired
  /-- The rule `implI` on a goal that is no implication. -/
  | notImplication
  /-- The rule `implE` without an implication. -/
  | implicationRequired
  /-- The rule `notI` on a goal that is no negation. -/
  | notNegation
  /-- The rule `notE` without a formula. -/
  | formulaRequired
  /-- The rule `lem` on a goal not of the form `¬p ∨ p`. -/
  | notExcludedMiddle
deriving DecidableEq

/-- The wording of a refusal. -/
def Refusal.message : Refusal → String
  | noGoalsLeft => "No goals left."
  | goalNotProven => "Current goal not proven yet."
  | invalidGoal => "Not a valid goal."
  | noCurrentGoal => "No current goal. Either set or pop one."
  | numberRequired => "Assumption rule requires a positive number."
  | assumptionOutOfBounds => "Assumption out of bounds."
  | assumptionMismatch => "Assumption does not match goal."
  | notConjunction => "Not an & formula."
  | conjunctionRequired => "No valid & formula given."
  | rightConjunctMismatch => "And-elimination-1 does not apply."
  | leftConjunctMismatch => "And-elimination-2 does not apply."
  | notDisjunction => "Not an or formula."
  | disjunctionRequired => "Or-elimination needs a disjunctive motive."
  | notImplication => "Impl-introduction does not apply."
  | implicationRequired => "Impl-elimination needs an implicative motive."
  | notNegation => "Not-introduction does not apply."
  | formulaRequired => "Not-elimination needs a formula motive."
  | notExcludedMiddle => "Excluded middle does not apply."

end ProofScript
