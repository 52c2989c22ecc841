import ProofScript.Run

/-!
# Substitution

A substitution puts formulas for variables. It leaves the constants alone and
extends to everything that is made of formulas: sequents, states, arguments and
steps.
-/

namespace ProofScript

/-- A formula for every variable. -/
abbrev Substitution := String → Formula

/-- The formula with its variables replaced. -/
def Formula.subst (σ : Substitution) : Formula → Formula
  | .var name => σ name
  | .binary op p q => .binary op (p.subst σ) (q.subst σ)
  | .not p => .not (p.subst σ)
  | .bot => .bot
  | .top => .top

/-- The sequent with its variables replaced. -/
def Sequent.subst (σ : Substitution) (sequent : Sequent) : Sequent where
  assumptions := sequent.assumptions.map (Formula.subst σ)
  goal := sequent.goal.subst σ

/-- The state with its variables replaced. -/
def State.subst (σ : Substitution) (state : State) : State where
  assumptions := state.assumptions.map (Formula.subst σ)
  goal := state.goal.map (Formula.subst σ)
  pending := { toList := state.pending.toList.map (Sequent.subst σ) }

/-- The argument with its variables replaced. -/
def Argument.subst (σ : Substitution) : Argument → Argument
  | .index number => .index number
  | .formula p => .formula (p.subst σ)

/-- The step with its variables replaced. -/
def Step.subst (σ : Substitution) (step : Step) : Step where
  pop := step.pop
  rule := step.rule
  argument := step.argument.map (Argument.subst σ)

@[simp]
theorem Formula.subst_var (p : Formula) : p.subst .var = p := by
  induction p with
  | var name => rfl
  | binary op p q hp hq => rw [Formula.subst, hp, hq]
  | not p hp => rw [Formula.subst, hp]
  | bot => rfl
  | top => rfl

end ProofScript
