import Mathlib.Logic.Equiv.Basic
import ProofScript.Formula.Substitution
import ProofScript.Proofs.RuleTable

/-!
# Proofs are schematic

Inferences look at the form of formulas and compare them, but never at the name of a
variable. So a script goes through with any formulas put for its variables, from the
state with the same formulas put for them, and ends in the state that it reached before,
again with these formulas. This is shown line by line of the table
(`Inference.Yields.subst`).

A substitution can make formulas equal that were not, or give a variable the form that a
rule asks for, and a script that was refused may then go through. An injective renaming
does neither, and under it a run is the same in every case, refusals included
(`Inference.refine_renaming`).
-/

namespace ProofScript

/-- The refinement with its variables replaced. -/
def Refinement.subst (σ : Substitution) (refinement : Refinement) : Refinement where
  goal := refinement.goal.map (Formula.subst σ)
  assumed := refinement.assumed.map (Formula.subst σ)
  subgoals := refinement.subgoals.map (Sequent.subst σ)

namespace State

variable (σ : Substitution) (state : State)

theorem assumption?_subst (number : Nat) :
    (state.subst σ).assumption? number = (state.assumption? number).map (Formula.subst σ) := by
  cases number with
  | zero => rfl
  | succ position => exact List.getElem?_map ..

theorem refine_subst (refinement : Refinement) :
    (state.subst σ).refine (refinement.subst σ) = (state.refine refinement).subst σ := by
  simp [State.refine, State.subst, Refinement.subst, GoalQueue.enqueueAll]

/-- Whether a goal can be taken has nothing to do with the formulas of a state. -/
theorem pop_subst : (state.subst σ).pop = state.pop.map (State.subst σ) := by
  rcases state with ⟨assumptions, goal, ⟨waiting⟩⟩
  rcases waiting with _ | ⟨sequent, rest⟩
  · rfl
  · cases goal with
    | some goal => rfl
    | none =>
        simp [State.pop, State.subst, Sequent.subst, GoalQueue.dequeue?, Except.map]

end State

/-! ## Any substitution -/

section Substitution

variable {σ : Substitution} {state next : State} {argument : Option Argument}

/-- Every line of the table holds with its variables replaced. -/
theorem Inference.Yields.subst {inference : Inference} {goal : Formula} {refinement : Refinement}
    (σ : Substitution) (yields : inference.Yields state argument goal refinement) :
    inference.Yields (state.subst σ) (argument.map (Argument.subst σ)) (goal.subst σ)
      (refinement.subst σ) := by
  cases yields with
  | assm found =>
      refine .assm ?_
      rw [State.assumption?_subst, found, Option.map_some]
  | andI => exact .andI
  | andE1 => exact .andE1
  | andE2 => exact .andE2
  | orI1 => exact .orI1
  | orI2 => exact .orI2
  | orE => exact .orE
  | implI => exact .implI
  | implE => exact .implE
  | notI => exact .notI
  | notE => exact .notE
  | dNeg => exact .dNeg
  | lem => exact .lem
  | abort => exact .abort

theorem State.applyRule_subst {rule : Rule} (applied : state.applyRule argument rule = .ok next) :
    (state.subst σ).applyRule (argument.map (Argument.subst σ)) rule = .ok (next.subst σ) := by
  rcases State.applyRule_eq_ok_iff.mp applied with
    ⟨rfl, goal, rfl, rfl⟩ | ⟨inference, goal, refinement, rfl, current, yields, rfl⟩
  · rfl
  · refine State.applyRule_eq_ok_iff.mpr (.inr ⟨inference, goal.subst σ, refinement.subst σ, rfl,
      ?_, yields.subst σ, ?_⟩)
    · simp [State.subst, current]
    · rw [State.refine_subst]

/-- A step that applies does so with its variables replaced. -/
theorem State.apply_subst {step : Step} (applied : state.apply step = .ok next) :
    (state.subst σ).apply (step.subst σ) = .ok (next.subst σ) := by
  obtain ⟨ready, taken, acted⟩ := State.apply_eq_ok_iff.mp applied
  refine State.apply_eq_ok_iff.mpr ⟨ready.subst σ, ?_, ?_⟩
  · rcases taken with ⟨pop, popped⟩ | ⟨stay, rfl⟩
    · refine .inl ⟨pop, ?_⟩
      rw [State.pop_subst, popped]
      rfl
    · exact .inr ⟨stay, rfl⟩
  · rcases acted with ⟨bare, rfl⟩ | ⟨rule, named, applied⟩
    · exact .inl ⟨bare, rfl⟩
    · exact .inr ⟨rule, named, State.applyRule_subst applied⟩

theorem State.runFrom_subst {line : Nat} {script : Script}
    (ran : state.runFrom line script = .ok next) :
    (state.subst σ).runFrom line (script.map (Step.subst σ)) = .ok (next.subst σ) := by
  induction script generalizing state line with
  | nil =>
      cases ran
      rfl
  | cons step rest ih =>
      obtain ⟨middle, applied, ran⟩ := State.runFrom_cons_eq_ok_iff.mp ran
      exact State.runFrom_cons_eq_ok_iff.mpr ⟨_, State.apply_subst applied, ih ran⟩

end Substitution

/-! ## Injective renamings -/

theorem Formula.subst_subst (σ τ : Substitution) (p : Formula) :
    (p.subst σ).subst τ = p.subst fun name => (σ name).subst τ := by
  induction p with
  | var name => rfl
  | binary op p q left right => rw [Formula.subst, Formula.subst, Formula.subst, left, right]
  | not p ih => rw [Formula.subst, Formula.subst, Formula.subst, ih]
  | bot => rfl
  | top => rfl

/-- The substitution that puts variables for variables. -/
def Substitution.renaming (rename : String → String) : Substitution :=
  fun name => .var (rename name)

section Renaming

variable {rename : String → String}

/-- An injective renaming makes no two formulas equal: it can be undone. -/
theorem Formula.subst_renaming_inj (injective : Function.Injective rename) {p q : Formula} :
    p.subst (.renaming rename) = q.subst (.renaming rename) ↔ p = q := by
  obtain ⟨back, undone⟩ := injective.hasLeftInverse
  have undo (p : Formula) : (p.subst (.renaming rename)).subst (.renaming back) = p := by
    have same : (fun name => (Substitution.renaming rename name).subst (.renaming back)) =
        Formula.var := by
      funext name
      exact congrArg Formula.var (undone name)
    rw [Formula.subst_subst, same, Formula.subst_var]
  constructor
  · intro same
    rw [← undo p, same, undo q]
  · intro same
    rw [same]

/-- Under an injective renaming the table decides as before, and for the same cause. -/
theorem Inference.refine_renaming (injective : Function.Injective rename) (inference : Inference)
    (state : State) (argument : Option Argument) (goal : Formula) :
    inference.refine (state.subst (.renaming rename))
        (argument.map (Argument.subst (.renaming rename))) (goal.subst (.renaming rename)) =
      (inference.refine state argument goal).map (Refinement.subst (.renaming rename)) := by
  have same {p q : Formula} := Formula.subst_renaming_inj injective (p := p) (q := q)
  -- A renaming keeps the form of a formula, so where only forms are asked for both
  -- sides compute alike; the rules that compare formulas need that it is injective.
  cases inference with
  | assm =>
      rcases argument with _ | number | p
      · rfl
      · simp only [refine, Option.map_some, Argument.subst, Option.bind_some, Argument.index?,
          State.assumption?_subst]
        cases state.assumption? number with
        | none => rfl
        | some assumption =>
            simp only [Option.map_some, same]
            split <;> rfl
      · rfl
  | andI => rcases goal with _ | ⟨_ | _ | _, p, q⟩ | _ | _ | _ <;> rfl
  | andE1 =>
      rcases argument with _ | number | _ | ⟨_ | _ | _, p, q⟩ | _ | _ | _ <;> try rfl
      simp only [refine, Option.map_some, Argument.subst, Option.bind_some, Argument.formula?,
        Formula.subst, same]
      split <;> rfl
  | andE2 =>
      rcases argument with _ | number | _ | ⟨_ | _ | _, p, q⟩ | _ | _ | _ <;> try rfl
      simp only [refine, Option.map_some, Argument.subst, Option.bind_some, Argument.formula?,
        Formula.subst, same]
      split <;> rfl
  | orI1 => rcases goal with _ | ⟨_ | _ | _, p, q⟩ | _ | _ | _ <;> rfl
  | orI2 => rcases goal with _ | ⟨_ | _ | _, p, q⟩ | _ | _ | _ <;> rfl
  | orE => rcases argument with _ | number | _ | ⟨_ | _ | _, p, q⟩ | _ | _ | _ <;> rfl
  | implI => rcases goal with _ | ⟨_ | _ | _, p, q⟩ | _ | _ | _ <;> rfl
  | implE => rcases argument with _ | number | _ | ⟨_ | _ | _, p, q⟩ | _ | _ | _ <;> rfl
  | notI => cases goal <;> rfl
  | notE => rcases argument with _ | number | p <;> rfl
  | dNeg => rfl
  | lem =>
      rcases goal with _ | ⟨_ | _ | _, _ | _ | p | _ | _, q⟩ | _ | _ | _ <;> try rfl
      simp only [refine, Formula.subst, same]
      split <;> rfl
  | abort => rfl

theorem State.applyRule_renaming (injective : Function.Injective rename) (state : State)
    (argument : Option Argument) (rule : Rule) :
    (state.subst (.renaming rename)).applyRule
        (argument.map (Argument.subst (.renaming rename))) rule =
      (state.applyRule argument rule).map (State.subst (.renaming rename)) := by
  cases rule with
  | goal => rcases argument with _ | number | p <;> rfl
  | infer inference =>
      have renamed : (state.subst (.renaming rename)).goal =
          state.goal.map (Formula.subst (.renaming rename)) := rfl
      simp only [State.applyRule, renamed]
      cases state.goal with
      | none => rfl
      | some goal =>
          simp only [Option.map_some, Inference.refine_renaming injective]
          cases inference.refine state argument goal with
          | error cause => rfl
          | ok refinement => exact congrArg Except.ok (State.refine_subst ..)

/-- Under an injective renaming a step applies or is refused as before. -/
theorem State.apply_renaming (injective : Function.Injective rename) (state : State)
    (step : Step) :
    (state.subst (.renaming rename)).apply (step.subst (.renaming rename)) =
      (state.apply step).map (State.subst (.renaming rename)) := by
  have applied (ready : State) := State.applyRule_renaming injective ready step.argument
  rcases step with ⟨_ | _, rule, argument⟩
  · cases rule with
    | none => rfl
    | some rule => exact applied state rule
  · simp only [State.apply, Step.subst, if_true, State.pop_subst]
    cases state.pop with
    | error cause => rfl
    | ok ready =>
        cases rule with
        | none => rfl
        | some rule => exact applied ready rule

theorem State.runFrom_renaming (injective : Function.Injective rename) (state : State)
    (line : Nat) (script : Script) :
    (state.subst (.renaming rename)).runFrom line (script.map (Step.subst (.renaming rename))) =
      (state.runFrom line script).map (State.subst (.renaming rename)) := by
  induction script generalizing state line with
  | nil => rfl
  | cons step rest ih =>
      rw [List.map_cons, State.runFrom, State.runFrom, State.apply_renaming injective]
      cases state.apply step with
      | error cause => rfl
      | ok next => exact ih next (line + 1)

end Renaming

/-- A script that goes through goes through with any formulas put for its variables, and
reaches the state with the same formulas put for them. An injective renaming changes
nothing else in any case: it reaches the renamed state, or is refused at the same line for
the same cause. -/
theorem runs_are_schematic :
    (∀ (σ : Substitution) (state reached : State) (script : Script),
      state.run script = .ok reached →
      (state.subst σ).run (script.map (Step.subst σ)) = .ok (reached.subst σ)) ∧
    ∀ rename : String → String, Function.Injective rename →
      ∀ (state : State) (script : Script),
        (state.subst (.renaming rename)).run (script.map (Step.subst (.renaming rename))) =
          (state.run script).map (State.subst (.renaming rename)) := by
  constructor
  · intro σ state reached script ran
    exact State.runFrom_subst ran
  · intro rename injective state script
    exact State.runFrom_renaming injective state 1 script

/-- A proof that a conjunction implies what is claimed to be its left part. -/
def projection (p q claimed : Formula) : Script :=
  [{ rule := some .goal, argument := some (.formula (.implies (.and p q) claimed)) },
    { rule := some (.infer .implI) },
    { rule := some (.infer .andE2), argument := some (.formula (.and p q)) },
    { rule := some (.infer .assm), argument := some (.index 1) }]

/-- The proof for two variables goes through for two other formulas. A wrong one is
refused with the variables exchanged as it was before. -/
theorem projection_is_schematic :
    State.empty.run (projection (.not (.var "c")) .bot (.not (.var "c"))) =
      .ok { assumptions := [.and (.not (.var "c")) .bot] } ∧
    State.empty.run (projection (.var "b") (.var "a") (.var "a")) =
      .error ⟨3, .leftConjunctMismatch⟩ := by
  constructor
  · have ran : State.empty.run (projection (.var "a") (.var "b") (.var "a")) =
        .ok { assumptions := [.and (.var "a") (.var "b")] } := rfl
    let σ : Substitution := fun name => if name = "a" then .not (.var "c") else .bot
    exact runs_are_schematic.1 σ _ _ _ ran
  · have refused : State.empty.run (projection (.var "a") (.var "b") (.var "b")) =
        .error ⟨3, .leftConjunctMismatch⟩ := rfl
    have exchanged := runs_are_schematic.2 (Equiv.swap "a" "b") (Equiv.swap "a" "b").injective
      State.empty (projection (.var "a") (.var "b") (.var "b"))
    rw [refused] at exchanged
    exact exchanged

end ProofScript
