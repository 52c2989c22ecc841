import ProofScript.Formula.Semantics
import ProofScript.Proofs.Runs
import ProofScript.Proofs.Scope

/-!
# What a run proves

Inferences are read backwards, so truth travels from the end of a run to its
beginning: if all that an inference leaves to prove is true, then so is the goal it
was applied to (`Use.eval_target`). Two invariants carry this through whole runs.

* `ScopedState.Justified`: every open goal follows from its own context. It holds
  at the beginning of a run whose inferences are all in scope and matched as soon as
  it holds at the end, so a complete proof of that kind proves a tautology.
* `Valuation.Models`: a valuation makes the assumptions and the open goals of a
  state true. Here the assumptions of all branches count together, so that nothing
  is asked of `assm`, and what a complete proof proves follows from the assumptions
  that it ends with.

Neither condition on the inferences can be left out. Assumptions stay in force
after the goal they were made for, and `implE` does not compare the consequent of
its implication with the goal: `leakingProof` and `unmatchedProof` are complete proofs
of formulas that are false where `a` is.
-/

namespace ProofScript

/-! ## Truth of the connectives -/

section Truth

variable {valuation : Valuation} {p q : Formula}

theorem Formula.eval_and :
    (Formula.and p q).eval valuation = true ↔
      p.eval valuation = true ∧ q.eval valuation = true := by
  simp [Formula.eval, Connective.eval]

theorem Formula.eval_or :
    (Formula.or p q).eval valuation = true ↔
      p.eval valuation = true ∨ q.eval valuation = true := by
  simp [Formula.eval, Connective.eval]

theorem Formula.eval_implies :
    (Formula.implies p q).eval valuation = true ↔
      (p.eval valuation = true → q.eval valuation = true) := by
  cases truth : p.eval valuation <;> simp [Formula.eval, Connective.eval, truth]

theorem Formula.eval_not : (Formula.not p).eval valuation = true ↔ ¬p.eval valuation = true := by
  simp [Formula.eval]

theorem Formula.eval_bot : ¬Formula.bot.eval valuation = true := nofun

end Truth

/-! ## One inference -/

/-- A sequent holds under a valuation that makes its goal true or some assumption
false. -/
def Sequent.Holds (valuation : Valuation) (sequent : Sequent) : Prop :=
  valuation.Satisfies sequent.assumptions → sequent.goal.eval valuation = true

theorem Sequent.holds_nil {valuation : Valuation} {goal : Formula} :
    Sequent.Holds valuation ⟨[], goal⟩ ↔ goal.eval valuation = true := by
  simp [Sequent.Holds, Valuation.Satisfies]

theorem Sequent.holds_singleton {valuation : Valuation} {assumption goal : Formula} :
    Sequent.Holds valuation ⟨[assumption], goal⟩ ↔
      (assumption.eval valuation = true → goal.eval valuation = true) := by
  simp [Sequent.Holds, Valuation.Satisfies]

/-- All that a refinement leaves to prove: the goal to go on with, under what is
supposed for it, and the subgoals. -/
def Refinement.sequents (refinement : Refinement) : List Sequent :=
  refinement.goal.toList.map (Sequent.mk refinement.assumed) ++ refinement.subgoals

/-- A goal is true if all that an inference leaves of it is true. Of the two
inferences that leave nothing, only `assm` needs a reason from outside. -/
theorem Use.eval_target {state : State} {use : Use} {refinement : Refinement}
    {valuation : Valuation}
    (yields : use.inference.Yields state use.argument use.target.goal refinement)
    (matched : use.Matched)
    (assumed : use.inference = .assm → use.target.goal.eval valuation = true)
    (holds : ∀ sequent ∈ refinement.sequents, sequent.Holds valuation) :
    use.target.goal.eval valuation = true := by
  rcases use with ⟨inference, argument, context, goal⟩
  dsimp only at yields assumed ⊢
  cases yields with
  | assm _ => exact assumed rfl
  | andI =>
      have left := Sequent.holds_nil.mp (holds _ (.head _))
      have right := Sequent.holds_nil.mp (holds _ (.tail _ (.head _)))
      exact Formula.eval_and.mpr ⟨left, right⟩
  | andE1 => exact (Formula.eval_and.mp (Sequent.holds_nil.mp (holds _ (.head _)))).2
  | andE2 => exact (Formula.eval_and.mp (Sequent.holds_nil.mp (holds _ (.head _)))).1
  | orI1 => exact Formula.eval_or.mpr (.inl (Sequent.holds_nil.mp (holds _ (.head _))))
  | orI2 => exact Formula.eval_or.mpr (.inr (Sequent.holds_nil.mp (holds _ (.head _))))
  | orE =>
      have either := Formula.eval_or.mp (Sequent.holds_nil.mp (holds _ (.head _)))
      have left := Sequent.holds_singleton.mp (holds _ (.tail _ (.head _)))
      have right := Sequent.holds_singleton.mp (holds _ (.tail _ (.tail _ (.head _))))
      exact either.elim left right
  | implI => exact Formula.eval_implies.mpr (Sequent.holds_singleton.mp (holds _ (.head _)))
  | implE =>
      -- The goal is the consequent only because the use is matched.
      cases matched.consequent
      have implication := Formula.eval_implies.mp (Sequent.holds_nil.mp (holds _ (.head _)))
      exact implication (Sequent.holds_nil.mp (holds _ (.tail _ (.head _))))
  | notI =>
      have refuted := Sequent.holds_singleton.mp (holds _ (.head _))
      exact Formula.eval_not.mpr fun truth => Formula.eval_bot (refuted truth)
  | notE =>
      have refuted := Formula.eval_not.mp (Sequent.holds_nil.mp (holds _ (.head _)))
      exact (refuted (Sequent.holds_nil.mp (holds _ (.tail _ (.head _))))).elim
  | dNeg =>
      have truth := Formula.eval_not.mp (Sequent.holds_nil.mp (holds _ (.head _)))
      rw [Formula.eval_not] at truth
      exact Classical.not_not.mp truth
  | @lem _ p =>
      rw [Formula.eval_or, Formula.eval_not]
      exact (Classical.em _).symm
  | abort => exact (Formula.eval_bot (Sequent.holds_nil.mp (holds _ (.head _)))).elim

/-! ## Open goals that follow from their contexts -/

namespace ScopedState

/-- The inferences were in scope and matched, and every open goal follows from its
own context. -/
structure Justified (state : ScopedState) : Prop where
  uses : ∀ use ∈ state.uses, use.InScope ∧ use.Matched
  current : ∀ target, state.current = some target → Entails target.context target.goal
  pending : ∀ branch ∈ state.pending, Entails branch.due.context branch.due.goal

theorem Justified.of_take {state : ScopedState} {branch : ScopedSequent}
    {rest : List ScopedSequent} (current : state.current = none)
    (pending : state.pending = branch :: rest) (justified : (state.take branch rest).Justified) :
    state.Justified where
  uses := justified.uses
  current target present := by
    rw [current] at present
    cases present
  pending other member := by
    rw [pending, List.mem_cons] at member
    rcases member with rfl | later
    · exact justified.current _ rfl
    · exact justified.pending other later

/-- What an inference leaves to prove follows from the context of its goal. -/
theorem Justified.entails_sequent {state : ScopedState} {use : Use} {refinement : Refinement}
    (justified : (state.infer use refinement).Justified) {sequent : Sequent}
    (left : sequent ∈ refinement.sequents) :
    Entails (use.target.context ++ sequent.assumptions) sequent.goal := by
  rcases List.mem_append.mp left with next | subgoal
  · obtain ⟨goal, present, rfl⟩ := List.mem_map.mp next
    refine justified.current ⟨use.target.context ++ refinement.assumed, goal⟩ ?_
    simp [infer, Refinement.scopedGoal, Option.mem_toList.mp present]
  · refine justified.pending ⟨use.target.context, sequent⟩ ?_
    exact List.mem_append_right _ (List.mem_map_of_mem subgoal)

theorem Justified.of_infer {state : ScopedState} {use : Use} {refinement : Refinement}
    (current : state.current = some use.target)
    (yields : use.inference.Yields state.erase use.argument use.target.goal refinement)
    (justified : (state.infer use refinement).Justified) : state.Justified := by
  obtain ⟨inScope, matched⟩ := justified.uses use (List.mem_append_right _ List.mem_cons_self)
  have goal : Entails use.target.context use.target.goal := by
    intro valuation satisfies
    refine use.eval_target yields matched (fun rule => satisfies _ (inScope rule)) ?_
    intro sequent left own
    exact justified.entails_sequent left valuation
      (Valuation.satisfies_append.mpr ⟨satisfies, own⟩)
  refine ⟨fun use member => justified.uses use (List.mem_append_left _ member), ?_,
    fun branch member => justified.pending branch (List.mem_append_left _ member)⟩
  intro target present
  rw [current] at present
  cases present
  exact goal

theorem Justified.of_move {state next : ScopedState} (move : Move state next)
    (justified : next.Justified) : state.Justified := by
  cases move with
  | pop current pending => exact justified.of_take current pending
  | infer current yields => exact justified.of_infer current yields

theorem Justified.of_reach {state reached : ScopedState} (reach : Reach state reached)
    (justified : reached.Justified) : state.Justified := by
  induction reach with
  | refl => exact justified
  | tail _ move ih => exact ih (justified.of_move move)

theorem Justified.of_complete {state : ScopedState}
    (uses : ∀ use ∈ state.uses, use.InScope ∧ use.Matched)
    (complete : state.erase.isComplete = true) : state.Justified := by
  obtain ⟨current, pending⟩ := isComplete_erase_iff.mp complete
  exact ⟨uses, by simp [current], by simp [pending]⟩

/-- If a proof comes to a justified state, then the goal it began with is a
tautology. -/
theorem Justified.isTautology {goal : Formula} {reached : ScopedState}
    (justified : reached.Justified) (reach : Reach (start goal) reached) : goal.IsTautology :=
  entails_nil_iff.mp ((justified.of_reach reach).current ⟨[], goal⟩ rfl)

end ScopedState

/-- A scoped proof with open goals. The inferences of every accepted script can be
followed with their contexts; if they are in scope and matched, then the goal is a
tautology as soon as every goal that is still open follows from its own context,
and in particular if none is open. -/
theorem scoped_run_isTautology {φ : Formula} {script : Script} {final : State}
    (accepted : (State.start φ).run script = .ok final) (goalFree : script.GoalFree) :
    ∃ reached, (ScopedState.start φ).run script = .ok reached ∧ reached.erase = final ∧
      ((∀ use ∈ reached.uses, use.InScope ∧ use.Matched) →
        ((∀ target, reached.current = some target → Entails target.context target.goal) →
          (∀ branch ∈ reached.pending,
            Entails (branch.context ++ branch.sequent.assumptions) branch.sequent.goal) →
          φ.IsTautology) ∧
        (final.isComplete = true → φ.IsTautology)) := by
  rw [← ScopedState.erase_start, ScopedState.run_erase_eq_ok_iff] at accepted
  obtain ⟨reached, ran, rfl⟩ := accepted
  have reach := ScopedState.reach_of_run ran goalFree
  refine ⟨reached, ran, rfl, fun uses => ⟨fun current pending => ?_, fun complete => ?_⟩⟩
  · have justified : reached.Justified := ⟨uses, current, pending⟩
    exact justified.isTautology reach
  · exact (ScopedState.Justified.of_complete uses complete).isTautology reach

/-- That a disjunction can be turned round. -/
def orCommutes : Formula :=
  .implies (.or (.var "p") (.var "q")) (.or (.var "q") (.var "p"))

/-- A proof of it by cases. -/
def orCommutesProof : Script :=
  [{ rule := some (.infer .implI) },
    { rule := some (.infer .orE), argument := some (.formula (.or (.var "p") (.var "q"))) },
    { pop := true, rule := some (.infer .assm), argument := some (.index 1) },
    { pop := true, rule := some (.infer .orI2) },
    { rule := some (.infer .assm), argument := some (.index 2) },
    { pop := true, rule := some (.infer .orI1) },
    { rule := some (.infer .assm), argument := some (.index 3) }]

/-- Half of the proof is enough: of the two goals that are open then, `p` belongs to
its context, and `q ∨ p` follows from the assumption that it waits with. -/
theorem orCommutes_of_half_proof :
    (∃ final, (State.start orCommutes).run (orCommutesProof.take 4) = .ok final ∧
      final.openGoals = 2) ∧ orCommutes.IsTautology := by
  refine ⟨⟨_, rfl, rfl⟩, ?_⟩
  let p := Formula.var "p"
  let q := Formula.var "q"
  have followed : (ScopedState.start orCommutes).run (orCommutesProof.take 4) = .ok
      { assumptions := [.or p q, p]
        current := some ⟨[.or p q, p], p⟩
        pending := [⟨[.or p q], ⟨[q], .or q p⟩⟩]
        uses :=
          [⟨.implI, none, ⟨[], orCommutes⟩⟩,
            ⟨.orE, some (.formula (.or p q)), ⟨[.or p q], .or q p⟩⟩,
            ⟨.assm, some (.index 1), ⟨[.or p q], .or p q⟩⟩,
            ⟨.orI2, none, ⟨[.or p q, p], .or q p⟩⟩] } := rfl
  obtain ⟨reached, ran, _, sound⟩ :=
    @scoped_run_isTautology orCommutes (orCommutesProof.take 4) _ rfl (by decide)
  cases Except.ok.inj (followed.symm.trans ran)
  refine (sound (by decide)).1 ?_ ?_
  · rintro target ⟨⟩ valuation satisfies
    exact satisfies p (by simp)
  · intro branch only valuation satisfies
    cases List.mem_singleton.mp only
    exact Formula.eval_or.mpr (.inl (satisfies q (by simp)))

/-! ## Valuations that make a state true -/

/-- A valuation makes the assumptions of a state true, and the goals under these
assumptions. -/
structure Valuation.Models (valuation : Valuation) (state : State) : Prop where
  assumptions : valuation.Satisfies state.assumptions
  goal : ∀ goal, state.goal = some goal → goal.eval valuation = true
  pending : ∀ sequent ∈ state.pending.toList, sequent.Holds valuation

namespace Valuation.Models

variable {valuation : Valuation}

theorem of_take {state : ScopedState} {branch : ScopedSequent} {rest : List ScopedSequent}
    (current : state.current = none) (pending : state.pending = branch :: rest)
    (models : valuation.Models (state.take branch rest).erase) :
    valuation.Models state.erase where
  assumptions := (Valuation.satisfies_append.mp models.assumptions).1
  goal goal present := by
    simp only [ScopedState.erase, current] at present
    cases present
  pending sequent member := by
    simp only [ScopedState.erase, pending, List.map_cons, List.mem_cons] at member
    rcases member with rfl | later
    · exact fun _ => models.goal branch.sequent.goal rfl
    · exact models.pending sequent later

theorem of_infer {state : ScopedState} {use : Use} {refinement : Refinement}
    (current : state.current = some use.target)
    (yields : use.inference.Yields state.erase use.argument use.target.goal refinement)
    (matched : use.Matched) (models : valuation.Models (state.infer use refinement).erase) :
    valuation.Models state.erase := by
  rw [ScopedState.erase_infer] at models
  have assumptions : valuation.Satisfies state.assumptions :=
    (Valuation.satisfies_append.mp models.assumptions).1
  have goal : use.target.goal.eval valuation = true := by
    refine use.eval_target yields matched (fun rule => ?_) (fun sequent left => ?_)
    · rw [rule] at yields
      exact assumptions _ yields.mem_assumptions
    · rcases List.mem_append.mp left with next | subgoal
      · obtain ⟨goal, present, rfl⟩ := List.mem_map.mp next
        exact fun _ => models.goal goal (Option.mem_toList.mp present)
      · exact models.pending sequent (List.mem_append_right _ subgoal)
  refine ⟨assumptions, ?_, fun sequent member =>
    models.pending sequent (List.mem_append_left _ member)⟩
  intro other present
  simp only [ScopedState.erase, current, Option.map_some, Option.some.injEq] at present
  exact present ▸ goal

theorem of_move {state next : ScopedState} (move : ScopedState.Move state next)
    (matched : ∀ use ∈ next.uses, use.Matched) (models : valuation.Models next.erase) :
    valuation.Models state.erase := by
  cases move with
  | pop current pending => exact models.of_take current pending
  | infer current yields =>
      have last := matched _ (List.mem_append_right _ List.mem_cons_self)
      exact models.of_infer current yields last

theorem of_reach {state reached : ScopedState} (reach : ScopedState.Reach state reached)
    (matched : ∀ use ∈ reached.uses, use.Matched) (models : valuation.Models reached.erase) :
    valuation.Models state.erase := by
  induction reach with
  | refl => exact models
  | tail _ move ih =>
      exact ih (fun use member => matched use (move.uses_subset member))
        (models.of_move move matched)

end Valuation.Models

/-- The assumptions account for the proof. Whatever `assm` was used for, as long as
`implE` was matched, a valuation that makes the state true in which a run ends
also makes the goal true that it began with; so the goal of a complete proof
follows from the assumptions in force at its end. -/
theorem final_state_accounts_for_goal {φ : Formula} {script : Script} {final : State}
    (accepted : (State.start φ).run script = .ok final) (goalFree : script.GoalFree) :
    ∃ reached, (ScopedState.start φ).run script = .ok reached ∧ reached.erase = final ∧
      ((∀ use ∈ reached.uses, use.Matched) →
        (∀ valuation : Valuation, valuation.Models final → φ.eval valuation = true) ∧
        (final.isComplete = true → Entails final.assumptions φ)) := by
  rw [← ScopedState.erase_start, ScopedState.run_erase_eq_ok_iff] at accepted
  obtain ⟨reached, ran, rfl⟩ := accepted
  have reach := ScopedState.reach_of_run ran goalFree
  refine ⟨reached, ran, rfl, fun matched => ?_⟩
  have backward : ∀ valuation : Valuation,
      valuation.Models reached.erase → φ.eval valuation = true :=
    fun valuation models => (models.of_reach reach matched).goal φ rfl
  refine ⟨backward, fun complete valuation satisfies => backward valuation ?_⟩
  obtain ⟨current, pending⟩ := ScopedState.isComplete_erase_iff.mp complete
  exact ⟨satisfies, by simp [ScopedState.erase, current], by simp [ScopedState.erase, pending]⟩

/-- A goal that is true exactly if `a` is. -/
def halfTrivial : Formula := .and (.implies (.var "a") (.var "a")) (.var "a")

/-- A proof of it: what was supposed for the left conjunct is still in force for
the right one. -/
def leakingProof : Script :=
  [{ rule := some (.infer .andI) },
    { pop := true, rule := some (.infer .implI) },
    { rule := some (.infer .assm), argument := some (.index 1) },
    { pop := true, rule := some (.infer .assm), argument := some (.index 1) }]

/-- The leaking proof ends with the assumption `a`, and that is what its goal follows
from. -/
theorem halfTrivial_of_leaked_assumption :
    (∃ final, (State.start halfTrivial).run leakingProof = .ok final ∧
      final.isComplete = true ∧ final.assumptions = [.var "a"]) ∧
    Entails [.var "a"] halfTrivial := by
  refine ⟨⟨_, rfl, rfl, rfl⟩, ?_⟩
  obtain ⟨reached, ran, _, accounts⟩ :=
    @final_state_accounts_for_goal halfTrivial leakingProof _ rfl (by decide)
  cases ran
  exact (accounts (by decide)).2 rfl

/-! ## Complete scripts -/

/-- The last proof that a script starts is one of `φ`. -/
def Script.LastGoal (script : Script) (φ : Formula) : Prop :=
  ∃ (before : Script) (opening : Step) (proof : Script),
    script = before ++ opening :: proof ∧ opening.rule = some .goal ∧
      opening.formula? = some φ ∧ proof.GoalFree

/-- All that a scoped run has recorded belongs to its last proof. -/
theorem ScopedState.reach_of_lastGoal {state reached : ScopedState} {script : Script}
    {φ : Formula} (last : script.LastGoal φ) (ran : state.run script = .ok reached) :
    Reach (start φ) reached := by
  obtain ⟨before, opening, proof, rfl, rule, formula, goalFree⟩ := last
  obtain ⟨middle, _, ran⟩ := run_append_eq_ok_iff.mp ran
  obtain ⟨next, opened, ran⟩ := run_cons_eq_ok_iff.mp ran
  cases eq_start_of_apply opened rule formula
  exact reach_of_run ran goalFree

/-- Soundness of complete scripts. If a script is accepted and leaves no goal open,
and the inferences since its last `goal` are in scope and matched, then the
formula of that `goal` is a tautology. -/
theorem complete_script_isTautology {text : String} {script : Script} {final : State}
    {φ : Formula} (ran : Script.run text = .ok final) (complete : final.isComplete = true)
    (parsed : Script.parse text = .ok script) (last : script.LastGoal φ)
    (proper : ∀ reached, ScopedState.empty.run script = .ok reached →
      ∀ use ∈ reached.uses, use.InScope ∧ use.Matched) :
    φ.IsTautology := by
  obtain ⟨_, again, accepted⟩ := Script.run_eq_ok_iff.mp ran
  cases Except.ok.inj (parsed.symm.trans again)
  rw [← ScopedState.erase_empty, ScopedState.run_erase_eq_ok_iff] at accepted
  obtain ⟨reached, followed, rfl⟩ := accepted
  have justified := ScopedState.Justified.of_complete (proper reached followed) complete
  exact justified.isTautology (ScopedState.reach_of_lastGoal last followed)

theorem Script.lastGoal_opening {φ : Formula} {proof : Script} (goalFree : proof.GoalFree) :
    Script.LastGoal (Step.opening φ :: proof) φ :=
  ⟨[], Step.opening φ, proof, rfl, rfl, rfl, goalFree⟩

/-- The proof that disjunction commutes, as a text. -/
def orCommutesText : String :=
  "goal (p or q) => (q or p)\nimplI\norE (p or q)\n- assm 1\n- orI2\nassm 2\n- orI1\nassm 3"

theorem orCommutes_of_script :
    (∃ final, Script.run orCommutesText = .ok final ∧ final.isComplete = true) ∧
      orCommutes.IsTautology := by
  have parsed : Script.parse orCommutesText = .ok (Step.opening orCommutes :: orCommutesProof) :=
    eq_ok_of_toOption (by decide +kernel)
  have ran := Script.run_eq_ok_iff.mpr ⟨_, parsed, rfl⟩
  refine ⟨⟨_, ran, rfl⟩, ?_⟩
  refine complete_script_isTautology ran rfl parsed (Script.lastGoal_opening (by decide)) ?_
  intro reached followed
  cases followed
  decide

/-- A proof of `a`: the implication that `implE` is given has nothing to do with it. -/
def unmatchedProof : Script :=
  let trivial := Formula.implies (.var "a") (.var "a")
  [{ rule := some (.infer .implE), argument := some (.formula (.implies trivial trivial)) },
    { pop := true, rule := some (.infer .implI) },
    { rule := some (.infer .assm), argument := some (.index 1) },
    { pop := true, rule := some (.infer .implI) },
    { rule := some (.infer .assm), argument := some (.index 2) }]

/-- A complete script need not prove a tautology, and neither of the two conditions
on its inferences is enough alone: the leaking proof meets the second and not the
first, and the unmatched proof meets the first and not the second. -/
theorem complete_script_of_contingent_goal :
    ¬(∀ (text : String) (script : Script) (final : State) (φ : Formula),
        Script.run text = .ok final → final.isComplete = true →
        Script.parse text = .ok script → script.LastGoal φ → φ.IsTautology) ∧
    ∀ condition ∈ [Use.InScope, Use.Matched],
      ¬(∀ (text : String) (script : Script) (final : State) (φ : Formula),
        Script.run text = .ok final → final.isComplete = true →
        Script.parse text = .ok script → script.LastGoal φ →
        (∀ reached, ScopedState.empty.run script = .ok reached →
          ∀ use ∈ reached.uses, condition use) → φ.IsTautology) := by
  have leaked : Script.parse "goal (a => a) & a\nandI\n- implI\nassm 1\n- assm 1" =
      .ok (Step.opening halfTrivial :: leakingProof) :=
    eq_ok_of_toOption (by decide +kernel)
  have unmatched : Script.parse
      "goal a\nimplE (a => a) => (a => a)\n- implI\nassm 1\n- implI\nassm 2" =
      .ok (Step.opening (.var "a") :: unmatchedProof) :=
    eq_ok_of_toOption (by decide +kernel)
  have leakedRun := Script.run_eq_ok_iff.mpr ⟨_, leaked, rfl⟩
  have unmatchedRun := Script.run_eq_ok_iff.mpr ⟨_, unmatched, rfl⟩
  have leakedLast : Script.LastGoal (Step.opening halfTrivial :: leakingProof) halfTrivial :=
    Script.lastGoal_opening (by decide)
  have unmatchedLast : Script.LastGoal (Step.opening (.var "a") :: unmatchedProof) (.var "a") :=
    Script.lastGoal_opening (by decide)
  -- Both goals are false where `a` is.
  refine ⟨fun sound => ?_, fun condition either sound => ?_⟩
  · cases sound _ _ _ _ leakedRun rfl leaked leakedLast fun _ => false
  · simp only [List.mem_cons, List.not_mem_nil, or_false] at either
    rcases either with rfl | rfl
    · refine nomatch sound _ _ _ _ unmatchedRun rfl unmatched unmatchedLast ?_ fun _ => false
      intro reached followed
      cases followed
      decide
    · refine nomatch sound _ _ _ _ leakedRun rfl leaked leakedLast ?_ fun _ => false
      intro reached followed
      cases followed
      decide

end ProofScript
