import Mathlib.Logic.Relation
import ProofScript.Proofs.RuleTable

/-!
# Goals with their contexts

A state keeps one list of assumptions for all of its goals, and the list only
grows: what was supposed for one goal stays in force for the goals after it. A
`ScopedState` also keeps, for every goal, the *context* that belongs to it: the
formulas that were supposed on the way from the first goal to this one. It runs the
same steps, and in `uses` it records each inference with the goal it was applied to
since the proof began. Contexts and records are never looked at by a step, and
`ScopedState.erase_apply` says so: without them a scoped step is a step of the
machine itself, refusals included.

* A line of a script takes a goal, applies an inference, does both or does
  nothing. `ScopedState.Move` is one of the first two alone, and
  `ScopedState.reach_iff_exists_run` says that the states that moves reach are those
  that scripts without the rule `goal` reach. What moves preserve, scripts preserve.
* `Use.InScope` and `Use.Matched` are the two conditions under which an inference
  of a run is an inference of natural deduction.
-/

namespace ProofScript

/-- A goal with the formulas that may be used to prove it. -/
structure ScopedGoal where
  context : List Formula
  goal : Formula
deriving DecidableEq

/-- A pending goal with the context of the goal that it was split off from. -/
structure ScopedSequent where
  context : List Formula
  sequent : Sequent
deriving DecidableEq

/-- The goal that a pending goal becomes when it is taken up: its own assumptions
join its context. -/
def ScopedSequent.due (branch : ScopedSequent) : ScopedGoal where
  context := branch.context ++ branch.sequent.assumptions
  goal := branch.sequent.goal

/-- An inference that was applied, with its argument and the goal it was applied
to. -/
structure Use where
  inference : Inference
  argument : Option Argument
  target : ScopedGoal
deriving DecidableEq

/-- The consequent of an argument that is an implication. -/
def Argument.consequent? : Argument → Option Formula
  | .formula (.implies _ q) => some q
  | _ => none

namespace Use

/-- The rule `assm` closes a goal that belongs to the context of the goal. -/
def InScope (use : Use) : Prop :=
  use.inference = .assm → use.target.goal ∈ use.target.context

/-- The rule `implE` is given an implication whose consequent is the goal. -/
def Matched (use : Use) : Prop :=
  use.inference = .implE → use.argument.bind Argument.consequent? = some use.target.goal

instance (use : Use) : Decidable use.InScope := inferInstanceAs (Decidable (_ → _))

instance (use : Use) : Decidable use.Matched := inferInstanceAs (Decidable (_ → _))

theorem Matched.consequent {p q : Formula} {target : ScopedGoal}
    (matched : Matched ⟨.implE, some (.formula (.implies p q)), target⟩) : q = target.goal :=
  Option.some.inj (matched rfl)

end Use

/-- A state in which every goal has a context, and the inferences applied since
the proof began. -/
structure ScopedState where
  assumptions : List Formula := []
  current : Option ScopedGoal := none
  pending : List ScopedSequent := []
  uses : List Use := []
deriving DecidableEq

/-- The goal that a refinement goes on with, in a context that has grown by what
is supposed. -/
def Refinement.scopedGoal (refinement : Refinement) (context : List Formula) :
    Option ScopedGoal :=
  refinement.goal.map fun goal => ⟨context ++ refinement.assumed, goal⟩

/-- The subgoals of a refinement, which all keep the context of the goal they
come from. -/
def Refinement.scopedSubgoals (refinement : Refinement) (context : List Formula) :
    List ScopedSequent :=
  refinement.subgoals.map fun sequent => ⟨context, sequent⟩

@[simp]
theorem Refinement.scopedGoal_replaced (context : List Formula) (goal : Formula) :
    (Refinement.replaced goal).scopedGoal context = some ⟨context, goal⟩ := by
  simp [Refinement.scopedGoal, Refinement.replaced]

@[simp]
theorem Refinement.scopedSubgoals_divided (context : List Formula) (subgoals : List Sequent) :
    (Refinement.divided subgoals).scopedSubgoals context =
      subgoals.map (ScopedSequent.mk context) := rfl

namespace ScopedState

/-- The state without contexts and records. -/
def erase (state : ScopedState) : State where
  assumptions := state.assumptions
  goal := state.current.map ScopedGoal.goal
  pending := { toList := state.pending.map ScopedSequent.sequent }

/-- The state before the first line of a script. -/
def empty : ScopedState := {}

/-- A proof begins with an empty context. -/
def start (goal : Formula) : ScopedState := { current := some ⟨[], goal⟩ }

/-- The state after a pending goal was taken up and the others were left. -/
def take (state : ScopedState) (branch : ScopedSequent) (rest : List ScopedSequent) :
    ScopedState where
  assumptions := state.assumptions ++ branch.sequent.assumptions
  current := some branch.due
  pending := rest
  uses := state.uses

/-- Take up the goal that has waited longest. -/
def pop (state : ScopedState) : Except Refusal ScopedState :=
  match state.pending, state.current with
  | [], _ => .error .noGoalsLeft
  | _ :: _, some _ => .error .goalNotProven
  | branch :: rest, none => .ok (state.take branch rest)

/-- The state after an inference. -/
def infer (state : ScopedState) (use : Use) (refinement : Refinement) : ScopedState where
  assumptions := state.assumptions ++ refinement.assumed
  current := refinement.scopedGoal use.target.context
  pending := state.pending ++ refinement.scopedSubgoals use.target.context
  uses := state.uses ++ [use]

/-- Apply a rule. The rule `goal` also starts a new record. -/
def applyRule (state : ScopedState) (argument : Option Argument) :
    Rule → Except Refusal ScopedState
  | .goal =>
      match argument.bind Argument.formula? with
      | none => .error .invalidGoal
      | some goal => .ok (start goal)
  | .infer inference =>
      match state.current with
      | none => .error .noCurrentGoal
      | some target =>
          (inference.refine state.erase argument target.goal).map
            (state.infer ⟨inference, argument, target⟩)

/-- Apply the rule of a step, if it names one. -/
def act (state : ScopedState) (step : Step) : Except Refusal ScopedState :=
  match step.rule with
  | none => .ok state
  | some rule => state.applyRule step.argument rule

/-- Apply one step. -/
def apply (state : ScopedState) (step : Step) : Except Refusal ScopedState :=
  if step.pop then state.pop.bind (act · step) else state.act step

/-- Apply steps in order. -/
def run (state : ScopedState) : Script → Except Refusal ScopedState
  | [] => .ok state
  | step :: rest => (state.apply step).bind (run · rest)

/-! ## Erasure -/

theorem erase_empty : empty.erase = State.empty := rfl

theorem erase_start (goal : Formula) : (start goal).erase = State.start goal := rfl

theorem erase_pop (state : ScopedState) : state.pop.map erase = state.erase.pop := by
  rcases state with ⟨assumptions, current, pending, uses⟩
  cases pending with
  | nil => rfl
  | cons branch rest => cases current <;> rfl

/-- The contexts and the record of an inference do not change its outcome. -/
theorem erase_infer (state : ScopedState) (use : Use) (refinement : Refinement) :
    (state.infer use refinement).erase = state.erase.refine refinement := by
  simp [infer, erase, State.refine, GoalQueue.enqueueAll, Refinement.scopedGoal,
    Refinement.scopedSubgoals, Function.comp_def]

theorem erase_applyRule (state : ScopedState) (argument : Option Argument) (rule : Rule) :
    (state.applyRule argument rule).map erase = state.erase.applyRule argument rule := by
  cases rule with
  | goal =>
      simp only [applyRule, State.applyRule]
      cases argument.bind Argument.formula? <;> rfl
  | infer inference =>
      rcases state with ⟨assumptions, _ | target, pending, uses⟩
      · rfl
      · simp only [applyRule, State.applyRule, erase, Option.map_some]
        cases refined : inference.refine _ argument target.goal with
        | error cause => rfl
        | ok refinement => exact congrArg Except.ok (erase_infer ..)

/-- A scoped step is a step of the machine with contexts and records left out. -/
theorem erase_apply (state : ScopedState) (step : Step) :
    (state.apply step).map erase = state.erase.apply step := by
  rcases step with ⟨_ | _, rule, argument⟩
  · cases rule with
    | none => rfl
    | some rule => exact state.erase_applyRule argument rule
  · have popped := state.erase_pop
    simp only [apply, State.apply, if_true, ← popped]
    cases state.pop with
    | error cause => rfl
    | ok next =>
        cases rule with
        | none => rfl
        | some rule => exact next.erase_applyRule argument rule

end ScopedState

/-! ## Runs -/

/-- None of the steps starts a proof over. -/
def Script.GoalFree (script : Script) : Prop := ∀ step ∈ script, step.rule ≠ some .goal

instance (script : Script) : Decidable script.GoalFree :=
  inferInstanceAs (Decidable (∀ step ∈ script, step.rule ≠ some .goal))

namespace ScopedState

theorem run_cons_eq_ok_iff {state reached : ScopedState} {step : Step} {rest : Script} :
    state.run (step :: rest) = .ok reached ↔
      ∃ next, state.apply step = .ok next ∧ next.run rest = .ok reached :=
  bind_eq_ok_iff

theorem run_append_eq_ok_iff {state reached : ScopedState} {front back : Script} :
    state.run (front ++ back) = .ok reached ↔
      ∃ middle, state.run front = .ok middle ∧ middle.run back = .ok reached := by
  induction front generalizing state with
  | nil => simp [run]
  | cons step rest ih =>
      simp only [List.cons_append, run_cons_eq_ok_iff, ih]
      constructor
      · rintro ⟨next, applied, middle, front, back⟩
        exact ⟨middle, ⟨next, applied, front⟩, back⟩
      · rintro ⟨middle, ⟨next, applied, front⟩, back⟩
        exact ⟨next, applied, middle, front, back⟩

/-- Every run of the machine is a scoped run with contexts and records left out,
and the other way round. -/
theorem runFrom_erase_eq_ok_iff {state : ScopedState} {line : Nat} {script : Script}
    {final : State} :
    state.erase.runFrom line script = .ok final ↔
      ∃ reached, state.run script = .ok reached ∧ reached.erase = final := by
  induction script generalizing state line with
  | nil => simp [State.runFrom, run]
  | cons step rest ih =>
      simp only [State.runFrom_cons_eq_ok_iff, run_cons_eq_ok_iff, ← erase_apply]
      cases state.apply step with
      | error cause => simp [Except.map]
      | ok next => simp [Except.map, ih]

theorem isComplete_erase_iff {state : ScopedState} :
    state.erase.isComplete = true ↔ state.current = none ∧ state.pending = [] := by
  simp [State.isComplete, GoalQueue.isEmpty, erase]

theorem run_erase_eq_ok_iff {state : ScopedState} {script : Script} {final : State} :
    state.erase.run script = .ok final ↔
      ∃ reached, state.run script = .ok reached ∧ reached.erase = final :=
  runFrom_erase_eq_ok_iff

/-- The rule `goal` forgets everything before it. -/
theorem eq_start_of_apply {state next : ScopedState} {step : Step} {φ : Formula}
    (applied : state.apply step = .ok next) (rule : step.rule = some .goal)
    (formula : step.formula? = some φ) : next = start φ := by
  have acted : ∀ {ready : ScopedState}, ready.act step = .ok next → next = start φ := by
    intro ready acted
    rw [Step.formula?] at formula
    simp only [act, rule, applyRule, formula] at acted
    exact (Except.ok.inj acted).symm
  unfold apply at applied
  split at applied
  · obtain ⟨ready, _, rest⟩ := bind_eq_ok_iff.mp applied
    exact acted rest
  · exact acted applied

/-! ## Moves -/

/-- One move of a proof: a pending goal is taken up, or an inference is applied to
the goal under proof. -/
inductive Move : ScopedState → ScopedState → Prop
  | pop {state : ScopedState} {branch : ScopedSequent} {rest : List ScopedSequent} :
    state.current = none → state.pending = branch :: rest → Move state (state.take branch rest)
  | infer {state : ScopedState} {use : Use} {refinement : Refinement} :
    state.current = some use.target →
    use.inference.Yields state.erase use.argument use.target.goal refinement →
    Move state (state.infer use refinement)

/-- The states that moves lead to. -/
abbrev Reach : ScopedState → ScopedState → Prop := Relation.ReflTransGen Move

theorem pop_eq_ok_iff {state next : ScopedState} :
    state.pop = .ok next ↔
      ∃ branch rest, state.current = none ∧ state.pending = branch :: rest ∧
        state.take branch rest = next := by
  constructor
  · intro popped
    unfold pop at popped
    split at popped
    · cases popped
    · cases popped
    · next branch rest pending current =>
        exact ⟨branch, rest, current, pending, Except.ok.inj popped⟩
  · rintro ⟨branch, rest, current, pending, rfl⟩
    simp only [pop, pending, current]

theorem applyRule_infer_eq_ok_iff {state next : ScopedState} {argument : Option Argument}
    {inference : Inference} :
    state.applyRule argument (.infer inference) = .ok next ↔
      ∃ target refinement, state.current = some target ∧
        inference.Yields state.erase argument target.goal refinement ∧
        state.infer ⟨inference, argument, target⟩ refinement = next := by
  simp only [applyRule, ← Inference.refine_eq_ok_iff]
  cases state.current with
  | none => simp
  | some target =>
      simp only [Option.some.injEq]
      cases refined : inference.refine state.erase argument target.goal <;>
        simp [Except.map, refined]

/-- What a step does after it has taken a goal, if it was to take one, is at most
one move. -/
theorem reach_of_act {state next : ScopedState} {step : Step}
    (ran : state.act step = .ok next) (goalFree : step.rule ≠ some .goal) :
    Reach state next := by
  rcases step with ⟨pop, _ | _ | inference, argument⟩
  · cases ran
    exact .refl
  · exact (goalFree rfl).elim
  · obtain ⟨target, refinement, current, yields, rfl⟩ := applyRule_infer_eq_ok_iff.mp ran
    have move : Move state (state.infer ⟨inference, argument, target⟩ refinement) :=
      .infer current yields
    exact .single move

theorem reach_of_apply {state next : ScopedState} {step : Step}
    (ran : state.apply step = .ok next) (goalFree : step.rule ≠ some .goal) :
    Reach state next := by
  unfold apply at ran
  split at ran
  · obtain ⟨ready, popped, acted⟩ := bind_eq_ok_iff.mp ran
    obtain ⟨branch, rest, current, pending, rfl⟩ := pop_eq_ok_iff.mp popped
    exact .head (.pop current pending) (reach_of_act acted goalFree)
  · exact reach_of_act ran goalFree

theorem reach_of_run {state reached : ScopedState} {script : Script}
    (ran : state.run script = .ok reached) (goalFree : script.GoalFree) :
    Reach state reached := by
  induction script generalizing state with
  | nil =>
      cases ran
      exact .refl
  | cons step rest ih =>
      obtain ⟨next, applied, ran⟩ := run_cons_eq_ok_iff.mp ran
      have first := reach_of_apply applied (goalFree step List.mem_cons_self)
      exact first.trans (ih ran fun later member => goalFree later (List.mem_cons_of_mem _ member))

/-- The record only grows. -/
theorem Move.uses_subset {state next : ScopedState} (move : Move state next) :
    state.uses ⊆ next.uses := by
  cases move with
  | pop _ _ => exact List.Subset.refl _
  | infer _ _ => exact List.subset_append_left _ _

/-- Every move is a line of its own. -/
theorem Move.exists_step {state next : ScopedState} (move : Move state next) :
    ∃ step : Step, step.rule ≠ some .goal ∧ state.apply step = .ok next := by
  cases move with
  | @pop branch rest current pending =>
      refine ⟨{ pop := true }, nofun, ?_⟩
      have popped : state.pop = .ok (state.take branch rest) :=
        pop_eq_ok_iff.mpr ⟨branch, rest, current, pending, rfl⟩
      simp [apply, popped, Except.bind, act]
  | @infer use refinement current yields =>
      refine ⟨{ rule := some (.infer use.inference), argument := use.argument }, nofun, ?_⟩
      exact applyRule_infer_eq_ok_iff.mpr ⟨use.target, refinement, current, yields, rfl⟩

/-- Moves and scripts without the rule `goal` reach the same states. -/
theorem reach_iff_exists_run {state reached : ScopedState} :
    Reach state reached ↔
      ∃ script : Script, script.GoalFree ∧ state.run script = .ok reached := by
  constructor
  · intro reach
    induction reach using Relation.ReflTransGen.head_induction_on with
    | refl => exact ⟨[], nofun, rfl⟩
    | head move _ ih =>
        obtain ⟨step, stepFree, applied⟩ := move.exists_step
        obtain ⟨script, goalFree, ran⟩ := ih
        refine ⟨step :: script, ?_, run_cons_eq_ok_iff.mpr ⟨_, applied, ran⟩⟩
        exact List.forall_mem_cons.mpr ⟨stepFree, goalFree⟩
  · rintro ⟨script, goalFree, ran⟩
    exact reach_of_run ran goalFree

end ScopedState

end ProofScript
