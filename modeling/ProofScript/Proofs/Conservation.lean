import Mathlib.Data.List.Basic
import ProofScript.Proofs.Scope

/-!
# What becomes of goals and assumptions

A step without the rule `goal` changes a state at three places: it may take the goal at the
front of the queue, its inference may send new goals to the back of the queue, and both may
bring assumptions, which join those in force at the end of their list. A `Turn` is a step with
the state it was applied to, and `Turn.taken`, `Turn.arrivals` and `Turn.assumed` are the three
changes, read off the line and the goal it acts on. `Inference.arrivals` and
`Inference.supposed` list what the inferences contribute.

`Turn.accounts` is the balance of one step. Summed over a run (`State.accounts_turns`) it says
that the goals taken and those still waiting are the goals that waited before and those that
have arrived, in this order. So no goal is lost, proved twice or overtaken
(`goals_and_assumptions_conserved`), and the number of an assumption keeps its meaning.
-/

namespace ProofScript

/-! ## What an inference adds -/

namespace Inference

/-- The goals that an inference leaves to be taken up later. -/
def arrivals : Inference → Option Argument → Formula → List Sequent
  | .andI, _, .and p q => [⟨[], p⟩, ⟨[], q⟩]
  | .orE, some (.formula (.or p q)), r => [⟨[], .or p q⟩, ⟨[p], r⟩, ⟨[q], r⟩]
  | .implE, some (.formula (.implies p q)), _ => [⟨[], .implies p q⟩, ⟨[], p⟩]
  | .notE, some (.formula p), _ => [⟨[], .not p⟩, ⟨[], p⟩]
  | _, _, _ => []

/-- The assumptions that an inference makes for the goal it goes on with. -/
def supposed : Inference → Formula → List Formula
  | .implI, .implies p _ => [p]
  | .notI, .not p => [p]
  | _, _ => []

variable {inference : Inference} {state : State} {argument : Option Argument} {goal : Formula}
  {refinement : Refinement}

theorem Yields.subgoals_eq (yields : inference.Yields state argument goal refinement) :
    refinement.subgoals = inference.arrivals argument goal := by
  cases yields <;> rfl

theorem Yields.assumed_eq (yields : inference.Yields state argument goal refinement) :
    refinement.assumed = inference.supposed goal := by
  cases yields <;> rfl

end Inference

/-! ## Turns -/

/-- A step with the state it is applied to. -/
structure Turn where
  before : State
  step : Step

namespace Turn

/-- The goal that the step takes up. -/
def taken (turn : Turn) : Option Sequent :=
  if turn.step.pop then turn.before.pending.dequeue?.map Prod.fst else none

/-- The state that the rule of the step finds: if the step is to take a goal, it has done so. -/
def ready (turn : Turn) : State :=
  match turn.step.pop, turn.before.pop with
  | true, .ok next => next
  | _, _ => turn.before

/-- The inference of the step and the goal it acts on. -/
def use? (turn : Turn) : Option (Inference × Formula) :=
  match turn.step.rule, turn.ready.goal with
  | some (.infer inference), some goal => some (inference, goal)
  | _, _ => none

/-- The goals that the step sends to the back of the queue. -/
def arrivals (turn : Turn) : List Sequent :=
  turn.use?.toList.flatMap fun (inference, goal) => inference.arrivals turn.step.argument goal

/-- The assumptions that the inference of the step makes. -/
def supposed (turn : Turn) : List Formula :=
  turn.use?.toList.flatMap fun (inference, goal) => inference.supposed goal

/-- The assumptions that the step brings: first those of the goal it takes up, then those of
its inference. -/
def assumed (turn : Turn) : List Formula :=
  turn.taken.toList.flatMap Sequent.assumptions ++ turn.supposed

variable (turn : Turn) {after : State}

/-- If a step is applied, its rule is applied to the state that is ready for it. -/
theorem acts_of_apply (applied : turn.before.apply turn.step = .ok after) :
    (turn.step.pop = true ∧ turn.before.pop = .ok turn.ready ∨
        turn.step.pop = false ∧ turn.ready = turn.before) ∧
      (turn.step.rule = none ∧ after = turn.ready ∨
        ∃ rule, turn.step.rule = some rule ∧
          turn.ready.applyRule turn.step.argument rule = .ok after) := by
  obtain ⟨ready, took, acted⟩ := State.apply_eq_ok_iff.mp applied
  have found : turn.ready = ready := by
    unfold Turn.ready
    rcases took with ⟨pop, popped⟩ | ⟨pop, rfl⟩
    · rw [pop, popped]
    · rw [pop]
  rw [found]
  exact ⟨took, acted⟩

theorem taken_of_pop {sequent : Sequent} {rest : List Sequent} (pop : turn.step.pop = true)
    (waiting : turn.before.pending.toList = sequent :: rest) : turn.taken = some sequent := by
  have front : turn.before.pending.dequeue? = some (sequent, { toList := rest }) :=
    GoalQueue.dequeue?_eq_some_iff.mpr waiting
  rw [taken, if_pos pop, front, Option.map_some]

theorem taken_of_not_pop (stays : turn.step.pop = false) : turn.taken = none := by
  rw [taken, stays, if_neg Bool.false_ne_true]

/-- A goal that is taken leaves the front of the queue, and its assumptions come into force. -/
theorem ready_of_apply (applied : turn.before.apply turn.step = .ok after) :
    turn.taken.isSome = turn.step.pop ∧
      turn.taken.toList ++ turn.ready.pending.toList = turn.before.pending.toList ∧
      turn.ready.assumptions =
        turn.before.assumptions ++ turn.taken.toList.flatMap Sequent.assumptions := by
  rcases (turn.acts_of_apply applied).1 with ⟨pop, popped⟩ | ⟨stays, same⟩
  · obtain ⟨sequent, rest, _, waiting, ready⟩ := State.pop_eq_ok_iff.mp popped
    simp [turn.taken_of_pop pop waiting, pop, ready, waiting]
  · simp [turn.taken_of_not_pop stays, stays, same]

/-- The rule of a step, unless it starts a proof, only adds to what it finds. -/
theorem after_of_apply (applied : turn.before.apply turn.step = .ok after)
    (goalFree : turn.step.rule ≠ some .goal) :
    after.pending.toList = turn.ready.pending.toList ++ turn.arrivals ∧
      after.assumptions = turn.ready.assumptions ++ turn.supposed := by
  unfold arrivals supposed use?
  rcases (turn.acts_of_apply applied).2 with ⟨rule, rfl⟩ | ⟨rule, named, ran⟩
  · simp [rule]
  · rcases State.applyRule_eq_ok_iff.mp ran with
      ⟨rfl, _⟩ | ⟨inference, goal, refinement, rfl, current, yields, rfl⟩
    · exact absurd named goalFree
    · simp [named, current, State.refine, yields.subgoals_eq, yields.assumed_eq]

/-- The balance of a step, unless it starts a proof. -/
theorem accounts (applied : turn.before.apply turn.step = .ok after)
    (goalFree : turn.step.rule ≠ some .goal) :
    turn.taken.toList ++ after.pending.toList = turn.before.pending.toList ++ turn.arrivals ∧
      after.assumptions = turn.before.assumptions ++ turn.assumed := by
  obtain ⟨_, queue, brought⟩ := turn.ready_of_apply applied
  obtain ⟨arrived, supposed⟩ := turn.after_of_apply applied goalFree
  constructor
  · rw [arrived, ← List.append_assoc, queue]
  · rw [supposed, brought, List.append_assoc]
    rfl

end Turn

/-! ## Runs -/

/-- The steps that a run applies, each with the state it is applied to. -/
def State.turns (state : State) : Script → List Turn
  | [] => []
  | step :: rest =>
      match state.apply step with
      | .error _ => []
      | .ok next => { before := state, step } :: next.turns rest

/-- The number of an assumption in one state is its number in the other. -/
def State.Keeps (earlier later : State) : Prop :=
  ∀ number p, earlier.assumption? number = some p → later.assumption? number = some p

theorem State.keeps_of_eq_append {earlier later : State} {more : List Formula}
    (grown : later.assumptions = earlier.assumptions ++ more) : earlier.Keeps later := by
  intro number p found
  cases number with
  | zero => cases found
  | succ position =>
      have known : earlier.assumptions[position]? = some p := found
      have inside : position < earlier.assumptions.length := (List.getElem?_eq_some_iff.mp known).1
      rw [State.assumption?, grown, List.getElem?_append_left inside, known]

theorem State.Keeps.refl (state : State) : state.Keeps state := fun _ _ found => found

theorem State.Keeps.trans {first second third : State} (earlier : first.Keeps second)
    (later : second.Keeps third) : first.Keeps third := by
  intro number p found
  exact later number p (earlier number p found)

namespace State

variable {state next final : State} {step : Step} {rest script : Script} {line : Nat}

theorem turns_cons (applied : state.apply step = .ok next) :
    state.turns (step :: rest) = ⟨state, step⟩ :: next.turns rest := by
  rw [turns, applied]

theorem steps_turns (ran : state.runFrom line script = .ok final) :
    (state.turns script).map Turn.step = script := by
  induction script generalizing state line with
  | nil => rfl
  | cons step rest ih =>
      obtain ⟨next, applied, ran⟩ := runFrom_cons_eq_ok_iff.mp ran
      rw [turns_cons applied, List.map_cons, ih ran]

/-- A step that is to take a goal takes one. -/
theorem isSome_taken_turns (ran : state.runFrom line script = .ok final) :
    ∀ turn ∈ state.turns script, turn.taken.isSome = turn.step.pop := by
  induction script generalizing state line with
  | nil => exact List.forall_mem_nil _
  | cons step rest ih =>
      obtain ⟨next, applied, ran⟩ := runFrom_cons_eq_ok_iff.mp ran
      rw [turns_cons applied]
      have first := (Turn.ready_of_apply ⟨state, step⟩ applied).1
      exact List.forall_mem_cons.mpr ⟨first, ih ran⟩

/-- The balance of a run is that of its steps. -/
theorem accounts_turns (ran : state.runFrom line script = .ok final)
    (goalFree : script.GoalFree) :
    (state.turns script).filterMap Turn.taken ++ final.pending.toList =
        state.pending.toList ++ (state.turns script).flatMap Turn.arrivals ∧
      final.assumptions = state.assumptions ++ (state.turns script).flatMap Turn.assumed := by
  induction script generalizing state line with
  | nil =>
      cases ran
      simp [turns]
  | cons step rest ih =>
      obtain ⟨next, applied, ran⟩ := runFrom_cons_eq_ok_iff.mp ran
      obtain ⟨stepFree, restFree⟩ := List.forall_mem_cons.mp goalFree
      obtain ⟨queue, brought⟩ := Turn.accounts ⟨state, step⟩ applied stepFree
      obtain ⟨later, more⟩ := ih ran restFree
      have both : (⟨state, step⟩ :: next.turns rest).filterMap Turn.taken =
          (Turn.mk state step).taken.toList ++ (next.turns rest).filterMap Turn.taken := by
        simp only [List.filterMap_eq_flatMap_toList, List.flatMap_cons]
      rw [turns_cons applied, both, List.flatMap_cons, List.flatMap_cons]
      -- What the step leaves in the queue is where the balance of the rest begins.
      constructor
      · rw [List.append_assoc, later, ← List.append_assoc, queue, List.append_assoc]
      · rw [more, brought, List.append_assoc]

/-- From the beginning of a run to its end, the number of an assumption keeps its meaning
wherever a rule may look it up. -/
theorem pairwise_keeps (ran : state.runFrom line script = .ok final)
    (goalFree : script.GoalFree) :
    List.Pairwise Keeps (state :: ((state.turns script).map Turn.ready ++ [final])) := by
  induction script generalizing state line with
  | nil =>
      cases ran
      simpa [turns] using Keeps.refl final
  | cons step rest ih =>
      obtain ⟨next, applied, ran⟩ := runFrom_cons_eq_ok_iff.mp ran
      obtain ⟨stepFree, restFree⟩ := List.forall_mem_cons.mp goalFree
      obtain ⟨_, _, brought⟩ := Turn.ready_of_apply ⟨state, step⟩ applied
      obtain ⟨_, supposed⟩ := Turn.after_of_apply ⟨state, step⟩ applied stepFree
      obtain ⟨fromNext, later⟩ := List.pairwise_cons.mp (ih ran restFree)
      have toReady := keeps_of_eq_append brought
      have toNext := keeps_of_eq_append supposed
      -- The rule of the step finds what the step has taken, and all later states keep what the
      -- step leaves.
      rw [turns_cons applied, List.map_cons, List.cons_append]
      refine List.pairwise_cons.mpr ⟨?_, List.pairwise_cons.mpr ⟨?_, later⟩⟩
      · exact List.forall_mem_cons.mpr
          ⟨toReady, fun other listed => toReady.trans (toNext.trans (fromNext other listed))⟩
      · exact fun other listed => toNext.trans (fromNext other listed)

end State

/-- Goals and assumptions are conserved. In a run without the rule `goal`, the goals that its
steps take, followed by those that wait at its end, are the goals that waited at its beginning,
followed by those that its steps sent to the queue. The assumptions at its end are those at its
beginning, followed by those that its steps brought. So the number of an assumption names the
same formula for every later step. -/
theorem goals_and_assumptions_conserved {state final : State} {script : Script}
    (accepted : state.run script = .ok final) (goalFree : script.GoalFree) :
    (state.turns script).map Turn.step = script ∧
    (∀ turn ∈ state.turns script, turn.taken.isSome = turn.step.pop) ∧
    (state.turns script).filterMap Turn.taken ++ final.pending.toList =
      state.pending.toList ++ (state.turns script).flatMap Turn.arrivals ∧
    final.assumptions = state.assumptions ++ (state.turns script).flatMap Turn.assumed ∧
    List.Pairwise State.Keeps (state :: ((state.turns script).map Turn.ready ++ [final])) := by
  obtain ⟨queue, assumptions⟩ := State.accounts_turns accepted goalFree
  exact ⟨State.steps_turns accepted, State.isSome_taken_turns accepted, queue, assumptions,
    State.pairwise_keeps accepted goalFree⟩

/-- Two conjuncts, the first of which is proved by cases. -/
def conjunctsProof : Script :=
  [{ rule := some (.infer .andI) },
    { pop := true, rule := some (.infer .orE),
      argument := some (.formula (.or (.var "c") (.var "d"))) },
    { pop := true, rule := some (.infer .notI) }]

/-- The second conjunct is taken before the cases of the first, and they are left. -/
theorem conjuncts_before_cases :
    ∃ final, (State.start (.and (.var "a") (.not (.var "b")))).run conjunctsProof = .ok final ∧
      [⟨[], .var "a"⟩, ⟨[], .not (.var "b")⟩] ++ final.pending.toList =
        [⟨[], .var "a"⟩, ⟨[], .not (.var "b")⟩, ⟨[], .or (.var "c") (.var "d")⟩,
          ⟨[.var "c"], .var "a"⟩, ⟨[.var "d"], .var "a"⟩] ∧
      final.assumptions = [.var "b"] := by
  refine ⟨_, rfl, ?_⟩
  obtain ⟨_, _, queue, assumptions, _⟩ :=
    @goals_and_assumptions_conserved (.start (.and (.var "a") (.not (.var "b")))) _ conjunctsProof
      rfl (by decide)
  exact ⟨queue, assumptions⟩

end ProofScript
