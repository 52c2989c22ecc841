import ProofScript.Proofs.Conservation

/-!
# The conditions of a step

A step makes conditions, one after the other, and it is refused for the first of them that is
not met. `Turn.conditions` lists the conditions in their order: first those of taking a goal,
then those of the rule, which speak of the state after the goal has been taken. The list is
the table of the rules as a user reads it, in terms of the shape of the goal and of the
argument; it says nothing of how a step is carried out.

`Obeys` relates such a list to a result. Lists can be put together as the parts of a step are
(`Obeys.bind`), so that each part is compared with its own conditions:
`State.obeys_pop`, `Inference.obeys_refine`, `State.obeys_applyRule` and, for a whole step,
`Turn.obeys_apply`.
-/

namespace ProofScript

/-! ## Conditions in order -/

/-- A condition, with the cause of a refusal if it is not met. -/
structure Condition where
  cause : Refusal
  met : Prop

/-- The first condition of a list that is not met has the given cause. -/
inductive FirstUnmet : List Condition → Refusal → Prop
  | here {condition : Condition} {rest : List Condition} :
    ¬condition.met → FirstUnmet (condition :: rest) condition.cause
  | later {condition : Condition} {rest : List Condition} {cause : Refusal} :
    condition.met → FirstUnmet rest cause → FirstUnmet (condition :: rest) cause

/-- The result is a refusal for the first condition that is not met, and no refusal if all of
them are met. -/
def Obeys {α : Type} (conditions : List Condition) : Except Refusal α → Prop
  | .ok _ => ∀ condition ∈ conditions, condition.met
  | .error cause => FirstUnmet conditions cause

section Order

variable {α β : Type} {conditions others : List Condition} {condition : Condition}
  {cause : Refusal} {result : Except Refusal α}

theorem FirstUnmet.unique {other : Refusal} (unmet : FirstUnmet conditions cause)
    (again : FirstUnmet conditions other) : cause = other := by
  induction unmet with
  | here fails =>
      cases again with
      | here => rfl
      | later holds => exact absurd holds fails
  | later holds _ ih =>
      cases again with
      | here fails => exact absurd holds fails
      | later _ unmet => exact ih unmet

theorem FirstUnmet.not_all_met (unmet : FirstUnmet conditions cause) :
    ¬∀ condition ∈ conditions, condition.met := by
  intro all
  induction unmet with
  | here fails => exact fails (all _ List.mem_cons_self)
  | later _ _ ih => exact ih (List.forall_mem_cons.mp all).2

theorem FirstUnmet.append (unmet : FirstUnmet conditions cause) (others : List Condition) :
    FirstUnmet (conditions ++ others) cause := by
  induction unmet with
  | here fails => exact .here fails
  | later holds _ ih => exact .later holds ih

theorem FirstUnmet.append_of_all_met (all : ∀ condition ∈ conditions, condition.met)
    (unmet : FirstUnmet others cause) : FirstUnmet (conditions ++ others) cause := by
  induction conditions with
  | nil => exact unmet
  | cons condition conditions ih =>
      obtain ⟨first, later⟩ := List.forall_mem_cons.mp all
      exact .later first (ih later)

namespace Obeys

theorem ok_nil {value : α} : Obeys [] (.ok value) := List.forall_mem_nil _

theorem cons (holds : condition.met) (obeys : Obeys conditions result) :
    Obeys (condition :: conditions) result := by
  cases result with
  | ok value => exact List.forall_mem_cons.mpr ⟨holds, obeys⟩
  | error cause => exact .later holds obeys

theorem ok_singleton {value : α} (holds : condition.met) : Obeys [condition] (.ok value) :=
  ok_nil.cons holds

/-- What is done to a result does not change its conditions. -/
theorem map (go : α → β) (obeys : Obeys conditions result) :
    Obeys conditions (result.map go) := by
  cases result <;> exact obeys

/-- The conditions of what comes first come first. -/
theorem bind {go : α → Except Refusal β} (first : Obeys conditions result)
    (second : ∀ value, result = .ok value → Obeys others (go value)) :
    Obeys (conditions ++ others) (result.bind go) := by
  cases result with
  | error cause => exact FirstUnmet.append first others
  | ok value =>
      have next : Obeys others (go value) := second value rfl
      rw [Except.bind]
      cases answer : go value with
      | error cause =>
          rw [answer] at next
          exact FirstUnmet.append_of_all_met first next
      | ok final =>
          rw [answer] at next
          exact List.forall_mem_append.mpr ⟨first, next⟩

theorem eq_error_iff (obeys : Obeys conditions result) (cause : Refusal) :
    result = .error cause ↔ FirstUnmet conditions cause := by
  constructor
  · rintro rfl
    exact obeys
  · intro unmet
    cases result with
    | ok value => exact absurd obeys unmet.not_all_met
    | error other =>
        have same : other = cause := FirstUnmet.unique obeys unmet
        rw [same]

theorem exists_ok_iff (obeys : Obeys conditions result) :
    (∃ value, result = .ok value) ↔ ∀ condition ∈ conditions, condition.met := by
  constructor
  · rintro ⟨value, rfl⟩
    exact obeys
  · intro all
    cases result with
    | ok value => exact ⟨value, rfl⟩
    | error cause => exact absurd all (FirstUnmet.not_all_met obeys)

end Obeys

end Order

/-! ## The conditions of the rules -/

/-- What an inference asks of its argument and of the goal under proof, given the assumptions
in force. -/
def Inference.conditions (assumptions : List Formula) (argument : Option Argument)
    (goal : Formula) : Inference → List Condition
  | .assm =>
      [⟨.numberRequired, ∃ number, argument = some (.index number)⟩,
        ⟨.assumptionOutOfBounds, ∃ number, argument = some (.index number) ∧
          1 ≤ number ∧ number ≤ assumptions.length⟩,
        ⟨.assumptionMismatch, ∃ number, argument = some (.index number) ∧
          assumptions[number - 1]? = some goal⟩]
  | .andI => [⟨.notConjunction, ∃ p q, goal = .and p q⟩]
  | .andE1 =>
      [⟨.conjunctionRequired, ∃ p q, argument = some (.formula (.and p q))⟩,
        ⟨.rightConjunctMismatch, ∃ p, argument = some (.formula (.and p goal))⟩]
  | .andE2 =>
      [⟨.conjunctionRequired, ∃ p q, argument = some (.formula (.and p q))⟩,
        ⟨.leftConjunctMismatch, ∃ q, argument = some (.formula (.and goal q))⟩]
  | .orI1 | .orI2 => [⟨.notDisjunction, ∃ p q, goal = .or p q⟩]
  | .orE => [⟨.disjunctionRequired, ∃ p q, argument = some (.formula (.or p q))⟩]
  | .implI => [⟨.notImplication, ∃ p q, goal = .implies p q⟩]
  | .implE => [⟨.implicationRequired, ∃ p q, argument = some (.formula (.implies p q))⟩]
  | .notI => [⟨.notNegation, ∃ p, goal = .not p⟩]
  | .notE => [⟨.formulaRequired, ∃ p, argument = some (.formula p)⟩]
  | .lem => [⟨.notExcludedMiddle, ∃ p, goal = .or (.not p) p⟩]
  | .dNeg | .abort => []

/-- What a rule asks for. The rule `goal` needs no goal under proof, and an inference asks for
one before it looks at its argument. -/
def Rule.conditions (assumptions : List Formula) (goal? : Option Formula)
    (argument : Option Argument) : Rule → List Condition
  | .goal => [⟨.invalidGoal, ∃ p, argument = some (.formula p)⟩]
  | .infer inference =>
      ⟨.noCurrentGoal, goal? ≠ none⟩ ::
        goal?.toList.flatMap fun goal => inference.conditions assumptions argument goal

/-- What taking the next goal asks for: that one waits, even if a goal is under proof, and then
that none is. -/
def State.popConditions (state : State) : List Condition :=
  [⟨.noGoalsLeft, state.pending.toList ≠ []⟩, ⟨.goalNotProven, state.goal = none⟩]

namespace Turn

/-- The assumptions that the rule of the step finds: those in force, and those of the goal that
the step takes. -/
def inForce (turn : Turn) : List Formula :=
  turn.before.assumptions ++ turn.taken.toList.flatMap Sequent.assumptions

/-- The goal that the rule of the step finds: the one that the step takes, or else the one under
proof. -/
def goal? (turn : Turn) : Option Formula := (turn.taken.map Sequent.goal).or turn.before.goal

/-- What a step asks for, in the order in which it does. A step without a rule has no conditions
other than those of taking a goal. -/
def conditions (turn : Turn) : List Condition :=
  (if turn.step.pop then turn.before.popConditions else [])
    ++ turn.step.rule.toList.flatMap fun rule =>
        rule.conditions turn.inForce turn.goal? turn.step.argument

end Turn

/-! ## Steps obey their conditions -/

namespace State

variable {state : State} {number : Nat}

theorem assumption?_eq_getElem? (positive : 1 ≤ number) :
    state.assumption? number = state.assumptions[number - 1]? := by
  obtain ⟨position, rfl⟩ := Nat.exists_eq_add_of_le' positive
  rfl

theorem assumption?_eq_none_iff :
    state.assumption? number = none ↔ ¬(1 ≤ number ∧ number ≤ state.assumptions.length) := by
  cases number with
  | zero => simp [assumption?]
  | succ position =>
      rw [assumption?, List.getElem?_eq_none_iff]
      omega

end State

namespace Inference

variable (state : State) (argument : Option Argument) (goal : Formula)

/-- An inference is refused for the first of its conditions that is not met. -/
theorem obeys_refine (inference : Inference) :
    Obeys (inference.conditions state.assumptions argument goal)
      (inference.refine state argument goal) := by
  -- The conditions are put in terms of what the table looks at. Then every split follows the
  -- `match` of the inference, and its arms are a condition met and the same one not met.
  cases inference <;> simp only [conditions, refine, ← Argument.bind_formula?_eq_some_iff,
    ← Argument.bind_index?_eq_some_iff]
  case assm =>
    cases argument.bind Argument.index? with
    | none => exact .here (by simp)
    | some number =>
        simp only [Option.some.injEq, exists_eq', exists_eq_left']
        refine .cons trivial ?_
        cases found : state.assumption? number with
        | none => exact .here (State.assumption?_eq_none_iff.mp found)
        | some assumption =>
            have bounds : 1 ≤ number ∧ number ≤ state.assumptions.length := by
              by_contra outside
              cases (State.assumption?_eq_none_iff.mpr outside).symm.trans found
            refine .cons bounds ?_
            rw [← State.assumption?_eq_getElem? bounds.1, found]
            dsimp only
            split
            · next same => exact .ok_singleton (congrArg some same)
            · next differs => exact .here fun matched => differs (Option.some.inj matched)
  case andI | orI1 | orI2 | implI =>
    split
    · exact .ok_singleton ⟨_, _, rfl⟩
    · next other => exact .here (not_exists.mpr fun p => not_exists.mpr (other p))
  case andE1 | andE2 =>
    split
    · next p q given =>
        refine .cons ⟨p, q, given⟩ ?_
        split
        · next same => exact .ok_singleton ⟨_, same ▸ given⟩
        · next differs => exact .here (by simp [given, differs])
    · next other => exact .here (not_exists.mpr fun p => not_exists.mpr (other p))
  case orE | implE =>
    split
    · next p q given => exact .ok_singleton ⟨p, q, given⟩
    · next other => exact .here (not_exists.mpr fun p => not_exists.mpr (other p))
  case notI =>
    split
    · exact .ok_singleton ⟨_, rfl⟩
    · next other => exact .here (not_exists.mpr other)
  case notE =>
    cases argument.bind Argument.formula? with
    | none => exact .here (by simp)
    | some p => exact .ok_singleton ⟨p, rfl⟩
  case lem =>
    split
    · next p q =>
        split
        · next same => exact .ok_singleton ⟨p, same ▸ rfl⟩
        · next differs => exact .here (by simp [Ne.symm differs])
    · next other => exact .here (not_exists.mpr fun p => other p p)
  case dNeg | abort => exact .ok_nil

end Inference

namespace State

variable (state : State) (argument : Option Argument)

theorem obeys_pop : Obeys state.popConditions state.pop := by
  rcases state with ⟨assumptions, goal, ⟨waiting⟩⟩
  cases waiting with
  | nil => exact .here (absurd rfl)
  | cons sequent rest =>
      refine .cons (List.cons_ne_nil sequent rest) ?_
      cases goal with
      | some goal => exact .here (Option.some_ne_none goal)
      | none => exact .ok_singleton rfl

theorem obeys_applyRule (rule : Rule) :
    Obeys (rule.conditions state.assumptions state.goal argument)
      (state.applyRule argument rule) := by
  cases rule with
  | goal =>
      simp only [Rule.conditions, applyRule, ← Argument.bind_formula?_eq_some_iff]
      cases argument.bind Argument.formula? with
      | none => exact .here (by simp)
      | some goal => exact .ok_singleton ⟨goal, rfl⟩
  | infer inference =>
      simp only [Rule.conditions, applyRule]
      cases state.goal with
      | none => exact .here (absurd rfl)
      | some goal =>
          refine .cons (Option.some_ne_none goal) ?_
          rw [Option.toList_some, List.flatMap_singleton]
          exact (inference.obeys_refine state argument goal).map state.refine

/-- A step in its two parts: taking a goal, then the rule. -/
theorem apply_eq_bind (step : Step) :
    state.apply step = (if step.pop then state.pop else .ok state).bind fun ready =>
      step.rule.elim (.ok ready) (ready.applyRule step.argument) := by
  rcases step with ⟨_ | _, _ | _, argument⟩ <;> rfl

end State

namespace Turn

variable (turn : Turn)

/-- After the goal has been taken, the rule finds the assumptions and the goal that its
conditions speak of. -/
theorem found_of_pop {ready : State} (popped : turn.before.pop = .ok ready)
    (pop : turn.step.pop = true) :
    ready.assumptions = turn.inForce ∧ ready.goal = turn.goal? := by
  obtain ⟨sequent, rest, _, waiting, rfl⟩ := State.pop_eq_ok_iff.mp popped
  simp [inForce, goal?, turn.taken_of_pop pop waiting]

theorem found_of_not_pop (stays : turn.step.pop = false) :
    turn.before.assumptions = turn.inForce ∧ turn.before.goal = turn.goal? := by
  simp [inForce, goal?, turn.taken_of_not_pop stays]

theorem obeys_apply : Obeys turn.conditions (turn.before.apply turn.step) := by
  rw [conditions, State.apply_eq_bind]
  refine Obeys.bind ?_ fun ready reached => ?_
  · split
    · exact turn.before.obeys_pop
    · exact .ok_nil
  · have found : ready.assumptions = turn.inForce ∧ ready.goal = turn.goal? := by
      cases pop : turn.step.pop with
      | true =>
          rw [if_pos pop] at reached
          exact turn.found_of_pop reached pop
      | false =>
          rw [pop, if_neg Bool.false_ne_true] at reached
          cases reached
          exact turn.found_of_not_pop pop
    rw [← found.1, ← found.2]
    cases turn.step.rule with
    | none => exact .ok_nil
    | some rule =>
        rw [Option.toList_some, List.flatMap_singleton]
        exact ready.obeys_applyRule turn.step.argument rule

end Turn

/-! ## Arguments that are not looked at -/

/-- Whether a rule looks at arguments of the kind of this one. -/
def Rule.takes (rule : Rule) : Argument → Bool
  | .index _ => rule = .infer .assm
  | .formula _ =>
      rule ∈ [.goal, .infer .andE1, .infer .andE2, .infer .orE, .infer .implE, .infer .notE]

/-- An argument of another kind than the rule looks at counts as none. -/
theorem State.applyRule_of_not_takes {rule : Rule} {argument : Argument}
    (ignored : rule.takes argument = false) (state : State) :
    state.applyRule (some argument) rule = state.applyRule none rule := by
  cases argument with
  | index number =>
      cases rule with
      | goal => rfl
      | infer inference =>
          cases inference with
          | assm => cases ignored
          | _ => rfl
  | formula p =>
      cases rule with
      | goal => cases ignored
      | infer inference =>
          cases inference with
          | andE1 | andE2 | orE | implE | notE => cases ignored
          | _ => rfl

theorem State.apply_of_not_takes {step : Step} {argument : Argument}
    (ignored : ∀ rule ∈ step.rule, rule.takes argument = false) (state : State) :
    state.apply { step with argument := some argument } =
      state.apply { step with argument := none } := by
  rw [State.apply_eq_bind, State.apply_eq_bind]
  refine congrArg (Except.bind _) (funext fun ready => ?_)
  cases named : step.rule with
  | none => rfl
  | some rule => exact State.applyRule_of_not_takes (ignored rule named) ready

/-- Steps are checked in order. A step is refused for the first of its conditions that is not
met, and applied exactly if all of them are met. An argument of a kind that its rule does not
look at makes no difference. -/
theorem steps_checked_in_order :
    (∀ (state : State) (step : Step),
      (∀ cause, state.apply step = .error cause ↔
        FirstUnmet (Turn.mk state step).conditions cause) ∧
      ((∃ next, state.apply step = .ok next) ↔
        ∀ condition ∈ (Turn.mk state step).conditions, condition.met)) ∧
    ∀ (state : State) (step : Step) (argument : Argument),
      (∀ rule ∈ step.rule, rule.takes argument = false) →
        state.apply { step with argument := some argument } =
          state.apply { step with argument := none } := by
  refine ⟨fun state step => ?_, fun state step argument ignored => ?_⟩
  · have obeys := (Turn.mk state step).obeys_apply
    exact ⟨obeys.eq_error_iff, obeys.exists_ok_iff⟩
  · exact State.apply_of_not_takes ignored state

/-- A goal waits that brings the assumption it is closed by. -/
def oneWaits : State where
  assumptions := [.var "b"]
  pending := { toList := [⟨[.var "a"], .var "a"⟩] }

/-- Take the next goal and close it by the assumption with a number. -/
def closeTaken (number : Nat) : Step where
  pop := true
  rule := some (.infer .assm)
  argument := some (.index number)

/-- The number of an assumption may be that of one which comes with the goal taken on the same
line, but neither zero nor beyond it. That no goal waits is noticed before that one is under
proof, and that none is under proof before that the argument is wrong. -/
theorem oneWaits_checked :
    (∃ next, oneWaits.apply (closeTaken 2) = .ok next) ∧
    oneWaits.apply (closeTaken 0) = .error .assumptionOutOfBounds ∧
    oneWaits.apply (closeTaken (UInt64.size - 1)) = .error .assumptionOutOfBounds ∧
    oneWaits.apply (closeTaken 1) = .error .assumptionMismatch ∧
    (State.start (.var "a")).apply (closeTaken 1) = .error .noGoalsLeft ∧
    oneWaits.apply { rule := some (.infer .orE), argument := some (.index 1) } =
      .error .noCurrentGoal ∧
    (State.start (.var "a")).apply { rule := some (.infer .orE), argument := some (.index 1) } =
      (State.start (.var "a")).apply { rule := some (.infer .orE) } := by
  have refused {state : State} {step : Step} {cause : Refusal}
      (unmet : FirstUnmet (Turn.mk state step).conditions cause) :
      state.apply step = .error cause :=
    ((steps_checked_in_order.1 state step).1 cause).mpr unmet
  have waits : oneWaits.pending.toList ≠ [] := List.cons_ne_nil _ _
  have current : some (Formula.var "a") ≠ none := Option.some_ne_none _
  -- The conditions that are met before the bounds of the number are looked at.
  have beyond {number : Nat} (outside : ¬(1 ≤ number ∧ number ≤ 2)) :
      oneWaits.apply (closeTaken number) = .error .assumptionOutOfBounds := by
    refine refused (.later waits (.later rfl (.later current (.later ⟨number, rfl⟩
      (.here fun numbered => ?_)))))
    obtain ⟨other, given, bounds⟩ := numbered
    cases given
    exact outside bounds
  refine ⟨?_, beyond (by decide), beyond (by decide), ?_, ?_, ?_, ?_⟩
  · refine (steps_checked_in_order.1 oneWaits (closeTaken 2)).2.mpr ?_
    simp [Turn.conditions, closeTaken, oneWaits, State.popConditions, Rule.conditions,
      Inference.conditions, Turn.goal?, Turn.inForce, Turn.taken, GoalQueue.dequeue?]
  · refine refused (.later waits (.later rfl (.later current (.later ⟨1, rfl⟩
      (.later ⟨1, rfl, by decide⟩ (.here fun numbered => ?_))))))
    obtain ⟨other, given, same⟩ := numbered
    cases given
    exact absurd same (by decide)
  · exact refused (.here (absurd rfl))
  · exact refused (.here (absurd rfl))
  · exact steps_checked_in_order.2 (.start (.var "a")) { rule := some (.infer .orE) } (.index 1)
      (by decide)

end ProofScript
