import ProofScript.Run

/-!
# The table of the rules as a relation

`Inference.refine` decides whether an inference applies, and `Inference.Yields`
is the same table without the decisions: one line for every inference, with the
form of the argument and of the goal that it asks for and the refinement that it
yields. `Inference.refine_eq_ok_iff` says that the two agree, so that a proof about
the inferences is a case analysis over the lines of the table.

Around the table stands what else a step can do. `State.apply_eq_ok_iff` and
`State.applyRule_eq_ok_iff` list it, and with them `State.invariant_runFrom` carries a
property of states through a run.
-/

namespace ProofScript

/-- The lines of the table. The state only gives the assumptions their numbers,
and an argument that an inference has no use for can be anything. -/
inductive Inference.Yields (state : State) :
    Inference → Option Argument → Formula → Refinement → Prop
  | assm {number : Nat} {goal : Formula} :
    state.assumption? number = some goal →
    Yields state .assm (some (.index number)) goal .closed
  | andI {argument : Option Argument} {p q : Formula} :
    Yields state .andI argument (.and p q) (.divided [⟨[], p⟩, ⟨[], q⟩])
  | andE1 {p q : Formula} :
    Yields state .andE1 (some (.formula (.and p q))) q (.replaced (.and p q))
  | andE2 {p q : Formula} :
    Yields state .andE2 (some (.formula (.and p q))) p (.replaced (.and p q))
  | orI1 {argument : Option Argument} {p q : Formula} :
    Yields state .orI1 argument (.or p q) (.replaced p)
  | orI2 {argument : Option Argument} {p q : Formula} :
    Yields state .orI2 argument (.or p q) (.replaced q)
  | orE {p q goal : Formula} :
    Yields state .orE (some (.formula (.or p q))) goal
      (.divided [⟨[], .or p q⟩, ⟨[p], goal⟩, ⟨[q], goal⟩])
  | implI {argument : Option Argument} {p q : Formula} :
    Yields state .implI argument (.implies p q) (.supposed p q)
  | implE {p q goal : Formula} :
    Yields state .implE (some (.formula (.implies p q))) goal
      (.divided [⟨[], .implies p q⟩, ⟨[], p⟩])
  | notI {argument : Option Argument} {p : Formula} :
    Yields state .notI argument (.not p) (.supposed p .bot)
  | notE {p goal : Formula} :
    Yields state .notE (some (.formula p)) goal (.divided [⟨[], .not p⟩, ⟨[], p⟩])
  | dNeg {argument : Option Argument} {goal : Formula} :
    Yields state .dNeg argument goal (.replaced (.not (.not goal)))
  | lem {argument : Option Argument} {p : Formula} :
    Yields state .lem argument (.or (.not p) p) .closed
  | abort {argument : Option Argument} {goal : Formula} :
    Yields state .abort argument goal (.replaced .bot)

theorem Argument.bind_formula?_eq_some_iff {argument : Option Argument} {p : Formula} :
    argument.bind Argument.formula? = some p ↔ argument = some (.formula p) := by
  rcases argument with _ | _ | _ <;> simp [Argument.formula?]

theorem Argument.bind_index?_eq_some_iff {argument : Option Argument} {number : Nat} :
    argument.bind Argument.index? = some number ↔ argument = some (.index number) := by
  rcases argument with _ | _ | _ <;> simp [Argument.index?]

/-- What `refine` accepts stands in the table. -/
theorem Inference.yields_of_refine {state : State} {inference : Inference}
    {argument : Option Argument} {goal : Formula} {refinement : Refinement}
    (refined : inference.refine state argument goal = .ok refinement) :
    inference.Yields state argument goal refinement := by
  -- In every case the split follows the `match` of that inference; all branches
  -- but one are refusals.
  cases inference with
  | assm =>
      simp only [Inference.refine] at refined
      split at refined
      · cases refined
      · next number numbered =>
          rw [Argument.bind_index?_eq_some_iff] at numbered
          subst numbered
          split at refined
          · cases refined
          · next assumption found =>
              split at refined
              · next same =>
                  cases refined
                  exact .assm (same ▸ found)
              · cases refined
  | andI =>
      simp only [Inference.refine] at refined
      split at refined
      · cases refined
        exact .andI
      · cases refined
  | andE1 =>
      simp only [Inference.refine] at refined
      split at refined
      · next p q given =>
          rw [Argument.bind_formula?_eq_some_iff] at given
          subst given
          split at refined
          · next same =>
              cases same
              cases refined
              exact .andE1
          · cases refined
      · cases refined
  | andE2 =>
      simp only [Inference.refine] at refined
      split at refined
      · next p q given =>
          rw [Argument.bind_formula?_eq_some_iff] at given
          subst given
          split at refined
          · next same =>
              cases same
              cases refined
              exact .andE2
          · cases refined
      · cases refined
  | orI1 =>
      simp only [Inference.refine] at refined
      split at refined
      · cases refined
        exact .orI1
      · cases refined
  | orI2 =>
      simp only [Inference.refine] at refined
      split at refined
      · cases refined
        exact .orI2
      · cases refined
  | orE =>
      simp only [Inference.refine] at refined
      split at refined
      · next p q given =>
          rw [Argument.bind_formula?_eq_some_iff] at given
          subst given
          cases refined
          exact .orE
      · cases refined
  | implI =>
      simp only [Inference.refine] at refined
      split at refined
      · cases refined
        exact .implI
      · cases refined
  | implE =>
      simp only [Inference.refine] at refined
      split at refined
      · next p q given =>
          rw [Argument.bind_formula?_eq_some_iff] at given
          subst given
          cases refined
          exact .implE
      · cases refined
  | notI =>
      simp only [Inference.refine] at refined
      split at refined
      · cases refined
        exact .notI
      · cases refined
  | notE =>
      simp only [Inference.refine] at refined
      split at refined
      · next p given =>
          rw [Argument.bind_formula?_eq_some_iff] at given
          subst given
          cases refined
          exact .notE
      · cases refined
  | dNeg =>
      cases refined
      exact .dNeg
  | lem =>
      simp only [Inference.refine] at refined
      split at refined
      · split at refined
        · next same =>
            cases same
            cases refined
            exact .lem
        · cases refined
      · cases refined
  | abort =>
      cases refined
      exact .abort

/-- An inference applies exactly where the table has a line for it, and it yields
what stands there. -/
theorem Inference.refine_eq_ok_iff {state : State} {inference : Inference}
    {argument : Option Argument} {goal : Formula} {refinement : Refinement} :
    inference.refine state argument goal = .ok refinement ↔
      inference.Yields state argument goal refinement := by
  constructor
  · exact Inference.yields_of_refine
  · intro yields
    cases yields with
    | assm found => simp [Inference.refine, Argument.index?, found]
    | lem => simp [Inference.refine]
    | andE1 => simp [Inference.refine, Argument.formula?]
    | andE2 => simp [Inference.refine, Argument.formula?]
    | _ => rfl

theorem State.mem_of_assumption? {state : State} {number : Nat} {p : Formula}
    (found : state.assumption? number = some p) : p ∈ state.assumptions := by
  cases number with
  | zero => cases found
  | succ position => exact List.mem_of_getElem? found

/-- A goal that `assm` closes is an assumption in force. -/
theorem Inference.Yields.mem_assumptions {state : State} {argument : Option Argument}
    {goal : Formula} {refinement : Refinement}
    (yields : Inference.assm.Yields state argument goal refinement) :
    goal ∈ state.assumptions := by
  cases yields with
  | assm found => exact State.mem_of_assumption? found

/-! ## What a step does -/

namespace State

variable {state next : State} {step : Step} {rule : Rule} {argument : Option Argument}

theorem pop_eq_ok_iff :
    state.pop = .ok next ↔
      ∃ sequent rest, state.goal = none ∧ state.pending.toList = sequent :: rest ∧
        next = {
          assumptions := state.assumptions ++ sequent.assumptions
          goal := some sequent.goal
          pending := { toList := rest } } := by
  rcases state with ⟨assumptions, goal, ⟨waiting⟩⟩
  rcases waiting with _ | ⟨sequent, rest⟩
  · simp [pop, GoalQueue.dequeue?]
  · cases goal with
    | some goal => simp [pop, GoalQueue.dequeue?]
    | none =>
        simp only [pop, GoalQueue.dequeue?, Except.ok.injEq, true_and]
        constructor
        · intro same
          exact ⟨sequent, rest, rfl, same.symm⟩
        · rintro ⟨_, _, ⟨⟩, same⟩
          exact same.symm

/-- A rule starts a proof over, or it is an inference on the goal under proof. -/
theorem applyRule_eq_ok_iff :
    state.applyRule argument rule = .ok next ↔
      (rule = .goal ∧ ∃ goal, argument = some (.formula goal) ∧ next = start goal) ∨
      ∃ inference goal refinement, rule = .infer inference ∧ state.goal = some goal ∧
        inference.Yields state argument goal refinement ∧ next = state.refine refinement := by
  cases rule with
  | goal =>
      simp only [applyRule, ← Argument.bind_formula?_eq_some_iff]
      cases argument.bind Argument.formula? <;> simp [eq_comm]
  | infer inference =>
      simp only [applyRule, ← Inference.refine_eq_ok_iff]
      cases state.goal with
      | none => simp
      | some goal =>
          cases refined : inference.refine state argument goal <;>
            simp [Except.map, refined, eq_comm]

/-- A step takes a goal if it says so, and then applies its rule if it has one. -/
theorem apply_eq_ok_iff :
    state.apply step = .ok next ↔
      ∃ ready, (step.pop = true ∧ state.pop = .ok ready ∨ step.pop = false ∧ ready = state) ∧
        (step.rule = none ∧ next = ready ∨
          ∃ rule, step.rule = some rule ∧ ready.applyRule step.argument rule = .ok next) := by
  rcases step with ⟨_ | _, rule, argument⟩
  · cases rule <;> simp [apply, bind, Except.bind, eq_comm]
  · unfold apply
    cases state.pop with
    | error cause => simp [bind, Except.bind]
    | ok ready => cases rule <;> simp [bind, Except.bind, eq_comm]

end State

/-! ## Runs -/

theorem bind_eq_ok_iff {ε α β : Type} {attempt : Except ε α} {go : α → Except ε β}
    {result : β} :
    attempt.bind go = .ok result ↔ ∃ value, attempt = .ok value ∧ go value = .ok result := by
  cases attempt <;> simp [Except.bind]

section Runs

variable {state final : State} {line : Nat}

theorem State.runFrom_cons_eq_ok_iff {step : Step} {rest : Script} :
    state.runFrom line (step :: rest) = .ok final ↔
      ∃ next, state.apply step = .ok next ∧ next.runFrom (line + 1) rest = .ok final := by
  rw [State.runFrom]
  cases state.apply step <;> simp

/-- What every step of a script keeps holds after the run if it held before. -/
theorem State.invariant_runFrom {holds : State → Prop} {script : Script}
    (kept : ∀ step ∈ script, ∀ {state next : State}, holds state →
      state.apply step = .ok next → holds next)
    (initially : holds state) (ran : state.runFrom line script = .ok final) : holds final := by
  induction script generalizing state line with
  | nil =>
      cases ran
      exact initially
  | cons step rest ih =>
      obtain ⟨next, applied, ran⟩ := State.runFrom_cons_eq_ok_iff.mp ran
      have first := kept step List.mem_cons_self initially applied
      exact ih (fun later listed => kept later (List.mem_cons_of_mem _ listed)) first ran

end Runs

end ProofScript
