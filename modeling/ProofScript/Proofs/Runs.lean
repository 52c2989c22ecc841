import ProofScript.Proofs.Lexemes
import ProofScript.Proofs.RuleTable

/-!
# Runs of scripts

A run applies steps one after the other, so the run of two scripts in a row is the run of
the first and, if it goes through, that of the second with its lines counted on
(`State.run_append`). If the second starts a proof, it does not matter what came before
(`State.run_opening`). A run is refused at one step, which it names by its line
(`State.run_eq_error_iff`).

A text is run if it can be read. `Script.run_eq_ok_iff` and `Script.run_eq_refused_iff`
take the two stages apart.
-/

namespace ProofScript

/-! ## Attempts -/

theorem mapError_eq_ok_iff {ε δ α : Type} {attempt : Except ε α} {name : ε → δ} {value : α} :
    attempt.mapError name = .ok value ↔ attempt = .ok value := by
  cases attempt with
  | error error => exact ⟨nofun, nofun⟩
  | ok result =>
      constructor
      · rintro ⟨⟩
        rfl
      · rintro ⟨⟩
        rfl

theorem mapError_eq_error_iff {ε δ α : Type} {attempt : Except ε α} {name : ε → δ}
    {reason : δ} :
    attempt.mapError name = .error reason ↔
      ∃ error, attempt = .error error ∧ name error = reason := by
  cases attempt with
  | error error =>
      constructor
      · intro same
        exact ⟨error, rfl, Except.error.inj same⟩
      · rintro ⟨_, ⟨⟩, rfl⟩
        rfl
  | ok value => exact ⟨nofun, nofun⟩

theorem mapError_mapError {ε δ γ α : Type} (attempt : Except ε α) (name : ε → δ)
    (again : δ → γ) :
    (attempt.mapError name).mapError again = attempt.mapError fun error => again (name error) := by
  cases attempt <;> rfl

/-- The reading of a text, found by evaluation. -/
theorem eq_ok_of_toOption {ε α : Type} {attempt : Except ε α} {value : α}
    (evaluated : attempt.toOption = some value) : attempt = .ok value := by
  cases attempt with
  | error error => cases evaluated
  | ok result => exact congrArg Except.ok (Option.some.inj evaluated)

/-! ## Scripts one after the other -/

/-- The same failure some lines further down. -/
def Failure.shift (lines : Nat) (failure : Failure) : Failure :=
  { failure with line := failure.line + lines }

/-- Where a run begins makes no difference but to the line of its failure. -/
theorem State.runFrom_add (state : State) (line lines : Nat) (script : Script) :
    state.runFrom (line + lines) script = (state.runFrom line script).mapError (.shift lines) := by
  induction script generalizing state line with
  | nil => rfl
  | cons step rest ih =>
      rw [State.runFrom, State.runFrom]
      cases state.apply step with
      | error cause => rfl
      | ok next =>
          have later := ih next (line + 1)
          rw [Nat.add_right_comm] at later
          exact later

theorem State.run_cons (state : State) (step : Step) (rest : Script) :
    state.run (step :: rest) =
      match state.apply step with
      | .error cause => .error { line := 1, cause }
      | .ok next => (next.run rest).mapError (.shift 1) := by
  rw [State.run, State.runFrom]
  cases state.apply step with
  | error cause => rfl
  | ok next => exact next.runFrom_add 1 1 rest

theorem State.run_append (state : State) (front back : Script) :
    state.run (front ++ back) =
      (state.run front).bind fun reached => (reached.run back).mapError (.shift front.length) := by
  induction front generalizing state with
  | nil => exact state.runFrom_add 1 0 back
  | cons step rest ih =>
      rw [List.cons_append, State.run_cons, State.run_cons]
      cases state.apply step with
      | error cause => rfl
      | ok next =>
          simp only [ih]
          cases next.run rest with
          | error failure => rfl
          | ok reached => exact mapError_mapError _ _ _

theorem State.run_append_of_ok {state reached : State} {front : Script}
    (ran : state.run front = .ok reached) (back : Script) :
    state.run (front ++ back) = (reached.run back).mapError (.shift front.length) := by
  rw [State.run_append, ran]
  rfl

/-- The line that starts a proof of a formula. -/
def Step.opening (φ : Formula) : Step := { rule := some .goal, argument := some (.formula φ) }

/-- A script that starts a proof is run alike from every state. -/
theorem State.run_opening (state other : State) (φ : Formula) (proof : Script) :
    state.run (Step.opening φ :: proof) = other.run (Step.opening φ :: proof) := rfl

/-! ## The line of a refusal -/

variable {script : Script}

theorem State.exists_refused_step {state : State} {number : Nat} {failure : Failure}
    (refused : state.runFrom number script = .error failure) :
    ∃ done step later reached, script = done ++ step :: later ∧
      state.runFrom number done = .ok reached ∧ reached.apply step = .error failure.cause := by
  induction script generalizing state number with
  | nil => cases refused
  | cons first rest ih =>
      rw [State.runFrom] at refused
      cases applied : state.apply first with
      | error cause =>
          rw [applied] at refused
          cases refused
          exact ⟨[], first, rest, state, rfl, rfl, applied⟩
      | ok next =>
          rw [applied] at refused
          obtain ⟨done, step, later, reached, rfl, ran, refused⟩ := ih refused
          refine ⟨first :: done, step, later, reached, rfl, ?_, refused⟩
          exact State.runFrom_cons_eq_ok_iff.mpr ⟨next, applied, ran⟩

/-- A run is refused at the step behind those it has applied, and names that step's
line. -/
theorem State.run_eq_error_iff {state : State} {failure : Failure} :
    state.run script = .error failure ↔
      ∃ done step later reached, script = done ++ step :: later ∧
        state.run done = .ok reached ∧ reached.apply step = .error failure.cause ∧
        failure.line = List.length done + 1 := by
  have described {done later : Script} {step : Step} {reached : State} {cause : Refusal}
      (ran : state.run done = .ok reached) (refused : reached.apply step = .error cause) :
      state.run (done ++ step :: later) = .error { line := 1 + done.length, cause } := by
    rw [State.run_append_of_ok ran, State.run_cons, refused]
    rfl
  constructor
  · intro failed
    obtain ⟨done, step, later, reached, rfl, ran, refused⟩ := State.exists_refused_step failed
    have same := Except.error.inj (failed.symm.trans (described ran refused))
    refine ⟨done, step, later, reached, rfl, ran, refused, ?_⟩
    rw [same, Nat.add_comm]
  · rintro ⟨done, step, later, reached, rfl, ran, refused, line⟩
    rw [described ran refused, Nat.add_comm, ← line]

/-! ## Texts -/

theorem Script.run_eq_ok_iff {text : String} {final : State} :
    Script.run text = .ok final ↔
      ∃ script, Script.parse text = .ok script ∧ State.empty.run script = .ok final := by
  simp only [Script.run, bind, bind_eq_ok_iff, mapError_eq_ok_iff]

theorem Script.run_of_parse {text : String} (parsed : Script.parse text = .ok script) :
    Script.run text = (State.empty.run script).mapError .refused := by
  rw [Script.run, parsed]
  rfl

theorem Script.run_eq_refused_iff {text : String} {failure : Failure} :
    Script.run text = .error (.refused failure) ↔
      ∃ script, Script.parse text = .ok script ∧ State.empty.run script = .error failure := by
  cases parsed : Script.parse text with
  | error error =>
      have failed : Script.run text = .error error := by
        rw [Script.run, parsed]
        rfl
      rw [failed]
      constructor
      · rintro ⟨⟩
        exact absurd parsed (parseWith_ne_refused failure)
      · rintro ⟨script, ⟨⟩, _⟩
  | ok script =>
      rw [Script.run_of_parse parsed, mapError_eq_error_iff]
      constructor
      · rintro ⟨other, failed, same⟩
        cases same
        exact ⟨script, rfl, failed⟩
      · rintro ⟨again, same, failed⟩
        cases same
        exact ⟨failure, failed, rfl⟩

end ProofScript
