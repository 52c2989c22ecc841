import Mathlib.Data.List.DropRight
import ProofScript.Proofs.CommandLine
import ProofScript.Proofs.Scope

/-!
# Counting open goals

How many goals a proof has left can be read off its script without running it. Taking up a
goal opens and closes none. The inferences `assm` and `lem` close one, `andI`, `implE` and `notE`
leave one more than they find and `orE` two more, and all others leave one for one
(`Inference.Yields.openGoals_add`). `State.Balanced` is that account, kept by every step and so
by every run without the rule `goal` (`State.balanced_of_runFrom`), which starts the count over.

A proof is therefore complete exactly if the two sides agree, and goals that the program reports
as open are at least one (`open_goals_counted`).
-/

namespace ProofScript

/-- How often a script names an inference. -/
def Script.uses (script : Script) (inference : Inference) : Nat :=
  script.countP (·.rule = some (.infer inference))

/-- The goals left are those there were, with what the steps of the script have opened and
closed. -/
def State.Balanced (before : State) (script : Script) (after : State) : Prop :=
  after.openGoals + script.uses .assm + script.uses .lem =
    before.openGoals + script.uses .andI + 2 * script.uses .orE + script.uses .implE
      + script.uses .notE

/-! ## One step -/

/-- How many goals a refinement puts in place of one. -/
def Refinement.openGoals (refinement : Refinement) : Nat :=
  refinement.subgoals.length + if refinement.goal.isSome then 1 else 0

section Step

variable {state next final : State} {step : Step} {inference : Inference}
  {argument : Option Argument} {goal : Formula} {refinement : Refinement}

/-- The balance of each line of the table. -/
theorem Inference.Yields.openGoals_add
    (yields : inference.Yields state argument goal refinement) :
    refinement.openGoals + (if inference = .assm then 1 else 0)
        + (if inference = .lem then 1 else 0) =
      1 + (if inference = .andI then 1 else 0) + 2 * (if inference = .orE then 1 else 0)
        + (if inference = .implE then 1 else 0) + (if inference = .notE then 1 else 0) := by
  cases yields <;> rfl

theorem State.openGoals_pop (popped : state.pop = .ok next) :
    next.openGoals = state.openGoals := by
  obtain ⟨sequent, rest, current, waiting, rfl⟩ := State.pop_eq_ok_iff.mp popped
  simp [State.openGoals, GoalQueue.size, current, waiting]

theorem State.openGoals_refine (current : state.goal = some goal) (refinement : Refinement) :
    (state.refine refinement).openGoals + 1 = state.openGoals + refinement.openGoals := by
  have waiting : (state.refine refinement).pending.size =
      state.pending.size + refinement.subgoals.length := List.length_append
  have own : (state.refine refinement).goal = refinement.goal := rfl
  rw [State.openGoals, State.openGoals, Refinement.openGoals, waiting, own, current,
    Option.isSome_some, if_pos rfl]
  omega

theorem Script.uses_of_infer (named : step.rule = some (.infer inference)) (other : Inference) :
    Script.uses [step] other = if inference = other then 1 else 0 := by
  simp [Script.uses, List.countP_cons, named]

theorem Script.uses_of_none (unnamed : step.rule = none) (other : Inference) :
    Script.uses [step] other = 0 := by
  simp [Script.uses, unnamed]

/-- The balance of a step, unless it starts a proof. -/
theorem State.balanced_of_apply (applied : state.apply step = .ok next)
    (goalFree : step.rule ≠ some .goal) : state.Balanced [step] next := by
  obtain ⟨ready, took, acted⟩ := State.apply_eq_ok_iff.mp applied
  have same : ready.openGoals = state.openGoals := by
    rcases took with ⟨_, popped⟩ | ⟨_, rfl⟩
    · exact State.openGoals_pop popped
    · rfl
  unfold State.Balanced
  rw [← same]
  rcases acted with ⟨unnamed, rfl⟩ | ⟨rule, named, ran⟩
  · simp only [Script.uses_of_none unnamed]
  · rcases State.applyRule_eq_ok_iff.mp ran with
      ⟨rfl, _⟩ | ⟨inference, goal, refinement, rfl, current, yields, rfl⟩
    · exact absurd named goalFree
    · have left := State.openGoals_refine current refinement
      have line := yields.openGoals_add
      simp only [Script.uses_of_infer named]
      omega

end Step

/-! ## Runs -/

section Runs

variable {state final : State} {script : Script} {line : Nat}

theorem Script.uses_cons (step : Step) (rest : Script) (inference : Inference) :
    Script.uses (step :: rest) inference =
      Script.uses [step] inference + Script.uses rest inference := by
  have both : Script.uses ([step] ++ rest) inference = _ := List.countP_append
  exact both

theorem State.balanced_of_runFrom (ran : state.runFrom line script = .ok final)
    (goalFree : script.GoalFree) : state.Balanced script final := by
  induction script generalizing state line with
  | nil =>
      cases ran
      rfl
  | cons step rest ih =>
      obtain ⟨next, applied, ran⟩ := State.runFrom_cons_eq_ok_iff.mp ran
      obtain ⟨stepFree, restFree⟩ := List.forall_mem_cons.mp goalFree
      have first := State.balanced_of_apply applied stepFree
      have later := ih ran restFree
      unfold State.Balanced at first later ⊢
      simp only [Script.uses_cons step rest]
      omega

/-- With no goal open there is none to take up and none to infer anything of. -/
theorem State.openGoals_of_apply {step : Step} {next : State}
    (goalFree : step.rule ≠ some .goal) (closed : state.openGoals = 0)
    (applied : state.apply step = .ok next) : next.openGoals = 0 := by
  have complete := (isComplete_iff_openGoals_eq_zero state).mpr closed
  simp only [isComplete, GoalQueue.isEmpty, Bool.and_eq_true, Option.isNone_iff_eq_none,
    List.isEmpty_iff] at complete
  obtain ⟨ready, took, acted⟩ := State.apply_eq_ok_iff.mp applied
  rcases took with ⟨_, popped⟩ | ⟨_, rfl⟩
  · obtain ⟨sequent, rest, _, waiting, _⟩ := State.pop_eq_ok_iff.mp popped
    rw [complete.2] at waiting
    cases waiting
  · rcases acted with ⟨_, rfl⟩ | ⟨rule, named, ran⟩
    · exact closed
    · rcases State.applyRule_eq_ok_iff.mp ran with
        ⟨rfl, _⟩ | ⟨inference, goal, refinement, rfl, current, _⟩
      · exact absurd named goalFree
      · rw [complete.1] at current
        cases current

/-- The steps behind the last one that starts a proof. -/
def Script.lastProof (script : Script) : Script :=
  script.rtakeWhile (·.rule ≠ some .goal)

theorem Script.goalFree_lastProof (script : Script) : script.lastProof.GoalFree := by
  intro step listed
  have kept := List.mem_rtakeWhile_imp listed
  simpa using kept

/-- A script that starts a proof consists of what stands before the last start, that start, and
the last proof. -/
theorem Script.exists_opening (started : ¬script.GoalFree) :
    ∃ (before : Script) (opening : Step),
      script = before ++ opening :: script.lastProof ∧ opening.rule = some .goal := by
  -- From the end: the last step starts the last proof, or it belongs to it.
  induction script using List.reverseRecOn with
  | nil => exact absurd (List.forall_mem_nil _) started
  | append_singleton front step ih =>
      by_cases rule : step.rule = some .goal
      · refine ⟨front, step, ?_, rule⟩
        rw [lastProof, List.rtakeWhile_concat_neg _ _ _ (by simp [rule])]
      · have earlier : ¬Script.GoalFree front := by
          intro free
          exact started (List.forall_mem_append.mpr ⟨free, by simpa using rule⟩)
        have kept : Script.lastProof (front ++ [step]) = Script.lastProof front ++ [step] :=
          List.rtakeWhile_concat_pos _ _ _ (by simpa using rule)
        obtain ⟨before, opening, divided, opens⟩ := ih earlier
        refine ⟨before, opening, ?_, opens⟩
        rw [kept, ← List.cons_append, ← List.append_assoc, ← divided]

theorem State.exists_start_of_apply {step : Step} {next : State}
    (applied : state.apply step = .ok next) (rule : step.rule = some .goal) :
    ∃ goal, next = start goal := by
  obtain ⟨ready, _, acted⟩ := State.apply_eq_ok_iff.mp applied
  rcases acted with ⟨unnamed, _⟩ | ⟨named, same, ran⟩
  · cases rule.symm.trans unnamed
  · cases rule.symm.trans same
    rcases State.applyRule_eq_ok_iff.mp ran with ⟨_, goal, _, opened⟩ | ⟨_, _, _, other, _⟩
    · exact ⟨goal, opened⟩
    · cases other

/-- The last start of a proof sets the count to one, and the steps behind it are all that
counts. -/
theorem State.balanced_lastProof (ran : state.run script = .ok final)
    (started : ¬script.GoalFree) :
    ∃ goal, (State.start goal).Balanced script.lastProof final := by
  obtain ⟨before, opening, divided, rule⟩ := Script.exists_opening started
  rw [divided, State.run_append] at ran
  obtain ⟨reached, _, later⟩ := bind_eq_ok_iff.mp ran
  obtain ⟨next, applied, proved⟩ :=
    State.runFrom_cons_eq_ok_iff.mp (mapError_eq_ok_iff.mp later)
  obtain ⟨goal, rfl⟩ := State.exists_start_of_apply applied rule
  exact ⟨goal, State.balanced_of_runFrom proved script.goalFree_lastProof⟩

end Runs

/-! ## The report of open goals -/

section Report

variable {invocation : Invocation} {filter : LogFilter} {openGoals : Nat}

theorem Event.render_incomplete_inj {number other : Nat}
    (same : (Event.incomplete number).render = (Event.incomplete other).render) :
    number = other := by
  have shape (number : Nat) : (Event.incomplete number).render =
      " WARN" ++ " " ++ "natural_deduction_rs" ++ ": " ++ "proof is not complete open_goals="
        ++ toString number :=
    (String.append_assoc ..).symm
  rw [shape, shape] at same
  have digits : toString number = toString other := String.append_right_inj _ |>.mp same
  rw [← decimal_toList_toString number, digits, decimal_toList_toString]

/-- While a script is checked nothing is said about open goals. -/
theorem Report.level_of_mem_events {text : String} {event : Event}
    (logged : event ∈ (Report.ofText text).events) :
    event.level = .debug ∨ event.level = .trace := by
  have steps : ∀ history : List Applied, ∀ event ∈ Event.ofHistory history,
      event.level = .debug ∨ event.level = .trace := by
    intro history event listed
    obtain ⟨applied, _, here⟩ := List.mem_flatMap.mp listed
    simp only [List.mem_cons, List.not_mem_nil, or_false] at here
    rcases here with rfl | rfl
    · exact .inl rfl
    · exact .inr rfl
  rcases parseWith_cases Script.read text with
    ⟨_, uncut, _⟩ | ⟨tokens, _, cut, refused, _⟩ | ⟨tokens, script, cut, read, _⟩
  · rw [Report.events_of_uncut uncut] at logged
    cases logged
  · rw [Report.events_of_unread cut refused] at logged
    cases List.mem_singleton.mp logged
    exact .inl rfl
  · rw [Report.events_of_read cut read] at logged
    rcases List.mem_cons.mp logged with rfl | logged
    · exact .inl rfl
    · rcases List.mem_cons.mp logged with rfl | logged
      · exact .inl rfl
      · exact steps _ event logged

theorem incomplete_not_mem_events (filter : LogFilter) (text : String) (openGoals : Nat) :
    (Event.incomplete openGoals).render ∉ filter.render (Report.ofText text).events := by
  intro shown
  obtain ⟨event, logged, same⟩ := List.mem_map.mp shown
  have first := Event.head?_render_incomplete openGoals
  have level := Report.level_of_mem_events (List.mem_filter.mp logged).1
  rw [← same, Event.head?_render] at first
  rcases level with debug | trace
  · rw [debug] at first
    cases first
  · rw [trace] at first
    cases first

/-- Open goals are reported if a complete proof was asked for, and they are those of the state
that the script has reached. -/
theorem openGoals_of_mem_messages {fetched : Except FetchError String}
    (reported : (Event.incomplete openGoals).render ∈
      (invocation.respond filter fetched).messages) :
    ∃ text state, fetched = .ok text ∧ Script.run text = .ok state ∧
      invocation.complete = true ∧ state.isComplete = false ∧ openGoals = state.openGoals := by
  have first := Event.head?_render_incomplete openGoals
  cases fetched with
  | error error =>
      have other : (Event.incomplete openGoals).render = "cannot read script: " ++ error.message :=
        List.mem_singleton.mp reported
      rw [other, head?_append rfl error.message] at first
      cases first
  | ok text =>
      rw [invocation.messages_eq filter text] at reported
      rcases List.mem_append.mp reported with logged | said
      · exact absurd logged (incomplete_not_mem_events filter text openGoals)
      · rcases Invocation.cases_of_mem_closing said with
          ⟨error, same⟩ | ⟨state, ran, asked, unfinished, same⟩
        · rw [same] at first
          rcases error.head?_located with other | other
          · cases first.symm.trans other
          · cases first.symm.trans other
        · exact ⟨text, state, rfl, ran, asked, unfinished, Event.render_incomplete_inj same⟩

end Report

/-- Open goals are counted by the script. There are none before a proof is started. Afterwards,
counting from the last start of a proof, the goals left and the inferences that close one are as
many as the goal of that proof and those that are opened on the way; so the proof is complete
exactly if the inferences that close a goal are as many as these. And if the program reports
goals as open, they are those of the state that its script has reached, and at least one. -/
theorem open_goals_counted :
    (∀ (script : Script) (final : State), State.empty.run script = .ok final →
      (script.GoalFree → final.openGoals = 0) ∧
      (¬script.GoalFree →
        final.openGoals + script.lastProof.uses .assm + script.lastProof.uses .lem =
          1 + script.lastProof.uses .andI + 2 * script.lastProof.uses .orE
            + script.lastProof.uses .implE + script.lastProof.uses .notE ∧
        (final.isComplete = true ↔
          script.lastProof.uses .assm + script.lastProof.uses .lem =
            1 + script.lastProof.uses .andI + 2 * script.lastProof.uses .orE
              + script.lastProof.uses .implE + script.lastProof.uses .notE))) ∧
    ∀ (invocation : Invocation) (filter : LogFilter) (fetched : Except FetchError String)
      (openGoals : Nat),
      (Event.incomplete openGoals).render ∈ (invocation.respond filter fetched).messages →
      1 ≤ openGoals ∧ ∃ text state, fetched = .ok text ∧ Script.run text = .ok state ∧
        openGoals = state.openGoals := by
  refine ⟨fun script final ran => ⟨fun goalFree => ?_, fun started => ?_⟩, ?_⟩
  · have kept : ∀ step ∈ script, ∀ {state next : State}, state.openGoals = 0 →
        state.apply step = .ok next → next.openGoals = 0 := fun step listed _ _ =>
      State.openGoals_of_apply (goalFree step listed)
    exact State.invariant_runFrom kept rfl ran
  · obtain ⟨goal, balanced⟩ := State.balanced_lastProof ran started
    have one : (State.start goal).openGoals = 1 := rfl
    unfold State.Balanced at balanced
    rw [one] at balanced
    refine ⟨balanced, ?_⟩
    rw [State.isComplete_iff_openGoals_eq_zero]
    omega
  · intro invocation filter fetched openGoals reported
    obtain ⟨text, state, read, ran, _, unfinished, rfl⟩ := openGoals_of_mem_messages reported
    refine ⟨?_, text, state, read, ran, rfl⟩
    rw [Nat.one_le_iff_ne_zero]
    intro none
    rw [(State.isComplete_iff_openGoals_eq_zero state).mpr none] at unfinished
    cases unfinished

/-- A proof that is started anew and whose second conjunct is left. -/
def halfProof : Script :=
  let trivial (name : String) := Formula.or (.not (.var name)) (.var name)
  [Step.opening (.var "c"), {}, Step.opening (.and (trivial "a") (trivial "b")),
    { rule := some (.infer .andI) }, {}, { pop := true, rule := some (.infer .lem) }]

/-- One goal is left of it, and one goal is reported of a text that only sets it. -/
theorem halfProof_leaves_one :
    (∃ final, State.empty.run halfProof = .ok final ∧ final.openGoals = 1 ∧
      ¬final.isComplete = true) ∧
    ∃ state, Script.run "goal a" = .ok state ∧ 1 ≤ state.openGoals := by
  refine ⟨⟨_, rfl, ?_, ?_⟩, ?_⟩
  · obtain ⟨counted, _⟩ := (open_goals_counted.1 halfProof _ rfl).2 (by decide)
    exact Nat.add_right_cancel counted
  · obtain ⟨_, complete⟩ := (open_goals_counted.1 halfProof _ rfl).2 (by decide)
    rw [complete]
    decide
  · have parsed : Script.parse "goal a" = .ok [Step.opening (.var "a")] :=
      eq_ok_of_toOption (by decide +kernel)
    have ran := Script.run_eq_ok_iff.mpr ⟨_, parsed, rfl⟩
    have reported : (Event.incomplete 1).render ∈
        (Invocation.respond { complete := true } .standard (.ok "goal a")).messages := by
      have unfinished : (true && !(State.start (.var "a")).isComplete) = true := by decide
      rw [Invocation.respond_ok _ _ ran, if_pos unfinished]
      simp only [LogFilter.render_append]
      exact List.mem_append_right _ List.mem_cons_self
    obtain ⟨bound, text, state, read, again, same⟩ := open_goals_counted.2 _ _ _ _ reported
    cases read
    exact ⟨state, again, same ▸ bound⟩

end ProofScript
