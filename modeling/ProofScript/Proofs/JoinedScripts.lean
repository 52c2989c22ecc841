import ProofScript.Proofs.ScriptLines
import ProofScript.Proofs.Words

/-!
# Scripts below one another

A script below another one is run from the state that the upper one reaches, and nothing
but the numbers of its lines tells that it does not stand alone (`Script.run_joined`). If
it starts a proof of its own, not even that state matters (`Script.run_joined_of_opening`).

A blank line is a step that does nothing. Blank lines can be put anywhere in a script, and
only move the failing line down (`State.run_insertBlocks`).
-/

namespace ProofScript

open List (Forall₂)

/-- The same error, with the failure of a refused step replaced. -/
def ScriptError.mapFailure (move : Failure → Failure) : ScriptError → ScriptError
  | .refused failure => .refused (move failure)
  | error => error

theorem mapError_refused {α : Type} (attempt : Except Failure α) (move : Failure → Failure) :
    (attempt.mapError ScriptError.refused).mapError (ScriptError.mapFailure move) =
      (attempt.mapError move).mapError ScriptError.refused := by
  rw [mapError_mapError, mapError_mapError]
  rfl

/-! ## Texts below one another -/

/-- The number of lines of a text. -/
def lineCount (text : String) : Nat := 1 + text.toList.count '\n'

section Joined

variable {first second : String} {script front back : Script}

theorem Script.length_of_parse (parsed : Script.parse first = .ok front) :
    front.length = lineCount first := by
  have matched := Script.parse_eq_ok_iff_forall₂.mp parsed
  rw [← matched.length_eq, length_splitOn, lineCount]

/-- Two texts below each other can be read exactly if each of them can. -/
theorem Script.parse_joined_iff :
    Script.parse (first ++ "\n" ++ second) = .ok script ↔
      ∃ front back, Script.parse first = .ok front ∧ Script.parse second = .ok back ∧
        script = front ++ back := by
  have joined : (first ++ "\n" ++ second).toList = first.toList ++ '\n' :: second.toList := by
    simp
  rw [Script.parse_eq_ok_iff_forall₂, joined, splitOn_append, forall₂_append_left_iff]
  refine exists₂_congr fun front back => ?_
  rw [← Script.parse_eq_ok_iff_forall₂, ← Script.parse_eq_ok_iff_forall₂]

/-- The upper script is run first, and the lower one from where it has come to. -/
theorem Script.run_joined (upper : Script.parse first = .ok front)
    (lower : Script.parse second = .ok back) :
    Script.run (first ++ "\n" ++ second) =
      (Script.run first).bind fun reached =>
        ((reached.run back).mapError (.shift (lineCount first))).mapError .refused := by
  have parsed : Script.parse (first ++ "\n" ++ second) = .ok (front ++ back) :=
    Script.parse_joined_iff.mpr ⟨front, back, upper, lower, rfl⟩
  rw [Script.run_of_parse parsed, Script.run_of_parse upper, State.run_append,
    Script.length_of_parse upper]
  cases State.empty.run front <;> rfl

variable {reached : State}

theorem Script.run_joined_of_ok (upper : Script.parse first = .ok front)
    (lower : Script.parse second = .ok back) (ran : Script.run first = .ok reached) :
    Script.run (first ++ "\n" ++ second) =
      ((reached.run back).mapError (.shift (lineCount first))).mapError .refused := by
  rw [Script.run_joined upper lower, ran]
  rfl

/-- A lower script that starts a proof runs as it does on its own. -/
theorem Script.run_joined_of_opening {goal : Formula} {proof : Script}
    (upper : Script.parse first = .ok front)
    (lower : Script.parse second = .ok (Step.opening goal :: proof))
    (ran : Script.run first = .ok reached) :
    Script.run (first ++ "\n" ++ second) =
      (Script.run second).mapError (.mapFailure (.shift (lineCount first))) := by
  rw [Script.run_joined_of_ok upper lower ran, State.run_opening reached .empty,
    Script.run_of_parse lower, mapError_refused]

end Joined

/-! ## Blank lines -/

/-- A line of nothing but white space. -/
def IsBlankLine (line : List Char) : Prop := ∀ c ∈ line, isBlank c = true

instance : DecidablePred IsBlankLine :=
  fun line => List.decidableBAll (fun c => isBlank c = true) line

theorem IsBlankLine.lex?_eq {line : List Char} (blank : IsBlankLine line) :
    lex? line = some [] := by
  induction line with
  | nil => exact lex?_nil
  | cons c rest ih =>
      obtain ⟨first, later⟩ := List.forall_mem_cons.mp blank
      rw [lex?_blank first, ih later]

theorem IsBlankLine.normalise {normalise : List Char → List Char} {line : List Char}
    (normaliser : Unicode.IsNormaliser normalise) (blank : IsBlankLine line) :
    IsBlankLine (normalise line) := by
  have white : ∀ c ∈ line, Unicode.isWhiteSpace c = true := by
    intro c present
    have both := blank c present
    rw [isBlank, Bool.and_eq_true] at both
    exact both.1
  have free : '\n' ∉ line := by
    intro present
    exact absurd (blank _ present) (by decide)
  intro c present
  have other := ne_of_mem_of_not_mem present (normaliser.newline_not_mem free)
  rw [isBlank, normaliser.isWhiteSpace_of_mem white c present, Bool.true_and]
  exact decide_eq_true other

theorem IsBlankLine.parse_eq {line : List Char} (blank : IsBlankLine line) :
    Script.parse (String.ofList line) = .ok [{}] := by
  rw [Script.parse_eq_ok_iff, String.toList_ofList]
  exact ⟨[], (blank.normalise Unicode.isNormaliser_nfkc).lex?_eq, .last (.bare false none)⟩

theorem State.run_of_idle (state : State) {steps : Script} (idle : ∀ step ∈ steps, step = {}) :
    state.run steps = .ok state := by
  induction steps with
  | nil => rfl
  | cons step rest ih =>
      obtain ⟨rfl, later⟩ := List.forall_mem_cons.mp idle
      have applied : state.apply {} = .ok state := rfl
      rw [State.run_cons, applied]
      exact congrArg (Except.mapError _) (ih later)

/-! ## Blank lines between others -/

/-- Put blocks into a list, the first before its first element, the second before its
second, and so on. Blocks that are left over come behind the last element. -/
def insertBlocks {α : Type} : List (List α) → List α → List α
  | [], list => list
  | block :: blocks, [] => block ++ blocks.flatten
  | block :: blocks, one :: rest => block ++ one :: insertBlocks blocks rest

/-- How much the blocks put before an element, given by its number, contain. -/
def insertedBefore {α : Type} (blocks : List (List α)) (number : Nat) : Nat :=
  (blocks.take number).flatten.length

theorem insertedBefore_succ {α : Type} (block : List α) (blocks : List (List α)) (number : Nat) :
    insertedBefore (block :: blocks) (number + 1) =
      block.length + insertedBefore blocks number := by
  rw [insertedBefore, List.take_succ_cons, List.flatten_cons, List.length_append]
  rfl

/-- Steps that do nothing only move a failure down. -/
theorem State.run_insertBlocks (state : State) {blocks : List Script}
    (idle : ∀ block ∈ blocks, ∀ step ∈ block, step = {}) (script : Script) :
    state.run (insertBlocks blocks script) =
      (state.run script).mapError fun failure =>
        failure.shift (insertedBefore blocks failure.line) := by
  induction blocks generalizing state script with
  | nil =>
      simp only [insertBlocks, insertedBefore, List.take_nil]
      cases state.run script <;> rfl
  | cons block blocks ih =>
      obtain ⟨first, later⟩ := List.forall_mem_cons.mp idle
      have passed := state.run_of_idle first
      cases script with
      | nil =>
          have rest : ∀ step ∈ blocks.flatten, step = {} := by
            intro step listed
            obtain ⟨other, present, listed⟩ := List.mem_flatten.mp listed
            exact later other present step listed
          rw [insertBlocks, State.run_append_of_ok passed, state.run_of_idle rest]
          rfl
      | cons step script =>
          rw [insertBlocks, State.run_append_of_ok passed, State.run_cons, State.run_cons]
          cases state.apply step with
          | error cause => simp [Except.mapError, Failure.shift, insertedBefore]
          | ok next =>
              -- The failure of the rest counts from one behind this step, and the block
              -- is among those before every later step.
              simp only [ih next later, mapError_mapError]
              congr
              funext failure
              simp only [Failure.shift, insertedBefore_succ, Failure.mk.injEq, and_true]
              omega

theorem forall₂_insertBlocks {α β : Type} {related : α → β → Prop} {blocks : List (List α)}
    {others : List (List β)} {list : List α} {other : List β}
    (inserted : Forall₂ (Forall₂ related) blocks others) (matched : Forall₂ related list other) :
    Forall₂ related (insertBlocks blocks list) (insertBlocks others other) := by
  induction inserted generalizing list other with
  | nil => exact matched
  | cons block blocks ih =>
      cases matched with
      | nil => exact List.rel_append block (List.rel_flatten blocks)
      | cons one rest => exact List.rel_append block (.cons one (ih rest))

theorem insertedBefore_map {α β : Type} (change : α → β) (blocks : List (List α)) (number : Nat) :
    insertedBefore (blocks.map (·.map change)) number = insertedBefore blocks number := by
  rw [insertedBefore, insertedBefore, ← List.map_take, ← List.map_flatten, List.length_map]

section Inserted

variable {text longer : String} {script : Script} {blanks : List (List (List Char))}

/-- A blank line is read as a step that does nothing. -/
theorem Script.parse_insertBlocks (parsed : Script.parse text = .ok script)
    (blank : ∀ block ∈ blanks, ∀ line ∈ block, IsBlankLine line)
    (lines : longer.toList.splitOn '\n' = insertBlocks blanks (text.toList.splitOn '\n')) :
    Script.parse longer = .ok (insertBlocks (blanks.map (·.map fun _ => {})) script) := by
  rw [Script.parse_eq_ok_iff_forall₂] at parsed ⊢
  rw [lines]
  refine forall₂_insertBlocks ?_ parsed
  rw [List.forall₂_map_right_iff, List.forall₂_same]
  intro block listed
  rw [List.forall₂_map_right_iff, List.forall₂_same]
  intro line present
  exact (blank block listed line present).parse_eq

theorem Script.run_insertBlocks (parsed : Script.parse text = .ok script)
    (blank : ∀ block ∈ blanks, ∀ line ∈ block, IsBlankLine line)
    (lines : longer.toList.splitOn '\n' = insertBlocks blanks (text.toList.splitOn '\n')) :
    Script.run longer =
      (Script.run text).mapError (.mapFailure fun failure =>
        failure.shift (insertedBefore blanks failure.line)) := by
  have idle : ∀ block ∈ blanks.map (·.map fun _ => ({} : Step)), ∀ step ∈ block, step = {} := by
    intro block listed step present
    obtain ⟨lines, _, rfl⟩ := List.mem_map.mp listed
    obtain ⟨_, _, rfl⟩ := List.mem_map.mp present
    rfl
  rw [Script.run_of_parse (Script.parse_insertBlocks parsed blank lines),
    Script.run_of_parse parsed, mapError_refused, State.empty.run_insertBlocks idle]
  simp only [insertedBefore_map]

end Inserted

/-- Scripts below one another are run in turn. What can be read as a whole can be read in
its parts. If the upper part fails, so does the whole, in the same way. Otherwise the lower
part is run from the state that the upper one has reached, and the line of its failure
counts on from there. If it first sets a goal, it could as well be run on its own. And blank
lines anywhere in a script do nothing but move the line of its failure down. -/
theorem joined_scripts_run_in_turn :
    (∀ (first second : String) (script : Script),
      Script.parse (first ++ "\n" ++ second) = .ok script →
      ∃ front back : Script,
        Script.parse first = .ok front ∧ Script.parse second = .ok back ∧
        script = front ++ back ∧ front.length = lineCount first ∧
        (∀ failure, Script.run first = .error (.refused failure) →
          Script.run (first ++ "\n" ++ second) = .error (.refused failure)) ∧
        ∀ reached, Script.run first = .ok reached →
          Script.run (first ++ "\n" ++ second) =
            ((reached.run back).mapError (.shift (lineCount first))).mapError .refused ∧
          ∀ goal proof, back = Step.opening goal :: proof →
            Script.run (first ++ "\n" ++ second) =
              (Script.run second).mapError (.mapFailure (.shift (lineCount first)))) ∧
    ∀ (text longer : String) (script : Script) (blanks : List (List (List Char))),
      Script.parse text = .ok script →
      (∀ block ∈ blanks, ∀ line ∈ block, IsBlankLine line) →
      longer.toList.splitOn '\n' = insertBlocks blanks (text.toList.splitOn '\n') →
      Script.run longer =
        (Script.run text).mapError (.mapFailure fun failure =>
          failure.shift (insertedBefore blanks failure.line)) := by
  refine ⟨?_, fun text longer script blanks => Script.run_insertBlocks⟩
  intro first second script parsed
  obtain ⟨front, back, upper, lower, rfl⟩ := Script.parse_joined_iff.mp parsed
  refine ⟨front, back, upper, lower, rfl, Script.length_of_parse upper, ?_, ?_⟩
  · intro failure failed
    rw [Script.run_joined upper lower, failed]
    rfl
  · intro reached ran
    refine ⟨Script.run_joined_of_ok upper lower ran, fun goal proof starts => ?_⟩
    subst starts
    exact Script.run_joined_of_opening upper lower ran

/-- A text whose second line is refused: no assumption is in force. -/
def refusedText : String := "goal b\nassm 1"

def refusedScript : Script :=
  [Step.opening (.var "b"), { rule := some (.infer .assm), argument := some (.index 1) }]

theorem parse_refusedText : Script.parse refusedText = .ok refusedScript :=
  eq_ok_of_toOption (by decide +kernel)

theorem run_refusedText :
    Script.run refusedText = .error (.refused { line := 2, cause := .assumptionOutOfBounds }) := by
  rw [Script.run_of_parse parse_refusedText]
  rfl

/-- The same line refused below a proof, above one, and among blank lines. -/
theorem refusedText_at_other_lines :
    Script.run ("goal a => a\nimplI\nassm 1" ++ "\n" ++ refusedText) =
      .error (.refused { line := 5, cause := .assumptionOutOfBounds }) ∧
    Script.run (refusedText ++ "\n" ++ "goal a => a\nimplI\nassm 1") =
      .error (.refused { line := 2, cause := .assumptionOutOfBounds }) ∧
    Script.run "\n\ngoal b\n \t\nassm 1\n" =
      .error (.refused { line := 5, cause := .assumptionOutOfBounds }) := by
  have proof : Script.parse "goal a => a\nimplI\nassm 1" =
      .ok [Step.opening (.implies (.var "a") (.var "a")), { rule := some (.infer .implI) },
        { rule := some (.infer .assm), argument := some (.index 1) }] :=
    eq_ok_of_toOption (by decide +kernel)
  have ran := Script.run_eq_ok_iff.mpr ⟨_, proof, rfl⟩
  refine ⟨?_, ?_, ?_⟩
  · have parsed := Script.parse_joined_iff.mpr ⟨_, _, proof, parse_refusedText, rfl⟩
    obtain ⟨_, _, _, lower, _, _, _, below⟩ := joined_scripts_run_in_turn.1 _ _ _ parsed
    cases lower.symm.trans parse_refusedText
    rw [(below _ ran).2 _ _ rfl, run_refusedText]
    rfl
  · have parsed := Script.parse_joined_iff.mpr ⟨_, _, parse_refusedText, proof, rfl⟩
    obtain ⟨_, _, _, _, _, _, above, _⟩ := joined_scripts_run_in_turn.1 _ _ _ parsed
    exact above _ run_refusedText
  · have moved := joined_scripts_run_in_turn.2 refusedText "\n\ngoal b\n \t\nassm 1\n" _
      [[[], []], [[' ', '\t']], [[]]] parse_refusedText (by decide) (by decide +kernel)
    rw [moved, run_refusedText]
    rfl

end ProofScript
