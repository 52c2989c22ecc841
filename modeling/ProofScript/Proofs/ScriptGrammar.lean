import ProofScript.Proofs.FormulaGrammar
import ProofScript.Script.Grammar

/-!
# A reader for scripts

`Script.reader` takes in the tokens of a script one by one. It holds the steps of the
lines that are complete and the place within the line it is on. `Step.reader` is the part
of it that stays on one line.

They take in what the grammar derives. `Step.reader` takes in every line of the grammar
(`IsLine.exists_after`). `Script.reader` runs it on each line in turn
(`Script.after_line`) and keeps the steps of the lines that a line break has completed
(`Script.after_line_break`), so that it takes in every script (`IsScript.exists_after`).
-/

namespace ProofScript

/-! ## Places in a line -/

/-- How far the argument of a line has been read. -/
inductive ArgumentPlace where
  | absent
  | index (number : Nat)
  | formula (place : FormulaPlace)
deriving DecidableEq

/-- How far a line has been read. -/
structure LinePlace where
  pop : Bool := false
  rule : Option Rule := none
  argument : ArgumentPlace := .absent
deriving DecidableEq

namespace LinePlace

/-- The line after one more token, other than a line break. A dash has to come
first, and a rule before any argument. -/
def step (line : LinePlace) (token : Token) : Option LinePlace :=
  match line.argument, token with
  | .absent, .dash =>
      if line.pop || line.rule.isSome then none else some { line with pop := true }
  | .absent, .rule rule =>
      if line.rule.isSome then none else some { line with rule := some rule }
  | .absent, .number number => some { line with argument := .index number }
  | .absent, token =>
      (FormulaPlace.start.step token).map fun place => { line with argument := .formula place }
  | .formula place, token =>
      (place.step token).map fun place => { line with argument := .formula place }
  | .index _, _ => none

/-- The step of a line, if it is complete. -/
def finish? (line : LinePlace) : Option Step :=
  match line.argument with
  | .absent => some { pop := line.pop, rule := line.rule }
  | .index number =>
      some { pop := line.pop, rule := line.rule, argument := some (.index number) }
  | .formula place =>
      place.finish?.map fun formula =>
        { pop := line.pop, rule := line.rule, argument := some (.formula formula) }

/-- Whether a token may come next depends on its class alone. -/
theorem isSome_step_congr (line : LinePlace) {token other : Token}
    (same : token.toClass = other.toClass) :
    (line.step token).isSome = (line.step other).isSome := by
  obtain ⟨pop, rule, argument⟩ := line
  cases argument with
  | absent =>
      cases token <;> cases other <;> cases same <;> try rfl
      simp only [step]
      split <;> rfl
  | index number => rfl
  | formula place =>
      simp only [step, Option.isSome_map]
      exact place.isSome_step_congr same

end LinePlace

/-- The reader of a single line. -/
def Step.reader : Reader LinePlace Step where
  start := {}
  step := LinePlace.step
  finish? := LinePlace.finish?
  alike := LinePlace.isSome_step_congr

/-! ## Places in a script -/

/-- How far a script has been read: the steps of the lines that are complete, and
the line under the reader. -/
structure ScriptPlace where
  done : Array Step := #[]
  line : LinePlace := {}
deriving DecidableEq

namespace ScriptPlace

/-- The script after one more token. A line break completes a line. -/
def step (place : ScriptPlace) : Token → Option ScriptPlace
  | .newline => place.line.finish?.map fun step => { done := place.done.push step }
  | token => (place.line.step token).map fun line => { place with line }

/-- The steps of a script, if its last line is complete. -/
def finish? (place : ScriptPlace) : Option Script :=
  place.line.finish?.map fun step => (place.done.push step).toList

/-- Whether a token may come next depends on its class alone. -/
theorem isSome_step_congr (place : ScriptPlace) {token other : Token}
    (same : token.toClass = other.toClass) :
    (place.step token).isSome = (place.step other).isSome := by
  have line := place.line.isSome_step_congr same
  cases token <;> cases other <;> cases same <;>
    simp only [step, Option.isSome_map] <;> exact line

end ScriptPlace

/-- The reader of scripts. -/
def Script.reader : Reader ScriptPlace Script where
  start := {}
  step := ScriptPlace.step
  finish? := ScriptPlace.finish?
  alike := ScriptPlace.isSome_step_congr

/-! ## Lines of the grammar -/

theorem LinePlace.step_newline (line : LinePlace) : line.step .newline = none := by
  rcases line with ⟨pop, rule, _ | _ | place⟩
  · rfl
  · rfl
  · simp only [step, place.step_newline, Option.map_none]

theorem Step.after_front (pop : Bool) (rule : Option Rule) :
    Step.reader.after {} (Step.front pop rule) = some { pop, rule } := by
  cases pop <;> cases rule <;> rfl

theorem LinePlace.step_of_start {token : Token} {place : FormulaPlace} (pop : Bool)
    (rule : Option Rule) (starts : FormulaPlace.start.step token = some place) :
    LinePlace.step { pop, rule } token = some { pop, rule, argument := .formula place } := by
  cases token <;> cases starts <;> rfl

theorem LinePlace.step_formula {pop : Bool} {rule : Option Rule} (place : FormulaPlace)
    (token : Token) :
    Step.reader.step { pop, rule, argument := .formula place } token =
      (place.step token).map fun place => { pop, rule, argument := .formula place } := by
  simp only [Step.reader, step]

/-- Within a formula, a line is read as the formula alone is. -/
theorem Step.after_within_formula (pop : Bool) (rule : Option Rule) (place : FormulaPlace)
    (tokens : List Token) :
    Step.reader.after { pop, rule, argument := .formula place } tokens =
      (Formula.reader.after place tokens).map fun place =>
        { pop, rule, argument := .formula place } := by
  induction tokens generalizing place with
  | nil => rfl
  | cons token rest ih =>
      rw [Reader.after_cons, Reader.after_cons, LinePlace.step_formula, Option.map_bind,
        Option.bind_map]
      exact congrArg (Option.bind _) (funext ih)

/-- A formula behind a dash and a rule is read as the formula alone is. -/
theorem Step.after_formula {tokens : List Token} {place : FormulaPlace} (pop : Bool)
    (rule : Option Rule) (nonempty : tokens ≠ [])
    (taken : Formula.reader.after .start tokens = some place) :
    Step.reader.after { pop, rule } tokens = some { pop, rule, argument := .formula place } := by
  obtain ⟨token, rest, rfl⟩ := List.exists_cons_of_ne_nil nonempty
  rw [Reader.after_cons] at taken ⊢
  obtain ⟨first, starts, taken⟩ := Option.bind_eq_some_iff.mp taken
  rw [show Step.reader.step = LinePlace.step from rfl, LinePlace.step_of_start pop rule starts,
    Option.bind_some, Step.after_within_formula, taken]
  rfl

/-- The reader takes in a line of the grammar. -/
theorem IsLine.exists_after {tokens : List Token} {step : Step} (derived : IsLine tokens step) :
    ∃ line : LinePlace, Step.reader.after {} tokens = some line ∧ line.finish? = some step := by
  cases derived with
  | bare pop rule => exact ⟨_, Step.after_front pop rule, rfl⟩
  | @argued tokens argument pop rule given =>
      rw [Reader.after_append, Step.after_front pop rule, Option.bind_some]
      cases given with
      | index number => exact ⟨_, rfl, rfl⟩
      | formula derived =>
          obtain ⟨chain, rfl, taken⟩ := derived.exists_after []
          have nonempty : tokens ≠ [] := by
            rintro rfl
            cases taken
          exact ⟨_, Step.after_formula pop rule nonempty taken, rfl⟩

/-! ## Scripts of the grammar -/

theorem newline_not_mem_of_after {tokens : List Token} {line next : LinePlace}
    (taken : Step.reader.after line tokens = some next) : Token.newline ∉ tokens := by
  intro present
  obtain ⟨place, behind, stepped⟩ := Reader.exists_step_of_mem taken present
  cases place.step_newline.symm.trans stepped

theorem IsLine.newline_not_mem {tokens : List Token} {step : Step}
    (derived : IsLine tokens step) : Token.newline ∉ tokens := by
  obtain ⟨line, taken, _⟩ := derived.exists_after
  exact newline_not_mem_of_after taken

theorem ScriptPlace.step_of_ne_newline {token : Token} (done : Array Step) (line : LinePlace)
    (other : token ≠ .newline) :
    ScriptPlace.step { done, line } token = (line.step token).map fun line => { done, line } := by
  cases token with
  | newline => exact absurd rfl other
  | _ => rfl

/-- Up to the next line break the reader of scripts does what the reader of lines
does, and does not look at the lines before. -/
theorem Script.after_line (done : Array Step) (line : LinePlace) {tokens : List Token}
    (free : Token.newline ∉ tokens) :
    Script.reader.after { done, line } tokens =
      (Step.reader.after line tokens).map fun line => { done, line } := by
  induction tokens generalizing line with
  | nil => rfl
  | cons token rest ih =>
      rw [List.mem_cons, not_or] at free
      have stepped : Script.reader.step { done, line } token =
          (Step.reader.step line token).map fun line => { done, line } :=
        ScriptPlace.step_of_ne_newline done line (Ne.symm free.1)
      rw [Reader.after_cons, Reader.after_cons, stepped, Option.map_bind, Option.bind_map]
      exact congrArg (Option.bind _) (funext fun line => ih line free.2)

theorem Script.after_of_isLine {tokens : List Token} {step : Step} (done : Array Step)
    (derived : IsLine tokens step) :
    ∃ line : LinePlace, Script.reader.after { done } tokens = some { done, line } ∧
      line.finish? = some step := by
  obtain ⟨line, taken, finished⟩ := derived.exists_after
  refine ⟨line, ?_, finished⟩
  rw [Script.after_line done {} derived.newline_not_mem, taken]
  rfl

/-- A line break behind a line of the grammar completes its step. -/
theorem Script.after_line_break {tokens : List Token} {step : Step} (done : Array Step)
    (derived : IsLine tokens step) :
    Script.reader.after { done } (tokens ++ [.newline]) = some { done := done.push step } := by
  obtain ⟨line, taken, finished⟩ := Script.after_of_isLine done derived
  have broken : Script.reader.step { done, line } .newline = some { done := done.push step } := by
    simp only [Script.reader, ScriptPlace.step, finished, Option.map_some]
  rw [Reader.after_append, taken, Option.bind_some, Reader.after_singleton, broken]

theorem IsScript.exists_after {tokens : List Token} {script : Script} (done : Array Step)
    (derived : IsScript tokens script) :
    ∃ place : ScriptPlace, Script.reader.after { done } tokens = some place ∧
      place.finish? = some (done.toList ++ script) := by
  induction derived generalizing done with
  | @last tokens step derived =>
      obtain ⟨line, taken, finished⟩ := Script.after_of_isLine done derived
      refine ⟨{ done, line }, taken, ?_⟩
      simp only [ScriptPlace.finish?, finished, Option.map_some, Array.toList_push]
  | @cons tokens step rest steps derived _ ih =>
      obtain ⟨place, taken, finished⟩ := ih (done.push step)
      refine ⟨place, ?_, ?_⟩
      · rw [List.append_cons, Reader.after_append, Script.after_line_break done derived]
        exact taken
      · simpa using finished

end ProofScript
