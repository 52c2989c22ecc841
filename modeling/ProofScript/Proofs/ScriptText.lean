import ProofScript.Proofs.FormulaText
import ProofScript.Proofs.ScriptLines
import ProofScript.Script.Printer

/-!
# Printed scripts are read back

`Script.render` writes every step on a line of its own, its parts separated by blanks.
Reading the text gives the steps back, as long as their numbers are not too large and their
formulas are well named (`Step.Writable`): blanks keep the parts of a line apart
(`Step.cuts_render`), and line breaks the lines (`Script.spells_render`). No other steps are
read from any text, since its tokens are `Token.Writable`.
-/

namespace ProofScript

/-! ## Steps that can be written -/

/-- An argument that can stand in a script. -/
def Argument.Writable : Argument → Prop
  | .index number => number ≤ maxNumber
  | .formula p => p.WellNamed

/-- A step that can be written on a line. -/
def Step.Writable (step : Step) : Prop := ∀ argument ∈ step.argument, argument.Writable

instance : (argument : Argument) → Decidable argument.Writable
  | .index number => inferInstanceAs (Decidable (number ≤ maxNumber))
  | .formula p => inferInstanceAs (Decidable p.WellNamed)

instance (step : Step) : Decidable step.Writable :=
  inferInstanceAs (Decidable (∀ argument ∈ step.argument, argument.Writable))

/-! ## The tokens of a printed line -/

/-- The tokens of an argument. -/
def Argument.tokens : Argument → List Token
  | .index number => [.number number]
  | .formula p => p.tokens

/-- The tokens of a line, part by part. -/
def Step.tokenParts (step : Step) : List (List Token) :=
  (if step.pop then [[.dash]] else [])
    ++ (step.rule.map fun rule => [.rule rule]).toList
    ++ (step.argument.map Argument.tokens).toList

theorem Argument.cuts_render {argument : Argument} (writable : argument.Writable) :
    Cuts argument.render.toList argument.tokens := by
  cases argument with
  | index number => exact Token.cuts_spelling (.number number) writable
  | formula p =>
      intro rest apart
      exact Formula.lex?_render writable apart

/-- A printed line is cut into its tokens, whatever stands apart behind it. -/
theorem Step.cuts_render {step : Step} (writable : step.Writable) :
    Cuts step.render.toList step.tokenParts.flatten := by
  have dash : Cuts "-".toList [.dash] := Token.cuts_spelling .dash trivial
  have keyword (rule : Rule) : Cuts rule.keyword.toList [.rule rule] :=
    Token.cuts_spelling (.rule rule) trivial
  have parts : List.Forall₂ Cuts (step.parts.map String.toList) step.tokenParts := by
    obtain ⟨pop, rule, argument⟩ := step
    rw [Step.parts, List.map_append, List.map_append]
    refine List.rel_append (List.rel_append ?_ ?_) ?_
    · cases pop with
      | false => exact .nil
      | true => exact .cons dash .nil
    · cases rule with
      | none => exact .nil
      | some rule => exact .cons (keyword rule) .nil
    · cases argument with
      | none => exact .nil
      | some argument => exact .cons (Argument.cuts_render (writable argument rfl)) .nil
  rw [Step.render, String.toList_intercalate]
  exact cuts_intercalate parts

theorem Step.isLine_tokenParts {step : Step} (writable : step.Writable) :
    IsLine step.tokenParts.flatten step := by
  obtain ⟨pop, rule, argument⟩ := step
  have front : ((if pop then [[Token.dash]] else []) ++
      (rule.map fun rule => [Token.rule rule]).toList).flatten = Step.front pop rule := by
    cases pop <;> cases rule <;> rfl
  rw [Step.tokenParts, List.flatten_append, front]
  cases argument with
  | none =>
      rw [Option.map_none, Option.toList_none, List.flatten_nil, List.append_nil]
      exact .bare pop rule
  | some argument =>
      have allowed : argument.Writable := writable argument rfl
      rw [Option.map_some, Option.toList_some, List.flatten_singleton]
      refine .argued pop rule ?_
      cases argument with
      | index number => exact .index number
      | formula p => exact .formula (.operand (Formula.isOperand_tokens allowed))

/-! ## Printed scripts -/

theorem Script.spells_render {script : Script} (nonempty : script ≠ [])
    (writable : ∀ step ∈ script, step.Writable) : Spells (Script.render script).toList script := by
  induction script with
  | nil => exact absurd rfl nonempty
  | cons step rest ih =>
      obtain ⟨first, later⟩ := List.forall_mem_cons.mp writable
      have cut := (Step.cuts_render first).lex?_eq
      have derived := Step.isLine_tokenParts first
      cases rest with
      | nil =>
          rw [Script.render, List.map_singleton, String.intercalate_singleton]
          exact ⟨step.tokenParts.flatten, cut, .last derived⟩
      | cons next rest =>
          obtain ⟨tokens, others, script⟩ := ih nofun later
          have text : (Script.render (step :: next :: rest)).toList =
              step.render.toList ++ '\n' :: (Script.render (next :: rest)).toList := by
            simp [Script.render]
          refine ⟨step.tokenParts.flatten ++ .newline :: tokens, ?_, .cons derived script⟩
          rw [text, lex?_append_newline, cut, others]
          rfl

/-! ## Printed scripts are ASCII text -/

theorem Argument.all_lt_render {argument : Argument} (writable : argument.Writable) :
    argument.render.toList.all (·.toNat < 0x80) = true := by
  cases argument with
  | index number => exact all_lt_toString number
  | formula p => exact Formula.all_lt_render writable

theorem Step.all_lt_render {step : Step} (writable : step.Writable) :
    step.render.toList.all (·.toNat < 0x80) = true := by
  have keyword (rule : Rule) : rule.keyword.toList.all (·.toNat < 0x80) = true :=
    Token.all_lt_spelling (.rule rule) trivial
  rw [Step.render, String.toList_intercalate]
  refine all_intercalate (by decide) fun text listed => ?_
  obtain ⟨part, present, rfl⟩ := List.mem_map.mp listed
  rw [Step.parts, List.mem_append, List.mem_append, Option.mem_toList, Option.mem_toList,
    Option.map_eq_some_iff, Option.map_eq_some_iff] at present
  rcases present with (dash | ⟨rule, _, rfl⟩) | ⟨argument, given, rfl⟩
  · split at dash
    · rw [List.mem_singleton.mp dash]
      decide
    · cases dash
  · exact keyword rule
  · exact Argument.all_lt_render (writable argument given)

theorem Script.normalise_render {normalise : List Char → List Char} {script : Script}
    (normaliser : Unicode.IsNormaliser normalise) (writable : ∀ step ∈ script, step.Writable) :
    normalise (Script.render script).toList = (Script.render script).toList := by
  refine normaliser.ascii ?_
  rw [Script.render, String.toList_intercalate]
  refine all_intercalate (by decide) fun text listed => ?_
  obtain ⟨line, written, rfl⟩ := List.mem_map.mp listed
  obtain ⟨step, present, rfl⟩ := List.mem_map.mp written
  exact Step.all_lt_render (writable step present)

/-! ## The steps of a text -/

section Tokens

variable {tokens : List Token}

theorem IsLine.writable {step : Step} (allowed : ∀ token ∈ tokens, token.Writable)
    (derived : IsLine tokens step) : step.Writable := by
  cases derived with
  | bare pop rule => nofun
  | argued pop rule given =>
      rintro _ ⟨⟩
      cases given with
      | index number =>
          have bound : (Token.number number).Writable := allowed _ (by simp)
          exact bound
      | formula derived =>
          refine derived.wellNamed fun name present => ?_
          have identifier : (Token.ident name).Writable :=
            allowed _ (List.mem_append_right _ present)
          exact identifier

theorem IsScript.writable {script : Script} (derived : IsScript tokens script)
    (allowed : ∀ token ∈ tokens, token.Writable) : ∀ step ∈ script, step.Writable := by
  induction derived with
  | last line => exact List.forall_mem_singleton.mpr (line.writable allowed)
  | cons line _ ih =>
      obtain ⟨first, later⟩ := List.forall_mem_append.mp allowed
      refine List.forall_mem_cons.mpr ⟨line.writable first, ih ?_⟩
      exact fun token present => later token (List.mem_cons_of_mem _ present)

theorem IsScript.ne_nil {script : Script} (derived : IsScript tokens script) : script ≠ [] := by
  cases derived <;> nofun

end Tokens

/-- The steps of a text can be written. -/
theorem Script.writable_of_parse {text : String} {script : Script}
    (parsed : Script.parse text = .ok script) : ∀ step ∈ script, step.Writable := by
  obtain ⟨tokens, cut, derived⟩ := Script.parse_eq_ok_iff.mp parsed
  exact derived.writable fun token present => writable_of_mem_lex? cut present

/-- Printing and reading scripts are inverse. A script of at least one step is read back
from its text if its numbers are not too large and its formulas are well named, where a
formula is printed as in a state, but in the symbols of a script. What is read from any text
is such a script. -/
theorem printed_script_read_back :
    (∀ script : Script, script ≠ [] → (∀ step ∈ script, step.Writable) →
      Script.parse (Script.render script) = .ok script) ∧
    (∀ p : Formula, p.WellNamed → (Argument.formula p).render = ascii p.display) ∧
    ∀ (text : String) (script : Script), Script.parse text = .ok script →
      script ≠ [] ∧ ∀ step ∈ script, step.Writable := by
  refine ⟨fun script nonempty writable => ?_, fun p named => ?_, fun text script parsed => ?_⟩
  · rw [Script.parse_eq_ok_iff, Script.normalise_render Unicode.isNormaliser_nfkc writable]
    exact Script.spells_render nonempty writable
  · exact (Formula.ascii_display named).symm
  · obtain ⟨tokens, _, derived⟩ := Script.parse_eq_ok_iff.mp parsed
    exact ⟨derived.ne_nil, Script.writable_of_parse parsed⟩

/-- A script that starts and ends with an empty line, with the largest number on a line
without a rule. -/
def unusualLines : Script :=
  [{}, { pop := true, argument := some (.index maxNumber) },
    { rule := some (.infer .orE), argument := some (.formula everyOperator) },
    { pop := true, rule := some (.infer .orI1) }, {}]

theorem unusualLines_read_back :
    Script.parse
        "\n- 18446744073709551615\norE ((orange & ~false) => (b or true))\n- orI1\n" =
      .ok unusualLines ∧
    (∀ step ∈ unusualLines, step.Writable) ∧
    (Argument.formula everyOperator).render = ascii everyOperator.display := by
  have printed : Script.render unusualLines =
      "\n- 18446744073709551615\norE ((orange & ~false) => (b or true))\n- orI1\n" := by
    decide +kernel
  have parsed := printed_script_read_back.1 unusualLines nofun (by decide)
  rw [printed] at parsed
  have writable := (printed_script_read_back.2.2 _ _ parsed).2
  exact ⟨parsed, writable, printed_script_read_back.2.1 everyOperator (by decide)⟩

end ProofScript
