import ProofScript.Proofs.FormulaParser
import ProofScript.Proofs.ScriptGrammar
import ProofScript.Script.Parser

/-!
# The scripts that are read

The rule for lines always matches, since all its parts are optional, so a line that goes
wrong is found out about by what follows it. `lineRun` compares its runs with
`Step.reader`: the dash and the rule first (`FrontRun`), then the argument, which is a number
or a formula (`argumentRun`). Where a formula breaks off, the line matches with what is left
of it and ends before that place.

`scriptRun` goes from line to line, by induction on the number of tokens that are left. The
attempts on earlier lines stay in the record and do not count, because each line takes the
record further (`scriptRun_of_line_break`). So the rule for scripts gives the answers of
`Script.reader` (`Script.reader_tracks`) and reads what the grammar derives
(`Script.read_eq_ok_iff`).
-/

namespace ProofScript

namespace Peg

/-! ## Steps of a run -/

section Steps

variable {position : Nat} {rest : List Token} {input next behind final : Input}
  {attempts others more : List Attempt}

theorem run_dash_of_ne (position : Nat) (other : rest.head? ≠ some .dash) :
    dash.run ⟨position, rest⟩ = ⟨[⟨position, "[Token::Dash]"⟩], none⟩ := by
  refine run_token_of_none fun found first => if_neg ?_
  rintro rfl
  exact other first

theorem run_ruleName_of_ne (other : ∀ named, rest.head? ≠ some (.rule named)) :
    ruleName.run ⟨position, rest⟩ = ⟨[⟨position, "[Token::Keyword(name)]"⟩], none⟩ := by
  refine run_token_of_none fun found first => ?_
  cases found with
  | rule named => exact absurd first (other named)
  | _ => rfl

theorem run_number_of_ne (other : ∀ value, rest.head? ≠ some (.number value)) :
    number.run ⟨position, rest⟩ = ⟨[⟨position, "[Token::Number(n)]"⟩], none⟩ := by
  refine run_token_of_none fun found first => ?_
  cases found with
  | number value => exact absurd first (other value)
  | _ => rfl

theorem run_argument_of_formula {p : Formula}
    (ran : formula.run input = ⟨attempts, some (p, next)⟩) :
    argument.optional.run input = ⟨attempts, some (some (.formula p), next)⟩ :=
  run_optional_of_match (run_orElse_of_match (run_map_of_match ran Argument.formula))

theorem run_argument_of_index {value : Nat} (failed : formula.run input = ⟨attempts, none⟩)
    (ran : number.run input = ⟨[], some (value, next)⟩) :
    argument.optional.run input = ⟨attempts, some (some (.index value), next)⟩ := by
  have ran : argument.run input = ⟨attempts ++ [], some (.index value, next)⟩ := by
    rw [argument, run_orElse_of_fail (run_map_of_fail failed Argument.formula),
      run_map_of_match ran Argument.index]
  rw [List.append_nil] at ran
  exact run_optional_of_match ran

theorem run_argument_of_fail (failed : formula.run input = ⟨attempts, none⟩)
    (without : number.run input = ⟨others, none⟩) :
    argument.optional.run input = ⟨attempts ++ others, some (none, input)⟩ := by
  refine run_optional_of_fail ?_
  rw [argument, run_orElse_of_fail (run_map_of_fail failed Argument.formula),
    run_map_of_fail without Argument.index]

theorem run_line {popped : Option Unit} {rule : Option Rule} {argument : Option Argument}
    (first : dash.optional.run input = ⟨attempts, some (popped, next)⟩)
    (second : ruleName.optional.run next = ⟨others, some (rule, behind)⟩)
    (third : Peg.argument.optional.run behind = ⟨more, some (argument, final)⟩) :
    line.run input =
      ⟨(attempts ++ others) ++ more, some ({ pop := popped.isSome, rule, argument }, final)⟩ := by
  rw [line, run_bind_of_match first, run_bind_of_match second, run_bind_of_match third]
  simp only [run_pure, List.append_nil, List.append_assoc]

end Steps

end Peg

/-! ## What the reader would take in -/

namespace LinePlace

variable {pop : Bool} {rule : Option Rule} {name : String}

/-- The names of what can come before the argument of a line and has not yet come. -/
def FrontNames (pop : Bool) (rule : Option Rule) (name : String) : Prop :=
  (pop = false ∧ rule = none ∧ name = "[Token::Dash]") ∨
    (rule = none ∧ name = "[Token::Keyword(name)]")

theorem admits_absent :
    Step.reader.Admits { pop, rule } name ↔
      (FrontNames pop rule name ∨ Formula.reader.Admits .start name) ∨
        name = "[Token::Number(n)]" := by
  constructor
  · rintro ⟨token, stepped, rfl⟩
    cases token with
    | dash =>
        refine .inl (.inl (.inl ?_))
        rcases pop with _ | _ <;> rcases rule with _ | rule <;> cases stepped
        exact ⟨rfl, rfl, rfl⟩
    | rule named =>
        refine .inl (.inl (.inr ?_))
        rcases rule with _ | rule <;> cases stepped
        exact ⟨rfl, rfl⟩
    | number value => exact .inr rfl
    | ident name => exact .inl (.inr ⟨.ident name, rfl, rfl⟩)
    | lparen => exact .inl (.inr ⟨.lparen, rfl, rfl⟩)
    | not => exact .inl (.inr ⟨.not, rfl, rfl⟩)
    | _ => cases stepped
  · rintro (((⟨rfl, rfl, rfl⟩ | ⟨rfl, rfl⟩) | ⟨token, stepped, rfl⟩) | rfl)
    · exact ⟨.dash, rfl, rfl⟩
    · exact ⟨.rule .goal, rfl, rfl⟩
    · obtain ⟨place, starts⟩ := Option.isSome_iff_exists.mp stepped
      refine ⟨token, ?_, rfl⟩
      rw [show Step.reader.step = LinePlace.step from rfl, step_of_start pop rule starts]
      rfl
    · exact ⟨.number 0, rfl, rfl⟩

theorem not_admits_index {number : Nat} :
    ¬Step.reader.Admits { pop, rule, argument := .index number } name := by
  rintro ⟨token, stepped, _⟩
  cases stepped

theorem admits_formula {place : FormulaPlace} :
    Step.reader.Admits { pop, rule, argument := .formula place } name ↔
      Formula.reader.Admits place name := by
  simp only [Reader.Admits, step_formula, Option.isSome_map]
  rfl

end LinePlace

theorem ScriptPlace.admits_iff {done : Array Step} {line : LinePlace} {name : String} :
    Script.reader.Admits { done, line } name ↔
      Step.reader.Admits line name ∨ (line.finish?.isSome = true ∧ name = "newline") := by
  constructor
  · rintro ⟨token, stepped, rfl⟩
    by_cases lineBreak : token = .newline
    · subst lineBreak
      refine .inr ⟨?_, rfl⟩
      simpa [Script.reader, step] using stepped
    · refine .inl ⟨token, ?_, rfl⟩
      have same := step_of_ne_newline done line lineBreak
      rw [show Script.reader.step = ScriptPlace.step from rfl, same, Option.isSome_map] at stepped
      exact stepped
  · rintro (⟨token, stepped, rfl⟩ | ⟨complete, rfl⟩)
    · have other : token ≠ .newline := by
        rintro rfl
        rw [show Step.reader.step = LinePlace.step from rfl, line.step_newline] at stepped
        cases stepped
      refine ⟨token, ?_, rfl⟩
      rw [show Script.reader.step = ScriptPlace.step from rfl, step_of_ne_newline done line other,
        Option.isSome_map]
      exact stepped
    · refine ⟨.newline, ?_, rfl⟩
      simpa [Script.reader, step] using complete

/-! ## Lines -/

/-- A token with which no formula starts is looked for as one in vain. -/
theorem Peg.run_formula_of_not_start {rest : List Token} (position : Nat)
    (other : ∀ token ∈ rest.head?, FormulaPlace.start.step token = none) :
    formula.run ⟨position, rest⟩ =
      ⟨[⟨position, "`~`"⟩, ⟨position, "identifier"⟩, ⟨position, "`(`"⟩], none⟩ := by
  refine run_formula_of_fail (run_operand_of_ne ?_ ?_ ?_)
  · intro next
    cases other _ next
  · intro name next
    cases other _ next
  · intro next
    cases other _ next

section Line

variable {pop : Bool} {rule : Option Rule} {position : Nat} {rest : List Token}
  {early : List Attempt}

/-- A line without a formula. -/
theorem argumentRun_of_not_start (marks : Marks early position (LinePlace.FrontNames pop rule))
    (noDash : pop = false → rule = none → rest.head? ≠ some .dash)
    (noRule : rule = none → ∀ named, rest.head? ≠ some (.rule named))
    (other : ∀ token ∈ rest.head?, FormulaPlace.start.step token = none) :
    ∃ attempts argument next,
      Peg.argument.optional.run ⟨position, rest⟩ = ⟨attempts, some (argument, next)⟩ ∧
      Step.reader.Run (fun front => IsLine (Step.front pop rule ++ front)) { pop, rule }
        ⟨position, rest⟩ ⟨early ++ attempts, some ({ pop, rule, argument }, next)⟩ := by
  have failed := Peg.run_formula_of_not_start position other
  have tried := marks_operand position {} []
  by_cases number : ∃ value, rest.head? = some (.number value)
  · obtain ⟨value, next⟩ := number
    obtain ⟨back, rfl⟩ := List.head?_eq_some_iff.mp next
    refine ⟨_, _, _, Peg.run_argument_of_index failed (Peg.run_token_of_some rfl), ?_⟩
    refine @Reader.Run.complete _ _ _ _ _ position [.number value] back _ _ _
      (.argued pop rule (.index value)) rfl rfl (fun _ _ => rfl) ?_
    have reached : position < position + [Token.number value].length := Nat.lt_succ_self position
    have record := Marks.of_before ((marks.before reached).append (tried.before reached))
    exact record.congr fun name => (iff_false_intro LinePlace.not_admits_index).symm
  · have noNumber := not_exists.mp number
    refine ⟨_, _, _, Peg.run_argument_of_fail failed (Peg.run_number_of_ne noNumber), ?_⟩
    have bare := IsLine.bare pop rule
    rw [← List.append_nil (Step.front pop rule)] at bare
    refine @Reader.Run.complete _ _ _ _ _ position [] rest _ _ _ bare rfl rfl ?_ ?_
    · intro token next
      have outside := other token next
      cases token with
      | dash =>
          rcases pop with _ | _ <;> rcases rule with _ | rule
          · exact absurd next (noDash rfl rfl)
          · rfl
          · rfl
          · rfl
      | rule named =>
          rcases rule with _ | rule
          · exact absurd next (noRule rfl named)
          · rfl
      | number value => exact absurd next (noNumber value)
      | ident name => cases outside
      | lparen => cases outside
      | not => cases outside
      | _ => rfl
    · rw [← List.append_assoc]
      have record := (marks.append tried).append (.singleton position "[Token::Number(n)]")
      exact record.congr fun name => LinePlace.admits_absent.symm

theorem Step.reader_halts_of_formula {place : FormulaPlace} (pop : Bool) (rule : Option Rule)
    (halts : Formula.reader.Halts place rest) :
    Step.reader.Halts { pop, rule, argument := .formula place } rest := by
  intro token next
  rw [LinePlace.step_formula, show place.step token = none from halts token next]
  rfl

/-- Where the reader breaks off in a formula, it breaks off in the line. -/
theorem Step.reader_breaks_of_formula {front back : List Token} {attempts : List Attempt}
    {most : Nat} (pop : Bool) (rule : Option Rule) (nonempty : front ≠ [])
    (breaks : Formula.reader.Breaks .start front back most attempts) :
    Step.reader.Breaks { pop, rule } front back most attempts := by
  obtain ⟨place, taken, incomplete, halts, marks⟩ := breaks
  refine ⟨_, Step.after_formula pop rule nonempty taken, ?_,
    Step.reader_halts_of_formula pop rule halts,
    marks.congr fun name => LinePlace.admits_formula.symm⟩
  have incomplete : place.finish? = none := incomplete
  simp only [Step.reader, LinePlace.finish?, incomplete, Option.map_none]

/-- A line with a formula, or with the beginning of one. -/
theorem argumentRun_of_start {token : Token}
    (marks : Marks early position (LinePlace.FrontNames pop rule))
    (starts : FormulaPlace.start.step token ≠ none) :
    ∃ attempts argument next,
      Peg.argument.optional.run ⟨position, token :: rest⟩ = ⟨attempts, some (argument, next)⟩ ∧
      Step.reader.Run (fun front => IsLine (Step.front pop rule ++ front)) { pop, rule }
        ⟨position, token :: rest⟩ ⟨early ++ attempts, some ({ pop, rule, argument }, next)⟩ := by
  generalize shape : token :: rest = tokens
  have run := (formulaRun ⟨position, tokens⟩).run
  generalize start : Input.mk position tokens = input at run
  generalize ran : Peg.formula.run input = outcome at run
  cases run with
  | @complete _ front back place p attempts derived taken finished halts marked =>
      have nonempty : front ≠ [] := by
        rintro rfl
        cases taken
        cases finished
      have reached : position < position + front.length :=
        Nat.lt_add_of_pos_right (List.length_pos_iff.mpr nonempty)
      have finished : place.finish? = some p := finished
      cases start
      refine ⟨_, _, _, Peg.run_argument_of_formula ran, ?_⟩
      refine .complete (.argued pop rule (.formula derived))
        (Step.after_formula pop rule nonempty taken) ?_
        (Step.reader_halts_of_formula pop rule halts) ?_
      · simp only [Step.reader, LinePlace.finish?, finished, Option.map_some]
      · have record := Marks.before_append (marks.before reached) marked
        exact record.congr fun name => LinePlace.admits_formula.symm
  | @broken _ front back attempts result breaks short =>
      cases front with
      | nil =>
          -- The reader would have taken in the first token.
          exfalso
          obtain ⟨place, taken, _, halts, _⟩ := breaks
          cases taken
          cases start
          have next : token ∈ back.head? := by rw [← show token :: rest = back from shape]; rfl
          exact starts (halts token next)
      | cons first front =>
          cases start
          cases shape
          have reached : position < position + (token :: front).length := by
            rw [add_length_cons]
            omega
          have longer := (Step.reader_breaks_of_formula pop rule (List.cons_ne_nil _ _)
            breaks).before_append (marks.before reached)
          cases result with
          | none =>
              have noNumber : ∀ value, (token :: front ++ back).head? ≠ some (.number value) := by
                rintro value ⟨⟩
                exact starts rfl
              refine ⟨_, _, _, Peg.run_argument_of_fail ran (Peg.run_number_of_ne noNumber), ?_⟩
              rw [← List.append_assoc]
              refine .broken (longer.append_before (before_singleton _ reached)) ?_
              refine endsEarly_some reached ?_ ?_
              · rintro rfl
                exact starts rfl
              · rintro rfl
                exact starts rfl
          | some found =>
              obtain ⟨p, next⟩ := found
              exact ⟨_, _, _, Peg.run_argument_of_formula ran, .broken longer short.of_some⟩

theorem argumentRun (marks : Marks early position (LinePlace.FrontNames pop rule))
    (noDash : pop = false → rule = none → rest.head? ≠ some .dash)
    (noRule : rule = none → ∀ named, rest.head? ≠ some (.rule named)) :
    ∃ attempts argument next,
      Peg.argument.optional.run ⟨position, rest⟩ = ⟨attempts, some (argument, next)⟩ ∧
      Step.reader.Run (fun front => IsLine (Step.front pop rule ++ front)) { pop, rule }
        ⟨position, rest⟩ ⟨early ++ attempts, some ({ pop, rule, argument }, next)⟩ := by
  by_cases other : ∀ token ∈ rest.head?, FormulaPlace.start.step token = none
  · exact argumentRun_of_not_start marks noDash noRule other
  · push Not at other
    obtain ⟨token, next, starts⟩ := other
    obtain ⟨rest, rfl⟩ := List.head?_eq_some_iff.mp next
    exact argumentRun_of_start marks starts

end Line

/-- How the rule for lines comes to the argument: behind a dash and a rule, if they are there,
and otherwise with the attempts to find them. -/
structure FrontRun (position : Nat) (rest : List Token) (pop : Bool) (rule : Option Rule)
    (back : List Token) (early : List Attempt) : Prop where
  divided : rest = Step.front pop rule ++ back
  marks : Marks early (position + (Step.front pop rule).length) (LinePlace.FrontNames pop rule)
  noDash : pop = false → rule = none → back.head? ≠ some .dash
  noRule : rule = none → ∀ named, back.head? ≠ some (.rule named)
  goesOn : ∀ {attempts argument next},
    Peg.argument.optional.run ⟨position + (Step.front pop rule).length, back⟩ =
      ⟨attempts, some (argument, next)⟩ →
    Peg.line.run ⟨position, rest⟩ = ⟨early ++ attempts, some ({ pop, rule, argument }, next)⟩

theorem exists_frontRun (position : Nat) (rest : List Token) :
    ∃ pop rule back early, FrontRun position rest pop rule back early := by
  by_cases dash : rest.head? = some .dash
  · obtain ⟨rest, rfl⟩ := List.head?_eq_some_iff.mp dash
    have popped : Peg.dash.optional.run ⟨position, .dash :: rest⟩ =
        ⟨[], some (some (), ⟨position + 1, rest⟩)⟩ := rfl
    by_cases keyword : ∃ named, rest.head? = some (.rule named)
    · obtain ⟨named, next⟩ := keyword
      obtain ⟨back, rfl⟩ := List.head?_eq_some_iff.mp next
      refine ⟨true, some named, back, [], rfl, ?_, by simp, by simp, fun argued => ?_⟩
      · exact (Marks.of_before (before_nil _)).congr fun name => by simp [LinePlace.FrontNames]
      · exact Peg.run_line popped rfl argued
    · have noRule := not_exists.mp keyword
      refine ⟨true, none, rest, [⟨position + 1, "[Token::Keyword(name)]"⟩], rfl, ?_, by simp,
        fun _ => noRule, fun argued => ?_⟩
      · exact (Marks.singleton (position + 1) _).congr fun name => by simp [LinePlace.FrontNames]
      · exact Peg.run_line popped (Peg.run_optional_of_fail (Peg.run_ruleName_of_ne noRule)) argued
  · have unpopped := Peg.run_optional_of_fail (Peg.run_dash_of_ne position dash)
    by_cases keyword : ∃ named, rest.head? = some (.rule named)
    · obtain ⟨named, next⟩ := keyword
      obtain ⟨back, rfl⟩ := List.head?_eq_some_iff.mp next
      refine ⟨false, some named, back, [⟨position, "[Token::Dash]"⟩], rfl, ?_, by simp, by simp,
        fun argued => ?_⟩
      · have before := before_singleton "[Token::Dash]" (Nat.lt_succ_self position)
        exact (Marks.of_before before).congr fun name => by simp [LinePlace.FrontNames]
      · exact Peg.run_line unpopped rfl argued
    · have noRule := not_exists.mp keyword
      refine ⟨false, none, rest,
        [⟨position, "[Token::Dash]"⟩, ⟨position, "[Token::Keyword(name)]"⟩], rfl, ?_,
        fun _ _ => dash, fun _ => noRule, fun argued => ?_⟩
      · have record := (Marks.singleton position "[Token::Dash]").append
          (.singleton position "[Token::Keyword(name)]")
        exact record.congr fun name => by simp [LinePlace.FrontNames]
      · exact Peg.run_line unpopped (Peg.run_optional_of_fail (Peg.run_ruleName_of_ne noRule))
          argued

/-- A line always matches, and what it makes of its input compares with the reader. -/
theorem lineRun (input : Input) :
    ∃ attempts step next, Peg.line.run input = ⟨attempts, some (step, next)⟩ ∧
      Step.reader.Run IsLine {} input ⟨attempts, some (step, next)⟩ := by
  obtain ⟨position, rest⟩ := input
  obtain ⟨pop, rule, back, early, front⟩ := exists_frontRun position rest
  obtain ⟨attempts, argument, next, argued, run⟩ :=
    argumentRun front.marks front.noDash front.noRule
  refine ⟨_, _, next, front.goesOn argued, ?_⟩
  rw [front.divided]
  exact .prepend (Step.after_front pop rule) run

/-! ## Scripts -/

theorem Peg.consumes_newline : Consumes newline := consumes_symbol _ _ _

theorem Peg.run_newline_of_ne {rest : List Token} (position : Nat)
    (other : rest.head? ≠ some .newline) :
    newline.run ⟨position, rest⟩ = ⟨[⟨position, "newline"⟩], none⟩ :=
  run_symbol_of_ne other

/-- The scripts that can come behind the steps of some lines. -/
def ContinuesWith (done : Array Step) (front : List Token) (script : Script) : Prop :=
  ∃ steps, script = done.toList ++ steps ∧ IsScript front steps

section Script

variable {done : Array Step} {line : LinePlace} {rest : List Token}

theorem Script.reader_halts_of_line (halts : Step.reader.Halts line rest)
    (within : rest.head? = some .newline → line.finish? = none) :
    Script.reader.Halts { done, line } rest := by
  intro token next
  by_cases lineBreak : token = .newline
  · subst lineBreak
    exact Option.map_eq_none_iff.mpr (within next)
  · have stepped := ScriptPlace.step_of_ne_newline done line lineBreak
    rw [show line.step token = none from halts token next] at stepped
    exact stepped

/-- The last line of a script, with something else than a line break behind it. -/
theorem scriptRun_of_end {position : Nat} {front back : List Token} {step : Step}
    {attempts : List Attempt} (done : Array Step) (derived : IsLine front step)
    (taken : Step.reader.after {} front = some line) (finished : line.finish? = some step)
    (halts : Step.reader.Halts line back)
    (marks : Marks attempts (position + front.length) (Step.reader.Admits line))
    (other : back.head? ≠ some .newline) :
    Script.reader.Run (ContinuesWith done) { done } ⟨position, front ++ back⟩
      ⟨attempts ++ [⟨position + front.length, "newline"⟩],
        some (done.toList ++ [step], ⟨position + front.length, back⟩)⟩ := by
  have reached : Script.reader.after { done } front = some { done, line } := by
    rw [Script.after_line done {} derived.newline_not_mem, taken]
    rfl
  refine .complete ⟨[step], rfl, .last derived⟩ reached ?_ ?_ ?_
  · simp only [Script.reader, ScriptPlace.finish?, finished, Option.map_some, Array.toList_push]
  · exact Script.reader_halts_of_line halts fun next => absurd next other
  · have record := marks.append (.singleton (position + front.length) "newline")
    refine record.congr fun name => ?_
    rw [ScriptPlace.admits_iff, finished]
    simp

/-- A line, a line break, and the lines behind it. -/
theorem scriptRun_of_line_break {position : Nat} {front : List Token} {step : Step}
    {attempts others : List Attempt} {steps : Script} {final : Input}
    (derived : IsLine front step) (before : Before attempts (position + front.length + 1))
    (later : Script.reader.Run (ContinuesWith (done.push step)) { done := done.push step }
      ⟨position + front.length + 1, rest⟩
      ⟨others, some ((done.push step).toList ++ steps, final)⟩) :
    Script.reader.Run (ContinuesWith done) { done } ⟨position, front ++ .newline :: rest⟩
      ⟨attempts ++ others, some (done.toList ++ step :: steps, final)⟩ := by
  have grown (script : Script) :
      (done.push step).toList ++ script = done.toList ++ step :: script := by
    rw [Array.toList_push, List.append_assoc]
    rfl
  rw [grown] at later
  rw [List.append_cons]
  refine .prepend (Script.after_line_break done derived) ?_
  rw [List.length_append, List.length_singleton, ← Nat.add_assoc]
  refine (later.before_append before).imp fun more script continues => ?_
  obtain ⟨behind, rfl, derivedLater⟩ := continues
  refine ⟨step :: behind, grown behind, ?_⟩
  rw [← List.append_cons]
  exact .cons derived derivedLater

/-- A line in which the reader breaks off. -/
theorem scriptRun_of_break {position : Nat} {front back : List Token} {attempts : List Attempt}
    {result : Option (Script × Input)} (done : Array Step)
    (breaks : Step.reader.Breaks {} front back (position + front.length) attempts)
    (early : EndsEarly result (position + front.length)) :
    Script.reader.Run (ContinuesWith done) { done } ⟨position, front ++ back⟩
      ⟨attempts, result⟩ := by
  obtain ⟨line, taken, incomplete, halts, marks⟩ := breaks
  have incomplete : line.finish? = none := incomplete
  refine .broken ⟨{ done, line }, ?_, ?_, ?_, ?_⟩ early
  · rw [Script.after_line done {} (newline_not_mem_of_after taken), taken]
    rfl
  · simp only [Script.reader, ScriptPlace.finish?, incomplete, Option.map_none]
  · exact Script.reader_halts_of_line halts fun _ => incomplete
  · refine marks.congr fun name => ?_
    rw [ScriptPlace.admits_iff, incomplete]
    simp

end Script

/-- Lines with line breaks between them always match, and what they make of their input compares
with the reader, whatever steps came before. -/
theorem scriptRun (done : Array Step) (input : Input) :
    ∃ attempts steps next,
      (Peg.sepBy1 Peg.line Peg.newline).run input = ⟨attempts, some (steps, next)⟩ ∧
      Script.reader.Run (ContinuesWith done) { done } input
        ⟨attempts, some (done.toList ++ steps, next)⟩ := by
  induction size : input.rest.length using Nat.strongRecOn generalizing input done with
  | ind length ih =>
  obtain ⟨attempts, step, behind, ran, run⟩ := lineRun input
  generalize outcome : Outcome.mk attempts (some (step, behind)) = result at run
  cases run with
  | @complete position front back line _ _ derived taken finished halts marks =>
      cases outcome
      by_cases next : back.head? = some .newline
      · obtain ⟨rest, rfl⟩ := List.head?_eq_some_iff.mp next
        rw [List.length_append, List.length_cons] at size
        have separated : Peg.newline.run ⟨position + front.length, .newline :: rest⟩ =
            ⟨[], some ((), ⟨position + front.length + 1, rest⟩)⟩ := Peg.run_symbol_self
        obtain ⟨others, steps, final, later, run⟩ := ih rest.length (by omega) (done.push step)
          ⟨position + front.length + 1, rest⟩ rfl
        refine ⟨_, _, _, Peg.run_sepBy1_of_more Peg.consumes_newline ran separated later, ?_⟩
        exact scriptRun_of_line_break derived (marks.before (Nat.lt_succ_self _)) run
      · refine ⟨_, _, _, Peg.run_sepBy1_of_end Peg.consumes_newline ran
          (Peg.run_newline_of_ne _ next), ?_⟩
        exact scriptRun_of_end done derived taken finished halts marks next
  | @broken position front back _ _ breaks early =>
      -- The line matches all the same, but no line break follows the match.
      cases outcome
      obtain ⟨place, remaining⟩ := behind
      obtain ⟨short, token, rest, shape, _, within⟩ := early step _ rfl
      have other : remaining.head? ≠ some .newline := by
        rw [show remaining = token :: rest from shape]
        simpa using within
      refine ⟨_, _, _, Peg.run_sepBy1_of_end Peg.consumes_newline ran
        (Peg.run_newline_of_ne place other), ?_⟩
      exact scriptRun_of_break done (breaks.append_before (before_singleton _ short))
        early.of_some

theorem ScriptPlace.exists_admitted (place : ScriptPlace) (incomplete : place.finish? = none) :
    ∃ name, Script.reader.Admits place name := by
  obtain ⟨done, pop, rule, _ | number | place⟩ := place
  · cases incomplete
  · cases incomplete
  · obtain ⟨name, admits⟩ := place.exists_admitted
    exact ⟨name, admits_iff.mpr (.inl (LinePlace.admits_formula.mpr admits))⟩

theorem Script.answers_read (tokens : List Token) :
    Script.reader.Answers tokens (Script.read tokens) ∧
      ∀ script, Script.read tokens = .ok script → IsScript tokens script := by
  refine Reader.answers_of_run ScriptPlace.exists_admitted ?_
  obtain ⟨attempts, steps, next, ran, run⟩ := scriptRun #[] ⟨0, tokens⟩
  rw [Peg.script, Peg.sepBy, Peg.run_orElse_of_match ran]
  refine run.imp fun front script continues => ?_
  obtain ⟨steps, rfl, derived⟩ := continues
  exact derived

theorem Script.reader_tracks : Script.reader.Tracks Script.read :=
  fun tokens => (Script.answers_read tokens).1

/-- The rule for scripts and the grammar agree on every list of tokens. -/
theorem Script.read_eq_ok_iff {tokens : List Token} {script : Script} :
    Script.read tokens = .ok script ↔ IsScript tokens script := by
  constructor
  · exact (Script.answers_read tokens).2 script
  · intro derived
    obtain ⟨place, taken, finished⟩ := IsScript.exists_after #[] derived
    exact Script.reader_tracks.of_after taken finished

end ProofScript
