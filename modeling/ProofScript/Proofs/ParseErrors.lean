import Mathlib.Data.List.Nodup
import ProofScript.Proofs.ScriptParser

/-!
# What a parse error says

A parse error tells on which line reading stopped and lists what could have stood
there. Here both are compared with what the rules accept. Tokens are *viable* if they are
the beginning of an accepted list, and every list of tokens has a longest viable
beginning. That is where reading stops, however often the rules went back before; the
error counts the lines up to there, and it lists exactly the names of the tokens that keep
the beginning viable, and the end of the input if the beginning is accepted.

The argument is the same for formulas and scripts and uses two facts, which
`Reader.Predictive` collects: a reader gives the answers of the rule, and every one of its
states can still be completed. The second is what keeps it from taking in a token that no
accepted list goes on with.
-/

namespace ProofScript

variable {σ α : Type}

/-- Some tokens are accepted. -/
def Accepts (read : List Token → Except ParseError α) (tokens : List Token) : Prop :=
  ∃ result, read tokens = .ok result

/-- Some tokens are the beginning of an accepted list. -/
def IsViable (read : List Token → Except ParseError α) (tokens : List Token) : Prop :=
  ∃ more, Accepts read (tokens ++ more)

/-- The longest beginning of a list that is also the beginning of an accepted one. -/
structure IsLongestViable (read : List Token → Except ParseError α)
    (front tokens : List Token) : Prop where
  begins : front <+: tokens
  viable : IsViable read front
  longest : ∀ other, other <+: tokens → IsViable read other → other.length ≤ front.length

/-- An error says of tokens that are not accepted how far they could be read and with what
the part that was read could go on. -/
structure ParseError.Describes (error : ParseError) (read : List Token → Except ParseError α)
    (front tokens : List Token) : Prop where
  /-- The line counts the line breaks of the part that was read. -/
  line : error.line = 1 + front.count .newline
  /-- The names are those of what could come next and no others. -/
  name_listed_iff : ∀ name : String, name ∈ error.expected ↔
    (name = "EOF" ∧ Accepts read front ∧ front.length < tokens.length) ∨
    ∃ token : Token, name = token.toClass.name ∧ IsViable read (front ++ [token])
  /-- A token could come next exactly if its class is listed, whatever it carries. -/
  token_listed_iff : ∀ token : Token,
    token.toClass.name ∈ error.expected ↔ IsViable read (front ++ [token])
  /-- The end of the input is listed if the part that was read is accepted and more stands
  behind it. -/
  end_listed_iff :
    "EOF" ∈ error.expected ↔ Accepts read front ∧ front.length < tokens.length
  /-- Every name stands once, and they stand in their order. -/
  ordered : error.expected.Pairwise (· < ·)

/-! ## Names of classes -/

theorem TokenClass.name_injective {one other : TokenClass} (same : one.name = other.name) :
    one = other := by
  have distinct : (all.map name).Nodup := by decide +kernel
  exact List.inj_on_of_nodup_map distinct (mem_all one) (mem_all other) same

theorem TokenClass.name_ne_end (tokenClass : TokenClass) : tokenClass.name ≠ "EOF" := by
  have others : ∀ tokenClass ∈ all, tokenClass.name ≠ "EOF" := by decide +kernel
  exact others tokenClass (mem_all tokenClass)

/-! ## Predictive readers -/

/-- A reader that gives the answers of a rule and takes in a token exactly if some accepted
list goes on with it. -/
structure Reader.Predictive (reader : Reader σ α) (read : List Token → Except ParseError α) :
    Prop where
  tracks : reader.Tracks read
  /-- Every state can be completed. -/
  completes : ∀ state, ∃ more final,
    reader.after state more = some final ∧ (reader.finish? final).isSome = true

namespace Reader.Predictive

variable {reader : Reader σ α} {read : List Token → Except ParseError α}
  {tokens front rest : List Token} {state : σ}

theorem accepts_iff (predictive : reader.Predictive read)
    (taken : reader.after reader.start front = some state) :
    Accepts read front ↔ (reader.finish? state).isSome = true := by
  rw [Option.isSome_iff_exists]
  constructor
  · rintro ⟨result, ok⟩
    obtain ⟨other, again, finished⟩ := predictive.tracks.eq_ok_iff.mp ok
    cases taken.symm.trans again
    exact ⟨result, finished⟩
  · rintro ⟨result, finished⟩
    exact ⟨result, predictive.tracks.of_after taken finished⟩

/-- Tokens are viable exactly if the reader takes them all in. -/
theorem isViable_iff (predictive : reader.Predictive read) :
    IsViable read tokens ↔ (reader.after reader.start tokens).isSome = true := by
  rw [Option.isSome_iff_exists]
  constructor
  · rintro ⟨more, result, ok⟩
    obtain ⟨final, taken, _⟩ := predictive.tracks.eq_ok_iff.mp ok
    rw [after_append] at taken
    obtain ⟨state, taken, _⟩ := Option.bind_eq_some_iff.mp taken
    exact ⟨state, taken⟩
  · rintro ⟨state, taken⟩
    obtain ⟨more, final, completed, finished⟩ := predictive.completes state
    refine ⟨more, (predictive.accepts_iff ?_).mpr finished⟩
    rw [after_append, taken, Option.bind_some, completed]

theorem isViable_append_iff (predictive : reader.Predictive read)
    (taken : reader.after reader.start front = some state) (token : Token) :
    IsViable read (front ++ [token]) ↔ (reader.step state token).isSome = true := by
  rw [predictive.isViable_iff, after_append, taken, Option.bind_some, after_singleton]

/-- The reader is stuck behind the longest viable beginning. -/
theorem isLongestViable (predictive : reader.Predictive read)
    (taken : reader.after reader.start front = some state) (stuck : reader.Stuck state rest) :
    IsLongestViable read front (front ++ rest) where
  begins := List.prefix_append front rest
  viable := predictive.isViable_iff.mpr (by rw [taken]; rfl)
  longest other begins viable := by
    rcases List.prefix_or_prefix_of_prefix begins (List.prefix_append front rest) with
      shorter | longer
    · exact shorter.length_le
    · obtain ⟨more, rfl⟩ := longer
      cases more with
      | nil => simp
      | cons token more =>
          -- A longer beginning contains the token with which the reader is stuck.
          obtain ⟨later, rfl⟩ := (List.prefix_append_right_inj front).mp begins
          obtain ⟨extension, whole⟩ := viable
          rw [List.append_cons, List.append_assoc] at whole
          have next := (predictive.isViable_append_iff taken token).mp ⟨_, whole⟩
          rw [show reader.step state token = none from stuck] at next
          cases next

theorem admits_name_iff {token : Token} :
    reader.Admits state token.toClass.name ↔ (reader.step state token).isSome = true := by
  constructor
  · rintro ⟨other, stepped, same⟩
    rwa [← reader.alike state (TokenClass.name_injective same)]
  · intro stepped
    exact ⟨token, stepped, rfl⟩

theorem not_admits_end : ¬reader.Admits state "EOF" := by
  rintro ⟨token, _, same⟩
  exact token.toClass.name_ne_end same

/-- Where a predictive reader is stuck, its error says all there is to say. -/
theorem describes (predictive : reader.Predictive read)
    (taken : reader.after reader.start front = some state) (stuck : reader.Stuck state rest) :
    (reader.refusal state front).Describes read front (front ++ rest) := by
  have listed (token : Token) : reader.Admits state token.toClass.name ↔
      IsViable read (front ++ [token]) := by
    rw [admits_name_iff, predictive.isViable_append_iff taken]
  have ended : (reader.finish? state).isSome = true ↔
      Accepts read front ∧ front.length < (front ++ rest).length := by
    rw [predictive.accepts_iff taken]
    cases rest with
    | nil => simp [show reader.finish? state = none from stuck]
    | cons token rest => simp
  refine ⟨rfl, fun name => ?_, fun token => ?_, ?_, reader.pairwise_expected state⟩
  · rw [refusal, mem_expected_iff, ended, and_comm]
    refine or_congr_right ?_
    constructor
    · rintro ⟨token, stepped, rfl⟩
      exact ⟨token, rfl, (predictive.isViable_append_iff taken token).mpr stepped⟩
    · rintro ⟨token, rfl, viable⟩
      exact (listed token).mpr viable
  · rw [refusal, mem_expected_iff, listed]
    exact or_iff_right fun ending => token.toClass.name_ne_end ending.2
  · rw [refusal, mem_expected_iff, ended]
    exact (or_iff_left not_admits_end).trans (and_iff_left rfl)

theorem exists_describes (predictive : reader.Predictive read) (refused : ¬Accepts read tokens) :
    ∃ error front, read tokens = .error error ∧ IsLongestViable read front tokens ∧
      error.Describes read front tokens := by
  cases answer : read tokens with
  | ok result => exact absurd ⟨result, answer⟩ refused
  | error error =>
      obtain ⟨front, rest, state, rfl, taken, stuck, rfl⟩ :=
        predictive.tracks.eq_error_iff.mp answer
      exact ⟨_, front, rfl, predictive.isLongestViable taken stuck,
        predictive.describes taken stuck⟩

end Reader.Predictive

/-! ## The rules for formulas and scripts -/

/-- Behind an operand it is enough to close the parentheses that are open. -/
theorem FormulaPlace.exists_closed (chain : Chain) (outer : List Lead) :
    ∃ whole, Formula.reader.after (.afterOperand chain outer)
      (List.replicate outer.length .rparen) = some (.afterOperand whole []) := by
  induction outer generalizing chain with
  | nil => exact ⟨chain, rfl⟩
  | cons lead outer ih => exact ih (lead.complete chain.formula)

theorem FormulaPlace.exists_complete (place : FormulaPlace) :
    ∃ more final, Formula.reader.after place more = some final ∧
      final.finish?.isSome = true := by
  cases place with
  | beforeOperand lead outer =>
      obtain ⟨whole, closed⟩ := exists_closed (lead.complete (.ofName "a")) outer
      exact ⟨.ident "a" :: _, _, closed, rfl⟩
  | afterOperand chain outer =>
      obtain ⟨whole, closed⟩ := exists_closed chain outer
      exact ⟨_, _, closed, rfl⟩

theorem LinePlace.exists_complete (line : LinePlace) :
    ∃ more final, Step.reader.after line more = some final ∧ final.finish?.isSome = true := by
  obtain ⟨pop, rule, _ | number | place⟩ := line
  · exact ⟨[], _, rfl, rfl⟩
  · exact ⟨[], _, rfl, rfl⟩
  · obtain ⟨more, final, completed, finished⟩ := place.exists_complete
    refine ⟨more, { pop, rule, argument := .formula final }, ?_, ?_⟩
    · rw [Step.after_within_formula, completed]
      rfl
    · rw [LinePlace.finish?, Option.isSome_map]
      exact finished

theorem ScriptPlace.exists_complete (place : ScriptPlace) :
    ∃ more final, Script.reader.after place more = some final ∧
      final.finish?.isSome = true := by
  obtain ⟨done, line⟩ := place
  obtain ⟨more, final, completed, finished⟩ := line.exists_complete
  refine ⟨more, { done, line := final }, ?_, ?_⟩
  · rw [Script.after_line done line (newline_not_mem_of_after completed), completed]
    rfl
  · rw [ScriptPlace.finish?, Option.isSome_map]
    exact finished

theorem Formula.reader_predictive : Formula.reader.Predictive Formula.read where
  tracks := Formula.reader_tracks
  completes := FormulaPlace.exists_complete

theorem Script.reader_predictive : Script.reader.Predictive Script.read where
  tracks := Script.reader_tracks
  completes := ScriptPlace.exists_complete

/-- Parse errors are exact. Tokens that the rule for formulas, or that for scripts, does not
accept are refused, the error gives the line on which their longest viable beginning ends,
and it lists all that could have come next there and nothing else. -/
theorem parse_errors_exact :
    (∀ tokens, ¬Accepts Formula.read tokens →
      ∃ error front, Formula.read tokens = .error error ∧
        IsLongestViable Formula.read front tokens ∧
        error.Describes Formula.read front tokens) ∧
    (∀ tokens, ¬Accepts Script.read tokens →
      ∃ error front, Script.read tokens = .error error ∧
        IsLongestViable Script.read front tokens ∧
        error.Describes Script.read front tokens) :=
  ⟨fun _ => Formula.reader_predictive.exists_describes,
    fun _ => Script.reader_predictive.exists_describes⟩

/-- `a & b or c` stops before `or`, where it could end or go on with `&`, and `goal a`
followed by a line with a parenthesis stops at the end of the second line. -/
theorem mixed_and_unfinished_described :
    (∃ front, IsLongestViable Formula.read front
        [.ident "a", .op .and, .ident "b", .op .or, .ident "c"] ∧
      (ParseError.mk 1 ["EOF", "`&`"]).Describes Formula.read front
        [.ident "a", .op .and, .ident "b", .op .or, .ident "c"]) ∧
    ∃ front, IsLongestViable Script.read front
        [.rule .goal, .ident "a", .newline, .lparen] ∧
      (ParseError.mk 2 ["`(`", "`~`", "identifier"]).Describes Script.read front
        [.rule .goal, .ident "a", .newline, .lparen] := by
  have mixed : Formula.read [.ident "a", .op .and, .ident "b", .op .or, .ident "c"] =
      .error ⟨1, ["EOF", "`&`"]⟩ := by rfl
  have unfinished : Script.read [.rule .goal, .ident "a", .newline, .lparen] =
      .error ⟨2, ["`(`", "`~`", "identifier"]⟩ := by rfl
  constructor
  · obtain ⟨error, front, answer, longest, describes⟩ := parse_errors_exact.1 _ (by
      rintro ⟨p, ok⟩
      cases mixed.symm.trans ok)
    cases mixed.symm.trans answer
    exact ⟨front, longest, describes⟩
  · obtain ⟨error, front, answer, longest, describes⟩ := parse_errors_exact.2 _ (by
      rintro ⟨script, ok⟩
      cases unfinished.symm.trans ok)
    cases unfinished.symm.trans answer
    exact ⟨front, longest, describes⟩

end ProofScript
