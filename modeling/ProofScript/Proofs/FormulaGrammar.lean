import ProofScript.Formula.Grammar
import ProofScript.Proofs.Reading

/-!
# A reader for formulas

`Formula.reader` takes in the tokens of a formula one by one. It is at one of two places.
Before an operand it remembers what led there: the chain that the operand will join, and
the negations before it. After an operand it holds the chain read so far. For every open
parenthesis it remembers what led to it.

It takes in what the grammar derives: `IsOperand.after`, `IsTail.after` and
`IsFormula.exists_after` say where it is after the tokens of an operand, a tail or a
formula. They hold at every depth of parentheses, whatever led there. What the grammar
cannot derive is read off these (`IsChain.exists_op_of_append`).
-/

namespace ProofScript

/-! ## Places in a formula -/

/-- A chain of operands: the first, and the tail with the connective of the
chain, if there is one. -/
structure Chain where
  first : Formula
  tail : Option (Connective × Formula) := none
deriving DecidableEq

namespace Chain

/-- The formula that a chain denotes. -/
def formula (chain : Chain) : Formula :=
  match chain.tail with
  | none => chain.first
  | some (op, tail) => .binary op chain.first tail

/-- Whether a chain can go on with a connective: only with the one it has. -/
def admits (chain : Chain) (op : Connective) : Bool :=
  match chain.tail with
  | none => true
  | some (own, _) => own = op

/-- The chain with one more operand. -/
def extend (chain : Chain) (op : Connective) (operand : Formula) : Chain where
  first := chain.first
  tail :=
    match chain.tail with
    | none => some (op, operand)
    | some (_, tail) => some (op, .binary op tail operand)

end Chain

/-- The formula under `count` negations. -/
def Formula.negate (p : Formula) : (count : Nat) → Formula
  | 0 => p
  | count + 1 => .not (p.negate count)

/-- What leads to an operand: the chain it joins, with the connective before it,
and the number of negations before it. -/
structure Lead where
  joined : Option (Chain × Connective) := none
  negations : Nat := 0
deriving DecidableEq

/-- The chain after the operand that a lead leads to. -/
def Lead.complete (lead : Lead) (operand : Formula) : Chain :=
  let operand := operand.negate lead.negations
  match lead.joined with
  | none => { first := operand }
  | some (chain, op) => chain.extend op operand

/-- Where the reader of formulas is. The last component holds what led to each
open parenthesis, the innermost first. -/
inductive FormulaPlace where
  | beforeOperand (lead : Lead) (outer : List Lead)
  | afterOperand (chain : Chain) (outer : List Lead)
deriving DecidableEq

namespace FormulaPlace

/-- The place at which a formula starts. -/
def start : FormulaPlace := beforeOperand {} []

/-- The place after one more token. -/
def step : FormulaPlace → Token → Option FormulaPlace
  | beforeOperand lead outer, .not =>
      some (beforeOperand { lead with negations := lead.negations + 1 } outer)
  | beforeOperand lead outer, .ident name =>
      some (afterOperand (lead.complete (.ofName name)) outer)
  | beforeOperand lead outer, .lparen => some (beforeOperand {} (lead :: outer))
  | afterOperand chain outer, .op op =>
      if chain.admits op then some (beforeOperand { joined := some (chain, op) } outer) else none
  | afterOperand chain (lead :: outer), .rparen =>
      some (afterOperand (lead.complete chain.formula) outer)
  | _, _ => none

/-- The formula read, if it is complete: no operand is due and no parenthesis is
open. -/
def finish? : FormulaPlace → Option Formula
  | afterOperand chain [] => some chain.formula
  | _ => none

/-- Whether a token may come next depends on its class alone. -/
theorem isSome_step_congr (place : FormulaPlace) {token other : Token}
    (same : token.toClass = other.toClass) :
    (place.step token).isSome = (place.step other).isSome := by
  cases place with
  | beforeOperand lead outer => cases token <;> cases other <;> cases same <;> rfl
  | afterOperand chain outer =>
      cases outer <;> cases token <;> cases other <;> cases same <;> rfl

end FormulaPlace

/-- The reader of formulas. -/
def Formula.reader : Reader FormulaPlace Formula where
  start := .start
  step := FormulaPlace.step
  finish? := FormulaPlace.finish?
  alike := FormulaPlace.isSome_step_congr

/-! ## Chains as the reader holds them -/

/-- The tokens of a chain. -/
inductive IsChain : List Token → Chain → Prop
  | single {tokens p} : IsOperand tokens p → IsChain tokens { first := p }
  | joined {op front back p q} : IsOperand front p → IsTail op back q →
      IsChain (front ++ .op op :: back) { first := p, tail := some (op, q) }

theorem IsFormula.exists_chain {tokens : List Token} {p : Formula} (derived : IsFormula tokens p) :
    ∃ chain : Chain, IsChain tokens chain ∧ chain.formula = p := by
  cases derived with
  | operand derived => exact ⟨_, .single derived, rfl⟩
  | chain first tail => exact ⟨_, .joined first tail, rfl⟩

theorem IsChain.isFormula {tokens : List Token} {chain : Chain} (derived : IsChain tokens chain) :
    IsFormula tokens chain.formula := by
  cases derived with
  | single derived => exact .operand derived
  | joined first tail => exact .chain first tail

/-! ## From the grammar to the reader -/

theorem Lead.complete_not (lead : Lead) (p : Formula) :
    { lead with negations := lead.negations + 1 }.complete p = lead.complete (.not p) := by
  have moved : (p.not).negate lead.negations = p.negate (lead.negations + 1) := by
    induction lead.negations with
    | zero => rfl
    | succ count ih => exact congrArg Formula.not ih
  simp only [Lead.complete, moved]

theorem FormulaPlace.step_op_eq_some_iff {chain : Chain} {op : Connective} {outer : List Lead}
    {next : FormulaPlace} :
    (afterOperand chain outer).step (.op op) = some next ↔
      chain.admits op = true ∧ beforeOperand { joined := some (chain, op) } outer = next := by
  simp only [step, Option.ite_none_right_eq_some, Option.some.injEq]

mutual

/-- The reader takes in an operand and puts it where it leads to. -/
theorem IsOperand.after {tokens : List Token} {p : Formula} (lead : Lead) (outer : List Lead) :
    IsOperand tokens p → Formula.reader.after (.beforeOperand lead outer) tokens =
      some (.afterOperand (lead.complete p) outer)
  | .top => Reader.after_singleton _
  | .bot => Reader.after_singleton _
  | .var notTrue notFalse => by
      rw [← Formula.ofName_of_ne notTrue notFalse]
      exact Reader.after_singleton _
  | .not derived => by
      have operand := derived.after { lead with negations := lead.negations + 1 } outer
      rw [Lead.complete_not] at operand
      exact operand
  | .parenthesised derived => by
      obtain ⟨chain, rfl, inner⟩ := derived.exists_after (lead :: outer)
      have opened : Formula.reader.after (.beforeOperand lead outer) (.lparen :: _) =
        some (.afterOperand chain (lead :: outer)) := inner
      rw [Reader.after_append, opened]
      rfl

/-- The reader takes in a tail behind the first operand of a chain. -/
theorem IsTail.after {op : Connective} {tokens : List Token} {q : Formula} (p : Formula)
    (outer : List Lead) :
    IsTail op tokens q →
      Formula.reader.after (.beforeOperand { joined := some ({ first := p }, op) } outer) tokens =
        some (.afterOperand { first := p, tail := some (op, q) } outer)
  | .operand derived => derived.after _ outer
  | @IsTail.join _ front back r q tail last => by
      let chain : Chain := { first := p, tail := some (op, r) }
      have joined : Formula.reader.step (.afterOperand chain outer) (.op op) = _ :=
        FormulaPlace.step_op_eq_some_iff.mpr ⟨decide_eq_true rfl, rfl⟩
      rw [Reader.after_append, tail.after p outer, Option.bind_some, Reader.after_cons, joined,
        Option.bind_some]
      exact last.after { joined := some (chain, op) } outer

/-- The reader takes in a formula and holds it as a chain. -/
theorem IsFormula.exists_after {tokens : List Token} {p : Formula} (outer : List Lead) :
    IsFormula tokens p → ∃ chain : Chain, chain.formula = p ∧
      Formula.reader.after (.beforeOperand {} outer) tokens = some (.afterOperand chain outer)
  | .operand derived => ⟨{ first := p }, rfl, derived.after {} outer⟩
  | @IsFormula.chain op front back q r first tail => by
      refine ⟨{ first := q, tail := some (op, r) }, rfl, ?_⟩
      rw [Reader.after_append, first.after {} outer]
      exact tail.after q outer

end

/-! ## What a formula cannot contain or be followed by -/

theorem FormulaPlace.step_newline (place : FormulaPlace) : place.step .newline = none := by
  rcases place with _ | ⟨_, _ | _⟩ <;> rfl

theorem IsFormula.newline_not_mem {tokens : List Token} {p : Formula}
    (derived : IsFormula tokens p) : Token.newline ∉ tokens := by
  intro present
  obtain ⟨_, _, taken⟩ := derived.exists_after []
  obtain ⟨place, next, stepped⟩ := Reader.exists_step_of_mem taken present
  cases place.step_newline.symm.trans stepped

theorem IsChain.after {tokens : List Token} {chain : Chain} (derived : IsChain tokens chain)
    (outer : List Lead) :
    Formula.reader.after (.beforeOperand {} outer) tokens = some (.afterOperand chain outer) := by
  cases derived with
  | single first => exact first.after {} outer
  | joined first tail =>
      rw [Reader.after_append, first.after {} outer]
      exact tail.after _ outer

/-- Behind a whole chain a longer formula goes on with a connective that the chain
admits. -/
theorem IsChain.exists_op_of_append {front rest : List Token} {chain : Chain} {token : Token}
    {q : Formula} (derived : IsChain front chain)
    (longer : IsFormula (front ++ token :: rest) q) :
    ∃ op, token = .op op ∧ chain.admits op = true := by
  obtain ⟨_, _, taken⟩ := longer.exists_after []
  rw [Reader.after_append, derived.after [], Option.bind_some, Reader.after_cons] at taken
  obtain ⟨next, stepped, _⟩ := Option.bind_eq_some_iff.mp taken
  cases token with
  | op op =>
      exact ⟨op, rfl, (FormulaPlace.step_op_eq_some_iff.mp stepped).1⟩
  | _ => cases stepped

/-! ## Chains written out -/

/-- Some tokens that are an operand, and what they denote. -/
structure Operand where
  tokens : List Token
  formula : Formula
  derived : IsOperand tokens formula

/-- The tokens of a first operand and of further ones, each behind the connective. -/
def Operand.chained (op : Connective) (first : Operand) (rest : List Operand) : List Token :=
  first.tokens ++ rest.flatMap fun operand => .op op :: operand.tokens

theorem Operand.chained_cons (op : Connective) (first second : Operand) (rest : List Operand) :
    first.chained op (second :: rest) = first.tokens ++ .op op :: second.chained op rest := by
  simp [chained]

/-- What operands denote that group to the left. -/
def Operand.grouped (op : Connective) (first : Operand) (rest : List Operand) : Formula :=
  (rest.map Operand.formula).foldl (.binary op) first.formula

theorem IsTail.append_operands {op : Connective} {tokens : List Token} {p : Formula}
    (tail : IsTail op tokens p) (rest : List Operand) :
    IsTail op (tokens ++ rest.flatMap fun operand => .op op :: operand.tokens)
      ((rest.map Operand.formula).foldl (.binary op) p) := by
  induction rest generalizing tokens p with
  | nil => simpa using tail
  | cons next rest ih =>
      have longer := ih (tail.join next.derived)
      simpa using longer

theorem Operand.isChain (op : Connective) (first second : Operand) (rest : List Operand) :
    IsChain (first.chained op (second :: rest))
      { first := first.formula, tail := some (op, second.grouped op rest) } :=
  .joined first.derived (IsTail.append_operands (.operand second.derived) rest)

theorem IsTail.exists_operands {op : Connective} {tokens : List Token} {q : Formula} :
    IsTail op tokens q → ∃ (first : Operand) (rest : List Operand),
      tokens = first.chained op rest ∧ q = first.grouped op rest
  | .operand derived => by
      refine ⟨⟨tokens, q, derived⟩, [], ?_, rfl⟩
      simp [Operand.chained]
  | @IsTail.join _ front back p r tail last => by
      obtain ⟨first, rest, rfl, rfl⟩ := tail.exists_operands
      refine ⟨first, rest ++ [⟨back, r, last⟩], ?_, ?_⟩
      · simp [Operand.chained, List.flatMap_append]
      · simp [Operand.grouped, List.foldl_append]

/-- A formula is one operand, or a chain of two or more of them, of which the first is
joined to all others and these group to the left. -/
theorem isFormula_iff_operands {tokens : List Token} {p : Formula} :
    IsFormula tokens p ↔
      (∃ only : Operand, tokens = only.tokens ∧ p = only.formula) ∨
      ∃ (op : Connective) (first second : Operand) (rest : List Operand),
        tokens = first.chained op (second :: rest) ∧
          p = .binary op first.formula (second.grouped op rest) := by
  constructor
  · intro derived
    cases derived with
    | operand derived => exact .inl ⟨⟨tokens, p, derived⟩, rfl, rfl⟩
    | @chain op front back q r head tail =>
        obtain ⟨second, rest, rfl, rfl⟩ := tail.exists_operands
        exact .inr ⟨op, ⟨front, q, head⟩, second, rest, rfl, rfl⟩
  · rintro (⟨only, rfl, rfl⟩ | ⟨op, first, second, rest, rfl, rfl⟩)
    · exact .operand only.derived
    · exact (Operand.isChain op first second rest).isFormula

end ProofScript
