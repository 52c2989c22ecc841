import ProofScript.Formula.Parser
import ProofScript.Proofs.Peg
import ProofScript.Token.Class

/-!
# Runs of the rules for formulas

What each rule for formulas does, one step at a time. `Peg.operand_eq` and `Peg.negation_eq`
come first: an operand is a negation or else atomic, and a negation is made of one or the
other, as often as negations and parentheses are nested. The bound in `Peg.fix` is not seen
any more behind these equations.

The other lemmas say what a rule makes of an input that starts with a given token, from what
the rules behind that token make of the rest. Each gives the attempts as well, those of
abandoned alternatives included.
-/

namespace ProofScript

namespace Peg

/-! ## The rules as equations -/

section Symbols

variable {name pattern : String} {wanted : Token} {position : Nat} {rest : List Token}

theorem run_symbol_self :
    (symbol name pattern wanted).run ⟨position, wanted :: rest⟩ =
      ⟨[], some ((), ⟨position + 1, rest⟩)⟩ := by
  rw [symbol, named_token]
  exact run_token_of_some (if_pos rfl)

theorem run_symbol_of_ne (other : rest.head? ≠ some wanted) :
    (symbol name pattern wanted).run ⟨position, rest⟩ = ⟨[⟨position, name⟩], none⟩ := by
  rw [symbol, named_token]
  refine run_token_of_none fun found first => if_neg ?_
  rintro rfl
  exact other first

theorem consumes_symbol (name pattern : String) (wanted : Token) :
    Consumes (symbol name pattern wanted) := by
  rw [symbol, named_token]
  exact consumes_token _ _

theorem sign_eq (op : Connective) :
    ∃ pattern, sign op = symbol (TokenClass.op op).name pattern (.op op) := by
  cases op with
  | and => exact ⟨_, rfl⟩
  | or => exact ⟨_, rfl⟩
  | implies => exact ⟨_, rfl⟩

theorem consumes_sign (op : Connective) : Consumes (sign op) := by
  obtain ⟨pattern, shape⟩ := sign_eq op
  rw [shape]
  exact consumes_symbol _ _ _

theorem run_sign_self (op : Connective) (position : Nat) (rest : List Token) :
    (sign op).run ⟨position, .op op :: rest⟩ = ⟨[], some ((), ⟨position + 1, rest⟩)⟩ := by
  obtain ⟨pattern, shape⟩ := sign_eq op
  rw [shape]
  exact run_symbol_self

theorem run_sign_of_ne {op : Connective} (position : Nat)
    (other : rest.head? ≠ some (.op op)) :
    (sign op).run ⟨position, rest⟩ = ⟨[⟨position, (TokenClass.op op).name⟩], none⟩ := by
  obtain ⟨pattern, shape⟩ := sign_eq op
  rw [shape]
  exact run_symbol_of_ne other

end Symbols

theorem Agree.formulaOf {bound : Nat} {p q : Peg Formula} (operands : Agree bound p q) :
    Agree bound (formulaOf p) (formulaOf q) := by
  have tail (op : Connective) : Agree bound (tailOf p op) (tailOf q op) :=
    .bind (.refl _ _) fun _ => .bind (.sepBy1 operands) fun _ => .refl _ _
  have chain : Agree bound (chainOf p) (chainOf q) :=
    .orElse (tail .and) (.orElse (tail .or) (tail .implies))
  exact .bind operands fun _ => .bind (.optional chain) fun _ => .refl _ _

/-- An operand is a negation or else atomic. -/
theorem operand_eq : operand = (negation <|> atomic) := by
  refine fix_eq fun {bound p q} agree => .orElse ?_ (.orElse (.refl _ _) ?_)
  · exact .bind_of_consumes (consumes_symbol _ _ _) fun _ => .bind agree fun _ => .refl _ _
  · exact .bind_of_consumes (consumes_symbol _ _ _) fun _ =>
      .bind (.formulaOf agree) fun _ => .refl _ _

/-- A negation is made of a negation or else of something atomic. -/
theorem negation_eq : negation = do
    notSign
    return .not (← negation <|> atomic) := by
  rw [← operand_eq]
  rfl

/-! ## Steps of a run -/

section Steps

variable {position : Nat} {rest : List Token} {input next final : Input}
  {attempts others : List Attempt} {p : Formula} {values : List Formula} {op : Connective}

theorem run_ident (name : String) :
    ident.run ⟨position, .ident name :: rest⟩ =
      ⟨[], some (.ofName name, ⟨position + 1, rest⟩)⟩ := by
  rw [ident, named_token]
  exact run_token_of_some rfl

theorem run_ident_of_ne (other : ∀ name, rest.head? ≠ some (.ident name)) :
    ident.run ⟨position, rest⟩ = ⟨[⟨position, "identifier"⟩], none⟩ := by
  rw [ident, named_token]
  refine run_token_of_none fun found first => ?_
  cases found with
  | ident name => exact absurd first (other name)
  | _ => rfl

theorem run_negation_of_ne (other : rest.head? ≠ some .not) :
    negation.run ⟨position, rest⟩ = ⟨[⟨position, "`~`"⟩], none⟩ :=
  run_bind_of_fail (run_symbol_of_ne other) _

theorem run_negation_not (later : operand.run ⟨position + 1, rest⟩ = ⟨attempts, some (p, next)⟩) :
    negation.run ⟨position, .not :: rest⟩ = ⟨attempts, some (.not p, next)⟩ := by
  rw [negation, negationOf, notSign, run_bind_of_match run_symbol_self, run_bind_of_match later]
  simp only [run_pure, List.append_nil, List.nil_append]

theorem run_negation_not_of_fail
    (later : operand.run ⟨position + 1, rest⟩ = ⟨attempts, none⟩) :
    negation.run ⟨position, .not :: rest⟩ = ⟨attempts, none⟩ := by
  rw [negation, negationOf, notSign, run_bind_of_match run_symbol_self, run_bind_of_fail later]
  rfl

/-- What does not start an operand is looked for in vain in three ways. -/
theorem run_operand_of_ne (noNot : rest.head? ≠ some .not)
    (noIdent : ∀ name, rest.head? ≠ some (.ident name)) (noParen : rest.head? ≠ some .lparen) :
    operand.run ⟨position, rest⟩ =
      ⟨[⟨position, "`~`"⟩, ⟨position, "identifier"⟩, ⟨position, "`(`"⟩], none⟩ := by
  have atomic : atomic.run ⟨position, rest⟩ =
      ⟨[⟨position, "identifier"⟩, ⟨position, "`(`"⟩], none⟩ := by
    rw [Peg.atomic, atomicOf, run_orElse_of_fail (run_ident_of_ne noIdent), lparen,
      run_bind_of_fail (run_symbol_of_ne noParen)]
    rfl
  rw [operand_eq, run_orElse_of_fail (run_negation_of_ne noNot), atomic]
  rfl

theorem run_operand_not (later : operand.run ⟨position + 1, rest⟩ = ⟨attempts, some (p, next)⟩) :
    operand.run ⟨position, .not :: rest⟩ = ⟨attempts, some (.not p, next)⟩ := by
  rw [operand_eq]
  exact run_orElse_of_match (run_negation_not later)

theorem run_operand_not_of_fail
    (later : operand.run ⟨position + 1, rest⟩ = ⟨attempts, none⟩) :
    operand.run ⟨position, .not :: rest⟩ =
      ⟨attempts ++ [⟨position, "identifier"⟩, ⟨position, "`(`"⟩], none⟩ := by
  have atomic : atomic.run ⟨position, .not :: rest⟩ =
      ⟨[⟨position, "identifier"⟩, ⟨position, "`(`"⟩], none⟩ := rfl
  rw [operand_eq, run_orElse_of_fail (run_negation_not_of_fail later), atomic]

theorem run_operand_ident (name : String) :
    operand.run ⟨position, .ident name :: rest⟩ =
      ⟨[⟨position, "`~`"⟩], some (.ofName name, ⟨position + 1, rest⟩)⟩ := by
  rw [operand_eq, run_orElse_of_fail (run_negation_of_ne (by simp)), atomic, atomicOf,
    run_orElse_of_match (run_ident name)]
  rfl

/-- What an opening parenthesis is tried as before it is taken as one. -/
def beforeParen (position : Nat) : List Attempt :=
  [⟨position, "`~`"⟩, ⟨position, "identifier"⟩]

theorem run_operand_lparen :
    operand.run ⟨position, .lparen :: rest⟩ =
      ⟨beforeParen position ++
          ((formula >>= fun inner => rparen >>= fun _ => pure inner).run
            ⟨position + 1, rest⟩).attempts,
        ((formula >>= fun inner => rparen >>= fun _ => pure inner).run
          ⟨position + 1, rest⟩).result⟩ := by
  rw [operand_eq, run_orElse_of_fail (run_negation_of_ne (by simp)), atomic, atomicOf,
    run_orElse_of_fail (run_ident_of_ne (by simp)), lparen, run_bind_of_match run_symbol_self]
  rfl

theorem run_operand_lparen_of_fail
    (inner : formula.run ⟨position + 1, rest⟩ = ⟨attempts, none⟩) :
    operand.run ⟨position, .lparen :: rest⟩ = ⟨beforeParen position ++ attempts, none⟩ := by
  rw [run_operand_lparen, run_bind_of_fail inner]

theorem run_operand_lparen_of_close
    (inner : formula.run ⟨position + 1, rest⟩ = ⟨attempts, some (p, next)⟩)
    (closed : rparen.run next = ⟨[], some ((), final)⟩) :
    operand.run ⟨position, .lparen :: rest⟩ =
      ⟨beforeParen position ++ attempts, some (p, final)⟩ := by
  rw [run_operand_lparen, run_bind_of_match inner, run_bind_of_match closed]
  simp only [run_pure, List.append_nil]

theorem run_operand_lparen_of_open
    (inner : formula.run ⟨position + 1, rest⟩ = ⟨attempts, some (p, next)⟩)
    (unclosed : rparen.run next = ⟨others, none⟩) :
    operand.run ⟨position, .lparen :: rest⟩ =
      ⟨beforeParen position ++ (attempts ++ others), none⟩ := by
  rw [run_operand_lparen, run_bind_of_match inner, run_bind_of_fail unclosed]

theorem run_tailOf_of_ne (other : rest.head? ≠ some (.op op)) :
    (tailOf operand op).run ⟨position, rest⟩ =
      ⟨[⟨position, (TokenClass.op op).name⟩], none⟩ :=
  run_bind_of_fail (run_sign_of_ne position other) _

theorem run_tailOf (later : (sepBy1 operand (sign op)).run ⟨position + 1, rest⟩ =
      ⟨attempts, some (values, next)⟩) :
    (tailOf operand op).run ⟨position, .op op :: rest⟩ =
      ⟨attempts, some ((op, values), next)⟩ := by
  rw [tailOf, run_bind_of_match (run_sign_self op _ _), run_bind_of_match later]
  simp only [run_pure, List.append_nil, List.nil_append]

theorem run_tailOf_of_fail
    (later : (sepBy1 operand (sign op)).run ⟨position + 1, rest⟩ = ⟨attempts, none⟩) :
    (tailOf operand op).run ⟨position, .op op :: rest⟩ = ⟨attempts, none⟩ := by
  rw [tailOf, run_bind_of_match (run_sign_self op _ _), run_bind_of_fail later]
  rfl

/-- Some connectives are looked for in vain. -/
def signs (position : Nat) (ops : List Connective) : List Attempt :=
  ops.map fun op => ⟨position, (TokenClass.op op).name⟩

/-- Where no connective stands all three are looked for in vain. -/
theorem run_chain_of_ne (none : ∀ op, rest.head? ≠ some (.op op)) :
    chain.run ⟨position, rest⟩ = ⟨signs position [.and, .or, .implies], .none⟩ := by
  rw [chain, chainOf, run_orElse_of_fail (run_tailOf_of_ne (none .and)),
    run_orElse_of_fail (run_tailOf_of_ne (none .or)), run_tailOf_of_ne (none .implies)]
  rfl

theorem run_tailOf_of_other {wrong : Connective} (different : op ≠ wrong) :
    (tailOf operand wrong).run ⟨position, .op op :: rest⟩ = ⟨signs position [wrong], none⟩ :=
  run_tailOf_of_ne (by simpa using different)

theorem run_chain (later : (sepBy1 operand (sign op)).run ⟨position + 1, rest⟩ =
      ⟨attempts, some (values, next)⟩) :
    ∃ earlier, chain.run ⟨position, .op op :: rest⟩ =
      ⟨signs position earlier ++ attempts, some ((op, values), next)⟩ := by
  have own := run_tailOf later
  rw [chain, chainOf]
  cases op with
  | and => exact ⟨[], run_orElse_of_match own⟩
  | or =>
      refine ⟨[.and], ?_⟩
      rw [run_orElse_of_fail (run_tailOf_of_other (by decide)), run_orElse_of_match own]
  | implies =>
      refine ⟨[.and, .or], ?_⟩
      rw [run_orElse_of_fail (run_tailOf_of_other (by decide)),
        run_orElse_of_fail (run_tailOf_of_other (by decide)), own]
      rfl

/-- After a connective without an operand the remaining ones are looked for. -/
theorem run_chain_of_fail
    (later : (sepBy1 operand (sign op)).run ⟨position + 1, rest⟩ = ⟨attempts, none⟩) :
    ∃ earlier further, chain.run ⟨position, .op op :: rest⟩ =
      ⟨signs position earlier ++ (attempts ++ signs position further), none⟩ := by
  have own := run_tailOf_of_fail later
  rw [chain, chainOf]
  cases op with
  | and =>
      refine ⟨[], [.or, .implies], ?_⟩
      rw [run_orElse_of_fail own, run_orElse_of_fail (run_tailOf_of_other (by decide)),
        run_tailOf_of_other (by decide)]
      rfl
  | or =>
      refine ⟨[.and], [.implies], ?_⟩
      rw [run_orElse_of_fail (run_tailOf_of_other (by decide)), run_orElse_of_fail own,
        run_tailOf_of_other (by decide)]
  | implies =>
      refine ⟨[.and, .or], [], ?_⟩
      rw [run_orElse_of_fail (run_tailOf_of_other (by decide)),
        run_orElse_of_fail (run_tailOf_of_other (by decide)), own]
      simp [signs]

theorem run_formula_of_fail (ran : operand.run input = ⟨attempts, none⟩) :
    formula.run input = ⟨attempts, none⟩ :=
  run_bind_of_fail ran _

theorem run_formula_of_chain (ran : operand.run input = ⟨attempts, some (p, next)⟩)
    (joined : chain.run next = ⟨others, some ((op, values), final)⟩) :
    formula.run input = ⟨attempts ++ others, some (op.chain p values, final)⟩ := by
  rw [chain] at joined
  rw [formula, formulaOf, run_bind_of_match ran, run_bind_of_match (run_optional_of_match joined)]
  simp only [run_pure, List.append_nil]

theorem run_formula_of_single (ran : operand.run input = ⟨attempts, some (p, next)⟩)
    (alone : chain.run next = ⟨others, none⟩) :
    formula.run input = ⟨attempts ++ others, some (p, next)⟩ := by
  rw [chain] at alone
  rw [formula, formulaOf, run_bind_of_match ran, run_bind_of_match (run_optional_of_fail alone)]
  simp only [run_pure, List.append_nil]

end Steps

end Peg

end ProofScript
