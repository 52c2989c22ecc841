import ProofScript.Proofs.FormulaGrammar
import ProofScript.Proofs.FormulaRules

/-!
# The formulas that are read

The rule for formulas tries alternatives and goes back. A run of it is compared with
`Formula.reader`, which does not. There are two ways for a run to end. It finds what it looks
for, and then the record has got no further than its end. Or the reader breaks off
somewhere, and then the record has got exactly there and names all that could have come
next, whatever the rule still returns: an optional chain gives up without a failure, and a
series of operands steps back to the last of them (`EndsEarly`).

`OperandRun`, `SeriesRun` and `FormulaRun` say this for the three rules, at every place
where the reader could be before them. `operandRun` goes by induction on the number of tokens
that are left, since what stands in parentheses is a formula again. It follows that the rule
gives the answers of the reader (`Formula.reader_tracks`) and reads what the grammar derives
(`Formula.read_eq_ok_iff`).
-/

namespace ProofScript

/-! ## What the reader would take in -/

namespace FormulaPlace

variable {lead : Lead} {outer : List Lead} {chain : Chain} {name : String}

theorem admits_beforeOperand :
    Formula.reader.Admits (.beforeOperand lead outer) name ↔
      name = "`~`" ∨ name = "identifier" ∨ name = "`(`" := by
  constructor
  · rintro ⟨token, stepped, rfl⟩
    cases token with
    | not => exact .inl rfl
    | ident name => exact .inr (.inl rfl)
    | lparen => exact .inr (.inr rfl)
    | _ => cases stepped
  · rintro (rfl | rfl | rfl)
    · exact ⟨.not, rfl, rfl⟩
    · exact ⟨.ident "a", rfl, rfl⟩
    · exact ⟨.lparen, rfl, rfl⟩

theorem admits_op_iff {op : Connective} :
    ((afterOperand chain outer).step (.op op)).isSome = true ↔ chain.admits op = true := by
  rw [step]
  split <;> simp_all

theorem step_op_of_not_admits {op : Connective} (refused : chain.admits op = false) :
    (afterOperand chain outer).step (.op op) = none := by
  rw [step, refused]
  rfl

theorem admits_afterOperand_nil :
    Formula.reader.Admits (.afterOperand chain []) name ↔
      ∃ op, chain.admits op = true ∧ (TokenClass.op op).name = name := by
  constructor
  · rintro ⟨token, stepped, rfl⟩
    cases token with
    | op op => exact ⟨op, admits_op_iff.mp stepped, rfl⟩
    | _ => cases stepped
  · rintro ⟨op, admitted, rfl⟩
    exact ⟨.op op, admits_op_iff.mpr admitted, rfl⟩

theorem admits_afterOperand_cons :
    Formula.reader.Admits (.afterOperand chain (lead :: outer)) name ↔
      (∃ op, chain.admits op = true ∧ (TokenClass.op op).name = name) ∨ name = "`)`" := by
  constructor
  · rintro ⟨token, stepped, rfl⟩
    cases token with
    | op op => exact .inl ⟨op, admits_op_iff.mp stepped, rfl⟩
    | rparen => exact .inr rfl
    | _ => cases stepped
  · rintro (⟨op, admitted, rfl⟩ | rfl)
    · exact ⟨.op op, admits_op_iff.mpr admitted, rfl⟩
    · exact ⟨.rparen, rfl, rfl⟩

/-- A chain can always go on. -/
theorem exists_admits (chain : Chain) : ∃ op, chain.admits op = true := by
  obtain ⟨first, _ | ⟨op, tail⟩⟩ := chain
  · exact ⟨.and, rfl⟩
  · exact ⟨op, decide_eq_true rfl⟩

/-- Whatever place the reader of formulas is at, it can go on. -/
theorem exists_admitted (place : FormulaPlace) : ∃ name, Formula.reader.Admits place name := by
  cases place with
  | beforeOperand lead outer => exact ⟨_, admits_beforeOperand.mpr (.inl rfl)⟩
  | afterOperand chain outer =>
      obtain ⟨op, admitted⟩ := exists_admits chain
      exact ⟨_, .op op, admits_op_iff.mpr admitted, rfl⟩

end FormulaPlace

/-! ## Runs of the rules -/

/-- What comes of looking for an operand. -/
inductive OperandRun : Input → Outcome Formula → Prop
  /-- One is there, and all attempts were made before its end. -/
  | found {position : Nat} {front back : List Token} {p : Formula} {attempts : List Attempt} :
      IsOperand front p → Before attempts (position + front.length) →
      OperandRun ⟨position, front ++ back⟩
        ⟨attempts, some (p, ⟨position + front.length, back⟩)⟩
  /-- None is there, because the reader breaks off. -/
  | broken {position : Nat} {front back : List Token} {attempts : List Attempt} :
      (∀ lead outer, Formula.reader.Breaks (.beforeOperand lead outer) front back
        (position + front.length) attempts) →
      OperandRun ⟨position, front ++ back⟩ ⟨attempts, none⟩

/-- What comes of looking for operands with a connective between neighbours. -/
inductive SeriesRun (op : Connective) : Input → Outcome (List Formula) → Prop
  /-- They are there, and the connective was looked for behind the last one. -/
  | found {position : Nat} {back : List Token} {first : Operand} {more : List Operand}
      {attempts : List Attempt} : back.head? ≠ some (.op op) →
      Marks attempts (position + (first.chained op more).length) (· = (TokenClass.op op).name) →
      SeriesRun op ⟨position, first.chained op more ++ back⟩
        ⟨attempts, some (first.formula :: more.map Operand.formula,
          ⟨position + (first.chained op more).length, back⟩)⟩
  /-- The reader breaks off in one of them. Those before it may match. -/
  | broken {position : Nat} {front back : List Token} {attempts : List Attempt}
      {result : Option (List Formula × Input)} :
      (∀ chain outer, chain.admits op = true →
        Formula.reader.Breaks (.beforeOperand { joined := some (chain, op) } outer) front back
          (position + front.length) attempts) →
      EndsEarly result (position + front.length) →
      SeriesRun op ⟨position, front ++ back⟩ ⟨attempts, result⟩

/-- What comes of looking for a formula. -/
inductive FormulaRun : Input → Outcome Formula → Prop
  /-- A chain is there that cannot go on, and the connectives with which it could have were
  looked for behind it. -/
  | found {position : Nat} {front back : List Token} {chain : Chain} {attempts : List Attempt} :
      IsChain front chain →
      (∀ op, back.head? = some (.op op) → chain.admits op = false) →
      Marks attempts (position + front.length) (fun name =>
        ∃ op, chain.admits op = true ∧ (TokenClass.op op).name = name) →
      FormulaRun ⟨position, front ++ back⟩
        ⟨attempts, some (chain.formula, ⟨position + front.length, back⟩)⟩
  /-- The reader breaks off in an operand. Those before it may match. -/
  | broken {position : Nat} {front back : List Token} {attempts : List Attempt}
      {result : Option (Formula × Input)} :
      (∀ outer, Formula.reader.Breaks (.beforeOperand {} outer) front back
        (position + front.length) attempts) →
      EndsEarly result (position + front.length) →
      FormulaRun ⟨position, front ++ back⟩ ⟨attempts, result⟩

theorem Chain.admits_extend (chain : Chain) (op : Connective) (p : Formula) :
    (chain.extend op p).admits op = true := by
  obtain ⟨first, _ | ⟨own, tail⟩⟩ := chain
  · exact decide_eq_true rfl
  · exact decide_eq_true rfl

/-- The reader takes in an operand and the same connective behind it. -/
theorem IsOperand.after_op {front : List Token} {p : Formula} {op : Connective} {chain : Chain}
    (derived : IsOperand front p) (outer : List Lead) :
    Formula.reader.after (.beforeOperand { joined := some (chain, op) } outer)
      (front ++ [.op op]) =
      some (.beforeOperand { joined := some (chain.extend op p, op) } outer) := by
  rw [Reader.after_append, derived.after, Option.bind_some, Reader.after_singleton]
  exact FormulaPlace.step_op_eq_some_iff.mpr ⟨chain.admits_extend op p, rfl⟩

theorem IsOperand.after_first_op {front : List Token} {p : Formula} (derived : IsOperand front p)
    (op : Connective) (outer : List Lead) :
    Formula.reader.after (.beforeOperand {} outer) (front ++ [.op op]) =
      some (.beforeOperand { joined := some ({ first := p }, op) } outer) := by
  rw [Reader.after_append, derived.after, Option.bind_some, Reader.after_singleton]
  rfl

theorem marks_signs (position : Nat) (ops : List Connective) :
    Marks (Peg.signs position ops) position fun name =>
      ∃ op ∈ ops, (TokenClass.op op).name = name where
  position_le attempt present := by
    obtain ⟨op, _, rfl⟩ := List.mem_map.mp present
    exact Nat.le_refl position
  mem_iff name := by simp [Peg.signs]

theorem before_signs {position most : Nat} (ops : List Connective) (lt : position < most) :
    Before (Peg.signs position ops) most :=
  (marks_signs position ops).before lt

theorem add_length_append_cons (position : Nat) (front : List Token) (token : Token)
    (more : List Token) :
    position + (front ++ token :: more).length = position + front.length + 1 + more.length := by
  rw [List.length_append, List.length_cons]
  omega

/-- The operands behind an operand and a connective make it a longer series. -/
theorem SeriesRun.cons {op : Connective} {position : Nat} {front rest : List Token} {p : Formula}
    {attempts : List Attempt} (derived : IsOperand front p)
    (before : Before attempts (position + front.length))
    (ran : Peg.operand.run ⟨position, front ++ .op op :: rest⟩ =
      ⟨attempts, some (p, ⟨position + front.length, .op op :: rest⟩)⟩)
    (later : SeriesRun op ⟨position + front.length + 1, rest⟩
      ((Peg.sepBy1 Peg.operand (Peg.sign op)).run ⟨position + front.length + 1, rest⟩)) :
    SeriesRun op ⟨position, front ++ .op op :: rest⟩
      ((Peg.sepBy1 Peg.operand (Peg.sign op)).run ⟨position, front ++ .op op :: rest⟩) := by
  have consumes := Peg.consumes_sign op
  have separated := Peg.run_sign_self op (position + front.length) rest
  generalize start : Input.mk (position + front.length + 1) rest = input at later
  generalize further : (Peg.sepBy1 Peg.operand (Peg.sign op)).run input = outcome at later
  cases later with
  | @found _ back first more others last marks =>
      cases start
      let operand : Operand := ⟨front, p, derived⟩
      have whole : operand.chained op (first :: more) = front ++ .op op :: first.chained op more :=
        operand.chained_cons op first more
      rw [Peg.run_sepBy1_of_more consumes ran separated further]
      have found := @SeriesRun.found op position back operand (first :: more)
        (attempts ++ others) last
      rw [whole, add_length_append_cons, List.append_assoc, List.cons_append] at found
      exact found (.before_append (before.mono (by omega)) marks)
  | @broken _ within back others result breaks early =>
      cases start
      have length := add_length_append_cons position front (.op op) within
      have longer (chain : Chain) (outer : List Lead) (admitted : chain.admits op = true) :
          Formula.reader.Breaks (.beforeOperand { joined := some (chain, op) } outer)
            (front ++ .op op :: within) back (position + (front ++ .op op :: within).length)
            (attempts ++ others) := by
        have inner := (breaks (chain.extend op p) outer (chain.admits_extend op p)).prepend
          (derived.after_op outer)
        rw [List.append_assoc] at inner
        rw [length]
        exact inner.before_append (before.mono (by omega))
      have divided : front ++ .op op :: (within ++ back) = front ++ .op op :: within ++ back :=
        (List.append_assoc front (.op op :: within) back).symm
      cases result with
      | none =>
          -- The series steps back before the connective, where it ends early.
          rw [Peg.run_sepBy1_of_retreat consumes ran separated further, divided]
          exact .broken longer (endsEarly_some (by omega) (by simp) (by simp))
      | some found =>
          obtain ⟨values, next⟩ := found
          rw [Peg.run_sepBy1_of_more consumes ran separated further, divided]
          rw [← length] at early
          exact .broken longer early.of_some

section Runs

variable {bound : Nat}
  (operands : ∀ input, input.rest.length ≤ bound → OperandRun input (Peg.operand.run input))

include operands

theorem seriesRun_of_operandRun (op : Connective) (input : Input)
    (short : input.rest.length ≤ bound) :
    SeriesRun op input ((Peg.sepBy1 Peg.operand (Peg.sign op)).run input) := by
  induction size : input.rest.length using Nat.strongRecOn generalizing input with
  | ind length ih =>
  have consumes := Peg.consumes_sign op
  have run := operands input short
  generalize ran : Peg.operand.run input = outcome at run
  cases run with
  | broken breaks =>
      rw [Peg.run_sepBy1_of_fail consumes ran]
      exact .broken (fun chain outer _ => breaks _ outer) (endsEarly_none _)
  | @found position front back p attempts derived before =>
      by_cases next : back.head? = some (.op op)
      · obtain ⟨rest, rfl⟩ := List.head?_eq_some_iff.mp next
        rw [List.length_append, List.length_cons] at size short
        refine .cons derived before ran (ih rest.length ?_ _ ?_ rfl)
        · omega
        · change rest.length ≤ bound
          omega
      · have ends := Peg.run_sign_of_ne (position + front.length) next
        rw [Peg.run_sepBy1_of_end consumes ran ends]
        let operand : Operand := ⟨front, p, derived⟩
        have whole : operand.chained op [] = front := List.append_nil front
        have found := @SeriesRun.found op position back operand []
          (attempts ++ [⟨position + front.length, (TokenClass.op op).name⟩]) next
        rw [whole] at found
        exact found (.before_append before (.singleton _ _))

/-- Behind an operand and a connective, further operands make a chain of it. -/
theorem formulaRun_of_op {op : Connective} {position : Nat} {front rest : List Token}
    {p : Formula} {attempts : List Attempt} (short : rest.length ≤ bound)
    (derived : IsOperand front p) (before : Before attempts (position + front.length))
    (ran : Peg.operand.run ⟨position, front ++ .op op :: rest⟩ =
      ⟨attempts, some (p, ⟨position + front.length, .op op :: rest⟩)⟩) :
    FormulaRun ⟨position, front ++ .op op :: rest⟩
      (Peg.formula.run ⟨position, front ++ .op op :: rest⟩) := by
  have later := seriesRun_of_operandRun operands op ⟨position + front.length + 1, rest⟩ short
  generalize start : Input.mk (position + front.length + 1) rest = input at later
  generalize further : (Peg.sepBy1 Peg.operand (Peg.sign op)).run input = outcome at later
  cases later with
  | @found _ back first more others last marks =>
      cases start
      obtain ⟨earlier, joined⟩ := Peg.run_chain further
      let operand : Operand := ⟨front, p, derived⟩
      have whole : operand.chained op (first :: more) = front ++ .op op :: first.chained op more :=
        operand.chained_cons op first more
      have derived := Operand.isChain op operand first more
      rw [whole] at derived
      rw [Peg.run_formula_of_chain ran joined, ← List.cons_append, ← List.append_assoc,
        ← add_length_append_cons position front (.op op)]
      refine .found derived (fun other next => ?_) ?_
      · refine decide_eq_false ?_
        rintro rfl
        exact last next
      · rw [add_length_append_cons]
        have reached : position + front.length <
            position + front.length + 1 + (first.chained op more).length := by omega
        have record := Marks.before_append (before_signs earlier reached) marks
        refine (Marks.before_append (before.mono (by omega)) record).congr fun name => ?_
        simp [Chain.admits, eq_comm]
  | @broken _ within back others result breaks early =>
      cases start
      have length := add_length_append_cons position front (.op op) within
      have divided : front ++ .op op :: (within ++ back) = front ++ .op op :: within ++ back :=
        (List.append_assoc front (.op op :: within) back).symm
      have longer (outer : List Lead) :
          Formula.reader.Breaks (.beforeOperand {} outer) (front ++ .op op :: within) back
            (position + (front ++ .op op :: within).length) others := by
        have inner := (breaks { first := p } outer rfl).prepend (derived.after_first_op op outer)
        rw [List.append_assoc] at inner
        rw [length]
        exact inner
      have reached : position + front.length <
          position + (front ++ .op op :: within).length := by omega
      have first : Before attempts (position + (front ++ .op op :: within).length) :=
        before.mono reached.le
      cases result with
      | none =>
          -- The chain is optional, so its failure leaves the operand alone as a match.
          obtain ⟨earlier, later, failed⟩ := Peg.run_chain_of_fail further
          rw [Peg.run_formula_of_single ran failed, divided]
          refine .broken (fun outer => ?_) (endsEarly_some reached (by simp) (by simp))
          have record := (longer outer).append_before (before_signs later reached)
          exact (record.before_append (before_signs earlier reached)).before_append first
      | some found =>
          obtain ⟨values, next⟩ := found
          obtain ⟨earlier, joined⟩ := Peg.run_chain further
          rw [Peg.run_formula_of_chain ran joined, divided]
          rw [← length] at early
          refine .broken (fun outer => ?_) early.of_some
          exact ((longer outer).before_append (before_signs earlier reached)).before_append first

theorem formulaRun_of_operandRun (input : Input) (short : input.rest.length ≤ bound) :
    FormulaRun input (Peg.formula.run input) := by
  have run := operands input short
  generalize ran : Peg.operand.run input = outcome at run
  cases run with
  | broken breaks =>
      rw [Peg.run_formula_of_fail ran]
      exact .broken (breaks {}) (endsEarly_none _)
  | @found position front back p attempts derived before =>
      by_cases connective : ∃ op, back.head? = some (.op op)
      · obtain ⟨op, next⟩ := connective
        obtain ⟨rest, rfl⟩ := List.head?_eq_some_iff.mp next
        rw [List.length_append, List.length_cons] at short
        exact formulaRun_of_op operands (by omega) derived before ran
      · have none : ∀ op, back.head? ≠ some (.op op) := not_exists.mp connective
        rw [Peg.run_formula_of_single ran (Peg.run_chain_of_ne none)]
        refine .found (.single derived) (fun op next => absurd next (none op)) ?_
        refine (Marks.before_append before (marks_signs _ _)).congr fun name => ?_
        constructor
        · rintro ⟨op, _, rfl⟩
          exact ⟨op, rfl, rfl⟩
        · rintro ⟨op, _, rfl⟩
          exact ⟨op, by cases op <;> simp, rfl⟩

end Runs

theorem isOperand_ident (name : String) : IsOperand [.ident name] (.ofName name) := by
  by_cases isTrue : name = "true"
  · subst isTrue
    exact .top
  · by_cases isFalse : name = "false"
    · subst isFalse
      exact .bot
    · rw [Formula.ofName_of_ne isTrue isFalse]
      exact .var isTrue isFalse

theorem marks_operand (position : Nat) (lead : Lead) (outer : List Lead) :
    Marks [⟨position, "`~`"⟩, ⟨position, "identifier"⟩, ⟨position, "`(`"⟩] position
      (Formula.reader.Admits (.beforeOperand lead outer)) := by
  have negation := Marks.singleton position "`~`"
  have ident := Marks.singleton position "identifier"
  have record := negation.append (ident.append (.singleton position "`(`"))
  exact record.congr fun name => FormulaPlace.admits_beforeOperand.symm

theorem operandRun_of_ne {rest : List Token} (position : Nat) (noNot : rest.head? ≠ some .not)
    (noIdent : ∀ name, rest.head? ≠ some (.ident name)) (noParen : rest.head? ≠ some .lparen) :
    OperandRun ⟨position, rest⟩ (Peg.operand.run ⟨position, rest⟩) := by
  rw [Peg.run_operand_of_ne noNot noIdent noParen]
  refine @OperandRun.broken position [] rest _ fun lead outer =>
    ⟨_, rfl, rfl, ?_, marks_operand position lead outer⟩
  intro token next
  cases token with
  | not => exact absurd next noNot
  | ident name => exact absurd next (noIdent name)
  | lparen => exact absurd next noParen
  | _ => rfl

theorem add_length_cons (position : Nat) (token : Token) (front : List Token) :
    position + (token :: front).length = position + 1 + front.length := by
  rw [List.length_cons]
  omega

theorem operandRun_not {position : Nat} {rest : List Token}
    (later : OperandRun ⟨position + 1, rest⟩ (Peg.operand.run ⟨position + 1, rest⟩)) :
    OperandRun ⟨position, .not :: rest⟩ (Peg.operand.run ⟨position, .not :: rest⟩) := by
  generalize start : Input.mk (position + 1) rest = input at later
  generalize ran : Peg.operand.run input = outcome at later
  cases later with
  | @found _ front back p attempts derived before =>
      cases start
      rw [← add_length_cons position .not front] at before
      rw [Peg.run_operand_not ran, ← add_length_cons position .not front]
      exact @OperandRun.found position (.not :: front) back _ attempts (.not derived) before
  | @broken _ front back attempts breaks =>
      cases start
      rw [Peg.run_operand_not_of_fail ran]
      refine @OperandRun.broken position (.not :: front) back _ fun lead outer => ?_
      rw [add_length_cons]
      have reached : position < position + 1 + front.length := by omega
      have tried := (before_singleton "identifier" reached).append (before_singleton "`(`" reached)
      have inner := breaks { lead with negations := lead.negations + 1 } outer
      have negated : Formula.reader.step (.beforeOperand lead outer) .not =
        some (.beforeOperand { lead with negations := lead.negations + 1 } outer) := rfl
      exact (inner.cons negated).append_before tried

/-- What stands in parentheses is an operand, if it is a formula and the parenthesis is
closed behind it. -/
theorem operandRun_lparen {position : Nat} {rest : List Token}
    (inner : FormulaRun ⟨position + 1, rest⟩ (Peg.formula.run ⟨position + 1, rest⟩)) :
    OperandRun ⟨position, .lparen :: rest⟩ (Peg.operand.run ⟨position, .lparen :: rest⟩) := by
  generalize start : Input.mk (position + 1) rest = input at inner
  generalize ran : Peg.formula.run input = outcome at inner
  have tried {most : Nat} (lt : position < most) : Before (Peg.beforeParen position) most :=
    .append (before_singleton "`~`" lt) (before_singleton "identifier" lt)
  have opened (lead : Lead) (outer : List Lead) : Formula.reader.step (.beforeOperand lead outer)
      .lparen = some (.beforeOperand {} (lead :: outer)) := rfl
  cases inner with
  | @found _ front back chain attempts derived last marks =>
      cases start
      have length := add_length_cons position .lparen front
      by_cases next : back.head? = some Token.rparen
      · obtain ⟨more, rfl⟩ := List.head?_eq_some_iff.mp next
        have closed : Peg.rparen.run ⟨position + 1 + front.length, .rparen :: more⟩ =
            ⟨[], some ((), ⟨position + 1 + front.length + 1, more⟩)⟩ := Peg.run_symbol_self
        have whole : position + (Token.lparen :: front ++ [Token.rparen]).length =
            position + 1 + front.length + 1 := by
          rw [List.length_append, List.length_cons]
          simp only [List.length_singleton]
          omega
        have divided : Token.lparen :: (front ++ .rparen :: more) =
            (Token.lparen :: front ++ [Token.rparen]) ++ more := by simp
        rw [Peg.run_operand_lparen_of_close ran closed, divided, ← whole]
        refine .found (.parenthesised derived.isFormula) ?_
        rw [whole]
        exact (tried (by omega)).append (marks.before (by omega))
      · have unclosed : Peg.rparen.run ⟨position + 1 + front.length, back⟩ =
            ⟨[⟨position + 1 + front.length, "`)`"⟩], none⟩ := Peg.run_symbol_of_ne next
        rw [Peg.run_operand_lparen_of_open ran unclosed]
        refine @OperandRun.broken position (.lparen :: front) back _ fun lead outer => ?_
        rw [length]
        refine ⟨.afterOperand chain (lead :: outer), ?_, rfl, ?_, ?_⟩
        · exact derived.after (lead :: outer)
        · intro token present
          cases token with
          | op op => exact FormulaPlace.step_op_of_not_admits (last op present)
          | rparen => exact absurd present next
          | _ => rfl
        · have record := marks.append (.singleton (position + 1 + front.length) "`)`")
          refine (Marks.before_append (tried (by omega)) record).congr fun name => ?_
          exact FormulaPlace.admits_afterOperand_cons.symm
  | @broken _ front back attempts result breaks early =>
      cases start
      have reached : position < position + 1 + front.length := by omega
      have longer (lead : Lead) (outer : List Lead) :
          Formula.reader.Breaks (.beforeOperand lead outer) (.lparen :: front) back
            (position + (Token.lparen :: front).length) (Peg.beforeParen position ++ attempts) := by
        rw [add_length_cons]
        exact ((breaks (lead :: outer)).cons (opened lead outer)).before_append (tried reached)
      cases result with
      | none =>
          rw [Peg.run_operand_lparen_of_fail ran]
          exact @OperandRun.broken position (.lparen :: front) back _ longer
      | some found =>
          -- What matched is not closed either, since it ends before some other token.
          obtain ⟨p, place, remaining⟩ := found
          obtain ⟨short, token, more, shape, noParen, _⟩ := early p _ rfl
          have unclosed : Peg.rparen.run ⟨place, remaining⟩ = ⟨[⟨place, "`)`"⟩], none⟩ := by
            refine Peg.run_symbol_of_ne ?_
            rw [show remaining = token :: more from shape]
            simpa using noParen
          rw [Peg.run_operand_lparen_of_open ran unclosed]
          refine @OperandRun.broken position (.lparen :: front) back _ fun lead outer => ?_
          rw [← List.append_assoc]
          refine (longer lead outer).append_before (before_singleton _ ?_)
          rw [add_length_cons]
          exact short

theorem operandRun (input : Input) : OperandRun input (Peg.operand.run input) := by
  induction size : input.rest.length using Nat.strongRecOn generalizing input with
  | ind length ih =>
  obtain ⟨position, rest⟩ := input
  cases rest with
  | nil => exact operandRun_of_ne position (by simp) (by simp) (by simp)
  | cons token rest =>
      have shorter (other : Input) (short : other.rest.length ≤ rest.length) :
          OperandRun other (Peg.operand.run other) :=
        ih other.rest.length (size ▸ Nat.lt_succ_of_le short) other rfl
      cases token with
      | not => exact operandRun_not (shorter _ (Nat.le_refl _))
      | ident name =>
          rw [Peg.run_operand_ident]
          exact @OperandRun.found position [.ident name] rest _ _ (isOperand_ident name)
            (before_singleton _ (Nat.lt_succ_self position))
      | lparen => exact operandRun_lparen (formulaRun_of_operandRun shorter _ (Nat.le_refl _))
      | _ => exact operandRun_of_ne position (by simp) (by simp) (by simp)

/-- What the rule for formulas makes of any input. -/
theorem formulaRun (input : Input) : FormulaRun input (Peg.formula.run input) :=
  formulaRun_of_operandRun (fun other _ => operandRun other) input (Nat.le_refl _)

theorem FormulaRun.run {input : Input} {outcome : Outcome Formula}
    (run : FormulaRun input outcome) : Formula.reader.Run IsFormula .start input outcome := by
  cases run with
  | @found position front back chain attempts derived last marks =>
      refine .complete derived.isFormula (derived.after []) rfl ?_ ?_
      · intro token present
        cases token with
        | op op => exact FormulaPlace.step_op_of_not_admits (last op present)
        | _ => rfl
      · exact marks.congr fun name => FormulaPlace.admits_afterOperand_nil.symm
  | broken breaks early => exact .broken (breaks []) early

theorem Formula.answers_read (tokens : List Token) :
    Formula.reader.Answers tokens (Formula.read tokens) ∧
      ∀ p, Formula.read tokens = .ok p → IsFormula tokens p :=
  Reader.answers_of_run (fun place _ => place.exists_admitted) (formulaRun _).run

theorem Formula.reader_tracks : Formula.reader.Tracks Formula.read :=
  fun tokens => (Formula.answers_read tokens).1

/-- The rule for formulas and the grammar agree on every list of tokens. -/
theorem Formula.read_eq_ok_iff {tokens : List Token} {p : Formula} :
    Formula.read tokens = .ok p ↔ IsFormula tokens p := by
  constructor
  · exact (Formula.answers_read tokens).2 p
  · intro derived
    obtain ⟨chain, rfl, taken⟩ := derived.exists_after []
    exact Formula.reader_tracks.of_after taken rfl

/-! ## The formulas that are read -/

/-- The rule for formulas reads exactly the formulas of the grammar. A list of tokens
that it reads denotes what it returns and nothing else, and every other list is
refused: one with a line break, one that goes on behind a whole formula with anything
but a connective, and one that mixes connectives without parentheses. -/
theorem formula_read_exactly (tokens : List Token) :
    (∀ p, Formula.read tokens = .ok p ↔ IsFormula tokens p) ∧
    (∀ p, IsFormula tokens p ↔
      (∃ only : Operand, tokens = only.tokens ∧ p = only.formula) ∨
      ∃ (op : Connective) (first second : Operand) (rest : List Operand),
        tokens = first.chained op (second :: rest) ∧
          p = .binary op first.formula (second.grouped op rest)) ∧
    (∀ p q, IsFormula tokens p → IsFormula tokens q → p = q) ∧
    ((∃ error, Formula.read tokens = .error error) ↔ ¬∃ p, IsFormula tokens p) ∧
    (.newline ∈ tokens → ¬∃ p, IsFormula tokens p) ∧
    (∀ p, IsFormula tokens p → ∀ token rest, (∀ op, token ≠ .op op) →
      ¬∃ q, IsFormula (tokens ++ token :: rest) q) ∧
    (∀ (op other : Connective) (first second : Operand) (more : List Operand), other ≠ op →
      tokens = first.chained op (second :: more) →
      ∀ rest, ¬∃ q, IsFormula (tokens ++ .op other :: rest) q) := by
  refine ⟨fun p => Formula.read_eq_ok_iff, fun p => isFormula_iff_operands, ?_, ?_, ?_, ?_, ?_⟩
  · intro p q derived other
    have same := (Formula.read_eq_ok_iff.mpr derived).symm.trans (Formula.read_eq_ok_iff.mpr other)
    exact Except.ok.inj same
  · cases answer : Formula.read tokens with
    | ok p => simpa using ⟨p, Formula.read_eq_ok_iff.mp answer⟩
    | error error => simp [← Formula.read_eq_ok_iff, answer]
  · rintro present ⟨p, derived⟩
    exact derived.newline_not_mem present
  · rintro p derived token rest noConnective ⟨q, longer⟩
    obtain ⟨chain, whole, _⟩ := derived.exists_chain
    obtain ⟨op, connective, _⟩ := whole.exists_op_of_append longer
    exact noConnective op connective
  · rintro op other first second more different rfl rest ⟨q, longer⟩
    have whole := Operand.isChain op first second more
    obtain ⟨_, same, admitted⟩ := whole.exists_op_of_append longer
    cases same
    exact different (of_decide_eq_true admitted).symm

/-- `a & true & false` groups its last two operands, and `a & true` cannot go on with `or`. -/
theorem conjunction_of_three_read :
    Formula.read [.ident "a", .op .and, .ident "true", .op .and, .ident "false"] =
        .ok (.and (.var "a") (.and .top .bot)) ∧
      ∀ rest, ¬∃ q, IsFormula ([.ident "a", .op .and, .ident "true"] ++ .op .or :: rest) q := by
  let name : Operand := ⟨[.ident "a"], .var "a", .var (by decide) (by decide)⟩
  let truth : Operand := ⟨[.ident "true"], .top, .top⟩
  let falsehood : Operand := ⟨[.ident "false"], .bot, .bot⟩
  constructor
  · refine ((formula_read_exactly _).1 _).mpr (((formula_read_exactly _).2.1 _).mpr (.inr ?_))
    exact ⟨.and, name, truth, [falsehood], rfl, rfl⟩
  · obtain ⟨_, _, _, _, _, _, unmixed⟩ :=
      formula_read_exactly [.ident "a", .op .and, .ident "true"]
    exact unmixed .and .or name truth [] (by decide) rfl

end ProofScript
