import ProofScript.Peg

/-!
# Reading formulas

A formula is an operand, or a chain of operands joined by one connective; chains of
different connectives have to be told apart by parentheses. An operand is an identifier,
a formula in parentheses, or a negated operand. A chain `x₁ op x₂ op … op xₙ` denotes
`op(x₁, ((x₂ op x₃) op …) op xₙ)`: its tail groups to the left, and its first operand is
joined to the whole tail.

The rules go back to operands only, so those whose name ends in `Of` take the rule for
operands as a parameter, and `Peg.operand` ties the knot.
-/

namespace ProofScript

/-- The formula of a chain with the connective `op`. -/
def Connective.chain (op : Connective) (first : Formula) : List Formula → Formula
  | [] => first
  | second :: rest => .binary op first (rest.foldl (.binary op) second)

namespace Peg

/-! ## Tokens -/

/-- A token without contents. -/
def symbol (name pattern : String) (wanted : Token) : Peg Unit :=
  named name (token pattern fun found => if found = wanted then some () else none)

/-- An opening parenthesis. -/
def lparen : Peg Unit := symbol "`(`" "[Token::LParen]" .lparen

/-- A closing parenthesis. -/
def rparen : Peg Unit := symbol "`)`" "[Token::RParen]" .rparen

/-- The sign of a negation. -/
def notSign : Peg Unit := symbol "`~`" "[Token::Not]" .not

/-- The sign of a connective. -/
def sign : Connective → Peg Unit
  | .and => symbol "`&`" "[Token::And]" (.op .and)
  | .or => symbol "`or`" "[Token::Or]" (.op .or)
  | .implies => symbol "`=>`" "[Token::Implies]" (.op .implies)

/-- An identifier: a constant or a variable. -/
def ident : Peg Formula :=
  named "identifier" (token "[Token::Ident(name)]" fun
    | .ident name => some (.ofName name)
    | _ => none)

/-! ## Formulas over some operands -/

section Operands

variable (operand : Peg Formula)

/-- A negated operand. -/
def negationOf : Peg Formula := do
  notSign
  return .not (← operand)

/-- A connective with the operands behind it, between which it stands again. -/
def tailOf (op : Connective) : Peg (Connective × List Formula) := do
  sign op
  return (op, ← sepBy1 operand (sign op))

/-- What makes a chain of an operand. -/
def chainOf : Peg (Connective × List Formula) :=
  tailOf operand .and <|> tailOf operand .or <|> tailOf operand .implies

/-- An operand, and a chain if there is one. -/
def formulaOf : Peg Formula := do
  let first ← operand
  match ← optional (chainOf operand) with
  | some (op, rest) => return op.chain first rest
  | none => return first

/-- An operand that is not negated. -/
def atomicOf : Peg Formula :=
  ident <|> do
    lparen
    let inner ← formulaOf operand
    rparen
    return inner

end Operands

/-! ## The rules -/

/-- An operand. -/
def operand : Peg Formula := fix fun operand => negationOf operand <|> atomicOf operand

/-- A negation. -/
def negation : Peg Formula := negationOf operand

/-- An identifier, or a formula in parentheses. -/
def atomic : Peg Formula := atomicOf operand

/-- A chain behind its first operand. -/
def chain : Peg (Connective × List Formula) := chainOf operand

/-- A formula. -/
def formula : Peg Formula := formulaOf operand

end Peg

/-- The formula that a list of tokens denotes. -/
def Formula.read (tokens : List Token) : Except ParseError Formula := Peg.formula.read tokens

end ProofScript
