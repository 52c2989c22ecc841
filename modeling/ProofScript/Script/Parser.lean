import ProofScript.Formula.Parser

/-!
# Reading scripts

A script is a sequence of lines separated by line breaks, and every line is one step, an
empty line included. A line consists of a dash, a rule and an argument, in this order,
each of which may be missing. So a line always matches, and where it ends early it is for
what follows to fail.
-/

namespace ProofScript

namespace Peg

/-- A line break. -/
def newline : Peg Unit := symbol "newline" "[Token::Newline]" .newline

/-- A dash. -/
def dash : Peg Unit := token "[Token::Dash]" fun found => if found = .dash then some () else none

/-- The keyword of a rule. -/
def ruleName : Peg Rule :=
  token "[Token::Keyword(name)]" fun
    | .rule named => some named
    | _ => none

/-- A number. -/
def number : Peg Nat :=
  token "[Token::Number(n)]" fun
    | .number value => some value
    | _ => none

/-- The argument of a rule. -/
def argument : Peg Argument := (.formula <$> formula) <|> (.index <$> number)

/-- A line. -/
def line : Peg Step := do
  let pop ← optional dash
  let rule ← optional ruleName
  let argument ← optional argument
  return { pop := pop.isSome, rule, argument }

/-- The lines of a script. -/
def script : Peg Script := sepBy line newline

end Peg

/-- The steps of a script. -/
def Script.read (tokens : List Token) : Except ParseError Script := Peg.script.read tokens

end ProofScript
