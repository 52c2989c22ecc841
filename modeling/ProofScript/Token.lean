import ProofScript.Formula.Printer
import ProofScript.Rule

/-!
# Tokens

The tokens of a script. Blanks between them carry no meaning and have no token;
line breaks do, because a line is a step. The constants `true` and `false` are
identifiers at this level.
-/

namespace ProofScript

/-- A token of a script. -/
inductive Token where
  | dash
  | number (value : Nat)
  | rule (named : Rule)
  | ident (name : String)
  | lparen
  | rparen
  | op (connective : Connective)
  | not
  | newline
deriving DecidableEq

namespace Token

/-- The text of a token. A number is written in decimal without leading
zeros. -/
def spelling : Token → String
  | dash => "-"
  | number value => toString value
  | rule named => named.keyword
  | ident name => name
  | lparen => "("
  | rparen => ")"
  | op connective => connective.spelling
  | not => "~"
  | newline => "\n"

/-- The text of a list of tokens, neighbours separated by one blank. -/
def render (tokens : List Token) : String := " ".intercalate (tokens.map spelling)

end Token

/-- The number of the line on which the text after `tokens` stands. -/
def Token.lineAfter (tokens : List Token) : Nat := 1 + tokens.count .newline

end ProofScript
