import ProofScript.Token

/-!
# Classes of tokens

For the grammar all numbers are alike, and so are all identifiers and all rules.
A token class is what the grammar sees of a token. Error messages name classes;
`TokenClass.all` lists them in the order in which messages do.
-/

namespace ProofScript

/-- What the grammar sees of a token. -/
inductive TokenClass where
  | dash
  | rule
  | number
  | op (connective : Connective)
  | lparen
  | rparen
  | not
  | ident
  | newline
deriving DecidableEq

namespace TokenClass

/-- All classes, in the order in which messages name them. -/
def all : List TokenClass :=
  [dash, rule, number, op .and, lparen, rparen, op .implies, op .or, not, ident, newline]

/-- The name of a class in a message. -/
def name : TokenClass → String
  | dash => "[Token::Dash]"
  | rule => "[Token::Keyword(name)]"
  | number => "[Token::Number(n)]"
  | op connective => "`" ++ connective.spelling ++ "`"
  | lparen => "`(`"
  | rparen => "`)`"
  | not => "`~`"
  | ident => "identifier"
  | newline => "newline"

/-- Some token of the class. -/
def specimen : TokenClass → Token
  | dash => .dash
  | rule => .rule .goal
  | number => .number 0
  | op connective => .op connective
  | lparen => .lparen
  | rparen => .rparen
  | not => .not
  | ident => .ident "a"
  | newline => .newline

theorem mem_all (tokenClass : TokenClass) : tokenClass ∈ all := by
  cases tokenClass with
  | op connective => cases connective <;> decide
  | _ => decide

end TokenClass

/-- The class of a token. -/
def Token.toClass : Token → TokenClass
  | .dash => .dash
  | .number _ => .number
  | .rule _ => .rule
  | .ident _ => .ident
  | .lparen => .lparen
  | .rparen => .rparen
  | .op connective => .op connective
  | .not => .not
  | .newline => .newline

theorem TokenClass.toClass_specimen (tokenClass : TokenClass) :
    tokenClass.specimen.toClass = tokenClass := by
  cases tokenClass <;> rfl

end ProofScript
