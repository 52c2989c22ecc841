import ProofScript.Formula

/-!
# Printed formulas

Every compound of a connective is printed in parentheses and a negation without,
so the printed text shows the whole tree. The symbols are a parameter. Two sets
are in use: the mathematical symbols of printed states, and the spellings that a
script uses for the same operators.
-/

namespace ProofScript

/-- The texts that stand for the operators of a formula. -/
structure Symbols where
  connective : Connective → String
  not : String
  bot : String
  top : String

/-- The symbols of printed states: `∧`, `∨`, `⇨`, `¬`, `⊥` and `⊤`. -/
def Symbols.mathematical : Symbols where
  connective
    | .and => "∧"
    | .or => "∨"
    | .implies => "⇨"
  not := "¬"
  bot := "⊥"
  top := "⊤"

/-- How a script spells a connective. -/
def Connective.spelling : Connective → String
  | .and => "&"
  | .or => "or"
  | .implies => "=>"

/-- The spellings of a script: `&`, `or`, `=>`, `~`, `false` and `true`. -/
def Symbols.script : Symbols where
  connective := Connective.spelling
  not := "~"
  bot := "false"
  top := "true"

/-- The text of a formula in the given symbols. -/
def Formula.render (symbols : Symbols) : Formula → String
  | .var name => name
  | .binary op p q =>
      "(" ++ p.render symbols ++ " " ++ symbols.connective op ++ " " ++ q.render symbols ++ ")"
  | .not p => symbols.not ++ p.render symbols
  | .bot => symbols.bot
  | .top => symbols.top

/-- The text of a formula as states show it. -/
def Formula.display (p : Formula) : String := p.render .mathematical

end ProofScript
