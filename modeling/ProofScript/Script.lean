import ProofScript.Run
import ProofScript.Script.Parser
import ProofScript.Token.Lexer

/-!
# Scripts as text

From a text to what it stands for: `Formula.parse` reads a formula,
`Script.parse` the steps of a script, and `Script.run` checks a script from the
empty state. A text can fail at three stages, and `ScriptError` keeps them apart:
it cannot be cut into tokens, its tokens are no script, or a step is refused. The
first failure is the only one reported.
-/

namespace ProofScript

/-- Why a text could not be read or checked. -/
inductive ScriptError where
  | lex (error : LexError)
  | parse (error : ParseError)
  | refused (failure : Failure)
deriving DecidableEq

/-- The wording of a failure. That of a refused step does not mention its line. -/
def ScriptError.message : ScriptError → String
  | lex error => "Lexing and parsing failed: " ++ error.message
  | parse error => "Lexing and parsing failed: " ++ error.message
  | refused failure => failure.cause.message

/-- Cut a text into tokens and read them. -/
def parseWith {α : Type} (read : List Token → Except ParseError α) (text : String) :
    Except ScriptError α := do
  let tokens ← (tokenize text).mapError .lex
  (read tokens).mapError .parse

/-- The formula that a text denotes. -/
def Formula.parse (text : String) : Except ScriptError Formula := parseWith Formula.read text

/-- The steps of a script. -/
def Script.parse (text : String) : Except ScriptError Script := parseWith Script.read text

/-- The state that a script reaches from the empty state. -/
def Script.run (text : String) : Except ScriptError State := do
  let script ← Script.parse text
  (State.empty.run script).mapError .refused

end ProofScript
