/-!
# Parse errors

Tokens that cannot be read are refused with the line on which reading stopped and the
names of all that could have stood there, each name once and in alphabetical order.
-/

namespace ProofScript

/-- Where reading stopped, and the names of what could have stood there. -/
structure ParseError where
  line : Nat
  expected : List String
deriving DecidableEq

namespace ParseError

/-- The wording of a list of names. -/
def describe : List String → String
  | [] => "<unreported>"
  | [one] => one
  | many => "one of " ++ ", ".intercalate many

/-- The wording of a parse error. -/
def message (error : ParseError) : String :=
  "line " ++ toString error.line ++ ": expected " ++ describe error.expected

end ParseError

end ProofScript
