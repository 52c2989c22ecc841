import ProofScript.Token

/-!
# The grammar of formulas

Which lists of tokens are formulas, and what they denote, apart from how they are
read. Operands are identifiers, negated operands and formulas in parentheses. The
identifiers `true` and `false` denote the constants, every other one a variable. A
formula is an operand, or an operand joined by a connective to a tail. A tail is a
list of operands between which the same connective stands; it groups to the left.
-/

namespace ProofScript

mutual

/-- The tokens of an operand, and what it denotes. -/
inductive IsOperand : List Token → Formula → Prop
  | top : IsOperand [.ident "true"] .top
  | bot : IsOperand [.ident "false"] .bot
  | var {name} : name ≠ "true" → name ≠ "false" → IsOperand [.ident name] (.var name)
  | not {tokens p} : IsOperand tokens p → IsOperand (.not :: tokens) (.not p)
  | parenthesised {tokens p} : IsFormula tokens p → IsOperand (.lparen :: tokens ++ [.rparen]) p

/-- The tokens of a tail with connective `op`, and what it denotes. -/
inductive IsTail : Connective → List Token → Formula → Prop
  | operand {op tokens p} : IsOperand tokens p → IsTail op tokens p
  | join {op front back p q} : IsTail op front p → IsOperand back q →
      IsTail op (front ++ .op op :: back) (.binary op p q)

/-- The tokens of a formula, and what it denotes. -/
inductive IsFormula : List Token → Formula → Prop
  | operand {tokens p} : IsOperand tokens p → IsFormula tokens p
  | chain {op front back p q} : IsOperand front p → IsTail op back q →
      IsFormula (front ++ .op op :: back) (.binary op p q)

end

end ProofScript
