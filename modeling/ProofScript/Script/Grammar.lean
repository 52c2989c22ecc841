import ProofScript.Formula.Grammar

/-!
# The grammar of scripts

Which lists of tokens are scripts, and what steps they denote, apart from how they
are read. A line is a dash, a rule and an argument, in this order, each of which may
be missing. A script is one line or more, with a line break between neighbours.
-/

namespace ProofScript

/-- The tokens of an argument, and what it denotes. -/
inductive IsArgument : List Token → Argument → Prop
  | index (number : Nat) : IsArgument [.number number] (.index number)
  | formula {tokens p} : IsFormula tokens p → IsArgument tokens (.formula p)

/-- The tokens of a line before its argument. -/
def Step.front (pop : Bool) (rule : Option Rule) : List Token :=
  (if pop then [.dash] else []) ++ (rule.map Token.rule).toList

/-- The tokens of a line, and the step it denotes. -/
inductive IsLine : List Token → Step → Prop
  | bare (pop : Bool) (rule : Option Rule) : IsLine (Step.front pop rule) { pop, rule }
  | argued {tokens argument} (pop : Bool) (rule : Option Rule) : IsArgument tokens argument →
      IsLine (Step.front pop rule ++ tokens) { pop, rule, argument := some argument }

/-- The tokens of a script, and the steps it denotes. -/
inductive IsScript : List Token → Script → Prop
  | last {tokens step} : IsLine tokens step → IsScript tokens [step]
  | cons {tokens step rest steps} : IsLine tokens step → IsScript rest steps →
      IsScript (tokens ++ .newline :: rest) (step :: steps)

end ProofScript
