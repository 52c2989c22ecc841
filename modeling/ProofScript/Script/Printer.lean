import ProofScript.Rule
import ProofScript.Formula.Printer

/-!
# Printed scripts

A step is written on one line, its parts separated by single blanks: a dash if
it takes a goal, the keyword of its rule, and its argument. Formulas are written in
the spellings of a script.
-/

namespace ProofScript

/-- The text of an argument. -/
def Argument.render : Argument → String
  | index number => toString number
  | formula p => p.render .script

/-- The parts of a line, from left to right. -/
def Step.parts (step : Step) : List String :=
  (if step.pop then ["-"] else [])
    ++ (step.rule.map Rule.keyword).toList
    ++ (step.argument.map Argument.render).toList

/-- The line of a step. -/
def Step.render (step : Step) : String := " ".intercalate step.parts

/-- The text of a script, without a line break at its end. -/
def Script.render (script : Script) : String := "\n".intercalate (script.map Step.render)

end ProofScript
