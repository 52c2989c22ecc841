/-!
# Propositional formulas

A formula is a variable, one of the constants `⊥` and `⊤`, a negation, or two
formulas joined by a connective. Equality is structural: the same shape with the
same variable names at the leaves. The three connectives share one constructor,
because reading, printing and evaluation treat them alike; the patterns
`Formula.and`, `Formula.or` and `Formula.implies` name them one by one for the
inference rules, which do not.
-/

namespace ProofScript

/-- The connectives that join two formulas. -/
inductive Connective where
  | and
  | or
  | implies
deriving DecidableEq

/-- A propositional formula. Variable names are arbitrary texts here; which of
them can be written in a script is a matter for the lexer. -/
inductive Formula where
  | var (name : String)
  | binary (op : Connective) (left right : Formula)
  | not (body : Formula)
  | bot
  | top
deriving DecidableEq

namespace Formula

/-- Conjunction. -/
@[match_pattern]
abbrev and (p q : Formula) : Formula := binary .and p q

/-- Disjunction. -/
@[match_pattern]
abbrev or (p q : Formula) : Formula := binary .or p q

/-- Implication. -/
@[match_pattern]
abbrev implies (p q : Formula) : Formula := binary .implies p q

/-- The formula an identifier denotes: `true` and `false` are the constants, and
every other name is a variable. -/
def ofName (name : String) : Formula :=
  if name = "true" then top else if name = "false" then bot else var name

theorem ofName_of_ne {name : String} (notTrue : name ≠ "true") (notFalse : name ≠ "false") :
    ofName name = var name := by
  rw [ofName, if_neg notTrue, if_neg notFalse]

end Formula

/-- For every entry of a list the position of the first entry equal to it, so
that two entries get the same number exactly when they are equal. -/
def Formula.classes (formulas : List Formula) : List Nat :=
  formulas.map fun p => formulas.findIdx (· = p)

end ProofScript
