import ProofScript.Formula

/-!
# Rules and steps

A script names fifteen rules. One of them, `goal`, starts a proof; the other
fourteen are inferences, which act on the current goal of a proof in progress.
A line of a script is a `Step`: it may first take the next pending goal, then
name a rule, and give that rule an argument. Any of the three may be missing.
-/

namespace ProofScript

/-- The inferences: the rules that act on a current goal. -/
inductive Inference where
  | assm
  | andI
  | andE1
  | andE2
  | orI1
  | orI2
  | orE
  | implI
  | implE
  | notI
  | notE
  | dNeg
  | lem
  | abort
deriving DecidableEq

/-- A rule as a script names it: the start of a proof, or an inference. -/
inductive Rule where
  | goal
  | infer (inference : Inference)
deriving DecidableEq

namespace Inference

/-- All inferences, in the order in which the lexicon lists them. -/
def all : List Inference :=
  [assm, andI, andE1, andE2, orI1, orI2, orE, implI, implE, notI, notE, dNeg, lem, abort]

/-- The word for an inference in a script. -/
def keyword : Inference → String
  | assm => "assm"
  | andI => "andI"
  | andE1 => "andE1"
  | andE2 => "andE2"
  | orI1 => "orI1"
  | orI2 => "orI2"
  | orE => "orE"
  | implI => "implI"
  | implE => "implE"
  | notI => "notI"
  | notE => "notE"
  | dNeg => "dNeg"
  | lem => "lem"
  | abort => "abort"

/-- The name of an inference in the log. -/
def label : Inference → String
  | assm => "Assm"
  | andI => "AndI"
  | andE1 => "AndE1"
  | andE2 => "AndE2"
  | orI1 => "OrI1"
  | orI2 => "OrI2"
  | orE => "OrE"
  | implI => "ImplI"
  | implE => "ImplE"
  | notI => "NotI"
  | notE => "NotE"
  | dNeg => "DNeg"
  | lem => "Lem"
  | abort => "Abort"

theorem mem_all (inference : Inference) : inference ∈ all := by
  cases inference <;> decide

end Inference

namespace Rule

/-- All rules, in the order in which the lexicon lists them. -/
def all : List Rule := goal :: Inference.all.map infer

/-- The word for a rule in a script. -/
def keyword : Rule → String
  | goal => "goal"
  | infer inference => inference.keyword

/-- The name of a rule in the log. -/
def label : Rule → String
  | goal => "Goal"
  | infer inference => inference.label

/-- The rule that a word names. -/
def ofKeyword? (word : String) : Option Rule := all.find? (·.keyword = word)

theorem mem_all (rule : Rule) : rule ∈ all := by
  cases rule with
  | goal => exact List.mem_cons_self
  | infer inference =>
      exact List.mem_cons_of_mem _ (List.mem_map_of_mem (Inference.mem_all inference))

end Rule

/-- What a line gives to its rule: the number of an assumption, counted from
one, or a formula. -/
inductive Argument where
  | index (number : Nat)
  | formula (given : Formula)
deriving DecidableEq

/-- One line of a script. A line without a rule at most takes the next pending
goal, whatever argument it carries; an empty line does nothing. -/
structure Step where
  pop : Bool := false
  rule : Option Rule := none
  argument : Option Argument := none
deriving DecidableEq

/-- A script: the steps of its lines. -/
abbrev Script := List Step

namespace Argument

/-- The formula of an argument that is one. -/
def formula? : Argument → Option Formula
  | formula p => some p
  | index _ => none

/-- The number of an argument that is one. -/
def index? : Argument → Option Nat
  | index n => some n
  | formula _ => none

end Argument

namespace Step

/-- The formula that a line carries. -/
def formula? (step : Step) : Option Formula := step.argument.bind Argument.formula?

/-- The assumption number that a line carries. -/
def index? (step : Step) : Option Nat := step.argument.bind Argument.index?

end Step

end ProofScript
