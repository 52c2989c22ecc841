import ProofScript.Formula

/-!
# Truth of formulas

Formulas are read classically: a valuation says which variables are true, `⊥` is
false, `⊤` is true and the connectives are truth functions. A formula follows from
assumptions if it is true whenever they all are, and it is a tautology if it
follows from none.
-/

namespace ProofScript

/-- Which variables are true. -/
abbrev Valuation := String → Bool

/-- The truth function of a connective. -/
def Connective.eval : Connective → Bool → Bool → Bool
  | .and, p, q => p && q
  | .or, p, q => p || q
  | .implies, p, q => !p || q

/-- Whether a formula is true under a valuation. -/
def Formula.eval (valuation : Valuation) : Formula → Bool
  | .var name => valuation name
  | .binary op p q => op.eval (p.eval valuation) (q.eval valuation)
  | .not p => !p.eval valuation
  | .bot => false
  | .top => true

/-- A valuation under which all formulas of a list are true. -/
def Valuation.Satisfies (valuation : Valuation) (formulas : List Formula) : Prop :=
  ∀ p ∈ formulas, p.eval valuation = true

/-- A formula follows from assumptions. -/
def Entails (assumptions : List Formula) (p : Formula) : Prop :=
  ∀ valuation : Valuation, valuation.Satisfies assumptions → p.eval valuation = true

/-- A formula is true under every valuation. -/
def Formula.IsTautology (p : Formula) : Prop := ∀ valuation : Valuation, p.eval valuation = true

@[simp]
theorem Valuation.satisfies_append {valuation : Valuation} {front back : List Formula} :
    valuation.Satisfies (front ++ back) ↔
      valuation.Satisfies front ∧ valuation.Satisfies back :=
  List.forall_mem_append

theorem entails_nil_iff {p : Formula} : Entails [] p ↔ p.IsTautology := by
  constructor
  · intro follows valuation
    exact follows valuation fun _ none => nomatch none
  · intro tautology valuation _
    exact tautology valuation

end ProofScript
