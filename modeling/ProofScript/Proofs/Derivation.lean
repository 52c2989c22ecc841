import Mathlib.Logic.Function.Basic
import ProofScript.Formula.Semantics

/-!
# Derivations

The inferences of the machine as a calculus: a `Derivation Γ p` is a tree that proves
`p` from the formulas in `Γ`, with one kind of node for every inference. What an
inference supposes joins the context of the premise that it is supposed for and of
no other.

No inference introduces `⊤`, so in the calculus it is an atom like the variables.
`Derivation.nonempty_of_valid` says that the calculus proves every formula that is
true however its atoms are read, `⊤` among them. The proof goes over the readings
one by one: a reading decides every formula with a derivation from its literals
(`Derivation.nonempty_signed`), and excluded middle removes the literals
(`Derivation.nonempty_of_literals`).
-/

namespace ProofScript

/-- Trees of inferences that prove a formula in a context. -/
inductive Derivation : List Formula → Formula → Type
  | assm {Γ : List Formula} {p : Formula} : p ∈ Γ → Derivation Γ p
  | andI {Γ : List Formula} {p q : Formula} :
    Derivation Γ p → Derivation Γ q → Derivation Γ (.and p q)
  | andE1 {Γ : List Formula} {p q : Formula} : Derivation Γ (.and p q) → Derivation Γ q
  | andE2 {Γ : List Formula} {p q : Formula} : Derivation Γ (.and p q) → Derivation Γ p
  | orI1 {Γ : List Formula} {p q : Formula} : Derivation Γ p → Derivation Γ (.or p q)
  | orI2 {Γ : List Formula} {p q : Formula} : Derivation Γ q → Derivation Γ (.or p q)
  | orE {Γ : List Formula} {p q r : Formula} :
    Derivation Γ (.or p q) → Derivation (Γ ++ [p]) r → Derivation (Γ ++ [q]) r → Derivation Γ r
  | implI {Γ : List Formula} {p q : Formula} :
    Derivation (Γ ++ [p]) q → Derivation Γ (.implies p q)
  | implE {Γ : List Formula} {p q : Formula} :
    Derivation Γ (.implies p q) → Derivation Γ p → Derivation Γ q
  | notI {Γ : List Formula} {p : Formula} : Derivation (Γ ++ [p]) .bot → Derivation Γ (.not p)
  | notE {Γ : List Formula} {p q : Formula} :
    Derivation Γ (.not p) → Derivation Γ p → Derivation Γ q
  | dNeg {Γ : List Formula} {p : Formula} : Derivation Γ (.not (.not p)) → Derivation Γ p
  | lem {Γ : List Formula} {p : Formula} : Derivation Γ (.or (.not p) p)
  | abort {Γ : List Formula} {p : Formula} : Derivation Γ .bot → Derivation Γ p

namespace Derivation

variable {Γ Δ : List Formula} {p q : Formula}

/-- The number of inferences in a tree. -/
def size {Γ : List Formula} {p : Formula} : Derivation Γ p → Nat
  | assm _ => 1
  | andI left right => left.size + right.size + 1
  | andE1 pair => pair.size + 1
  | andE2 pair => pair.size + 1
  | orI1 left => left.size + 1
  | orI2 right => right.size + 1
  | orE either left right => either.size + left.size + right.size + 1
  | implI body => body.size + 1
  | implE implication antecedent => implication.size + antecedent.size + 1
  | notI body => body.size + 1
  | notE negation claim => negation.size + claim.size + 1
  | dNeg double => double.size + 1
  | lem => 1
  | abort absurdity => absurdity.size + 1

/-- A context that grows with a larger one stays within it. -/
theorem extend_subset (subset : Γ ⊆ Δ) (added : List Formula) : Γ ++ added ⊆ Δ ++ added :=
  List.append_subset.mpr ⟨List.subset_append_of_subset_left _ subset, List.subset_append_right _ _⟩

/-- A derivation stays one in a larger context. -/
def weaken {Γ Δ : List Formula} {p : Formula} :
    Derivation Γ p → Γ ⊆ Δ → Derivation Δ p
  | assm member, subset => assm (subset member)
  | andI left right, subset => andI (left.weaken subset) (right.weaken subset)
  | andE1 pair, subset => andE1 (pair.weaken subset)
  | andE2 pair, subset => andE2 (pair.weaken subset)
  | orI1 left, subset => orI1 (left.weaken subset)
  | orI2 right, subset => orI2 (right.weaken subset)
  | orE either left right, subset =>
      orE (either.weaken subset) (left.weaken (extend_subset subset _))
        (right.weaken (extend_subset subset _))
  | implI body, subset => implI (body.weaken (extend_subset subset _))
  | implE implication antecedent, subset =>
      implE (implication.weaken subset) (antecedent.weaken subset)
  | notI body, subset => notI (body.weaken (extend_subset subset _))
  | notE negation claim, subset => notE (negation.weaken subset) (claim.weaken subset)
  | dNeg double, subset => dNeg (double.weaken subset)
  | lem, _ => lem
  | abort absurdity, subset => abort (absurdity.weaken subset)

/-- The formula that was supposed last. -/
def last : Derivation (Γ ++ [p]) p := assm (List.mem_append_right _ List.mem_cons_self)

/-- A derivation under one more supposition. -/
def under (derivation : Derivation Γ p) : Derivation (Γ ++ [q]) p :=
  derivation.weaken (List.subset_append_left _ _)

end Derivation

/-! ## Readings of the atoms -/

/-- What formulas are made of besides the connectives and `⊥`. -/
inductive Atom where
  | var (name : String)
  | top
deriving DecidableEq

/-- The atom as a formula. -/
def Atom.formula : Atom → Formula
  | var name => .var name
  | top => .top

namespace Formula

/-- Whether a formula is true when its atoms are read as `truth` says. Unlike
`Formula.eval` this leaves it open whether `⊤` is true. -/
def evalFree (truth : Atom → Bool) : Formula → Bool
  | .var name => truth (.var name)
  | .binary op p q => op.eval (p.evalFree truth) (q.evalFree truth)
  | .not p => !p.evalFree truth
  | .bot => false
  | .top => truth .top

/-- The atoms of a formula, with repetitions. -/
def atoms : Formula → List Atom
  | .var name => [.var name]
  | .binary _ p q => p.atoms ++ q.atoms
  | .not p => p.atoms
  | .bot => []
  | .top => [.top]

/-- Of a formula and its negation the one that is true. -/
def signed (truth : Atom → Bool) (p : Formula) : Formula :=
  if p.evalFree truth then p else .not p

theorem signed_of_true {truth : Atom → Bool} {p : Formula} (value : p.evalFree truth = true) :
    p.signed truth = p := if_pos value

theorem signed_of_false {truth : Atom → Bool} {p : Formula} (value : p.evalFree truth = false) :
    p.signed truth = .not p := by
  rw [signed, value]
  exact if_neg Bool.false_ne_true

end Formula

theorem Atom.evalFree_formula (truth : Atom → Bool) (atom : Atom) :
    atom.formula.evalFree truth = truth atom := by
  cases atom <;> rfl

/-- The literals of a reading: every atom of a list, or its negation. -/
def Atom.literals (truth : Atom → Bool) (atoms : List Atom) : List Formula :=
  atoms.map fun atom => atom.formula.signed truth

/-! ## Every reading decides every formula -/

namespace Derivation

variable {truth : Atom → Bool} {Γ : List Formula} {p q : Formula}

theorem nonempty_signed_not (body : Nonempty (Derivation Γ (p.signed truth))) :
    Nonempty (Derivation Γ ((Formula.not p).signed truth)) := by
  obtain ⟨body⟩ := body
  cases value : p.evalFree truth with
  | true =>
      rw [Formula.signed_of_true value] at body
      rw [Formula.signed_of_false (by simp [Formula.evalFree, value])]
      exact ⟨notI (notE last body.under)⟩
  | false =>
      rw [Formula.signed_of_false value] at body
      rw [Formula.signed_of_true (by simp [Formula.evalFree, value])]
      exact ⟨body⟩

theorem nonempty_signed_and (left : Nonempty (Derivation Γ (p.signed truth)))
    (right : Nonempty (Derivation Γ (q.signed truth))) :
    Nonempty (Derivation Γ ((Formula.and p q).signed truth)) := by
  obtain ⟨left⟩ := left
  obtain ⟨right⟩ := right
  cases leftValue : p.evalFree truth with
  | false =>
      rw [Formula.signed_of_false leftValue] at left
      rw [Formula.signed_of_false (by simp [Formula.evalFree, Connective.eval, leftValue])]
      exact ⟨notI (notE left.under (andE2 last))⟩
  | true =>
      cases rightValue : q.evalFree truth with
      | false =>
          rw [Formula.signed_of_false rightValue] at right
          rw [Formula.signed_of_false (by simp [Formula.evalFree, Connective.eval, rightValue])]
          exact ⟨notI (notE right.under (andE1 last))⟩
      | true =>
          rw [Formula.signed_of_true leftValue] at left
          rw [Formula.signed_of_true rightValue] at right
          rw [Formula.signed_of_true
            (by simp [Formula.evalFree, Connective.eval, leftValue, rightValue])]
          exact ⟨andI left right⟩

theorem nonempty_signed_or (left : Nonempty (Derivation Γ (p.signed truth)))
    (right : Nonempty (Derivation Γ (q.signed truth))) :
    Nonempty (Derivation Γ ((Formula.or p q).signed truth)) := by
  obtain ⟨left⟩ := left
  obtain ⟨right⟩ := right
  cases leftValue : p.evalFree truth with
  | true =>
      rw [Formula.signed_of_true leftValue] at left
      rw [Formula.signed_of_true (by simp [Formula.evalFree, Connective.eval, leftValue])]
      exact ⟨orI1 left⟩
  | false =>
      cases rightValue : q.evalFree truth with
      | true =>
          rw [Formula.signed_of_true rightValue] at right
          rw [Formula.signed_of_true (by simp [Formula.evalFree, Connective.eval, rightValue])]
          exact ⟨orI2 right⟩
      | false =>
          rw [Formula.signed_of_false leftValue] at left
          rw [Formula.signed_of_false rightValue] at right
          rw [Formula.signed_of_false
            (by simp [Formula.evalFree, Connective.eval, leftValue, rightValue])]
          exact ⟨notI (orE last (notE left.under.under last) (notE right.under.under last))⟩

theorem nonempty_signed_implies (left : Nonempty (Derivation Γ (p.signed truth)))
    (right : Nonempty (Derivation Γ (q.signed truth))) :
    Nonempty (Derivation Γ ((Formula.implies p q).signed truth)) := by
  obtain ⟨left⟩ := left
  obtain ⟨right⟩ := right
  cases leftValue : p.evalFree truth with
  | false =>
      rw [Formula.signed_of_false leftValue] at left
      rw [Formula.signed_of_true (by simp [Formula.evalFree, Connective.eval, leftValue])]
      exact ⟨implI (notE left.under last)⟩
  | true =>
      cases rightValue : q.evalFree truth with
      | true =>
          rw [Formula.signed_of_true rightValue] at right
          rw [Formula.signed_of_true (by simp [Formula.evalFree, Connective.eval, rightValue])]
          exact ⟨implI right.under⟩
      | false =>
          rw [Formula.signed_of_true leftValue] at left
          rw [Formula.signed_of_false rightValue] at right
          rw [Formula.signed_of_false
            (by simp [Formula.evalFree, Connective.eval, leftValue, rightValue])]
          exact ⟨notI (notE right.under (implE last left.under))⟩

/-- From the literals of its atoms, every formula can be proved or refuted. -/
theorem nonempty_signed (p : Formula)
    (literals : ∀ atom ∈ p.atoms, atom.formula.signed truth ∈ Γ) :
    Nonempty (Derivation Γ (p.signed truth)) := by
  induction p with
  | var name => exact ⟨assm (literals (.var name) List.mem_cons_self)⟩
  | binary op p q hp hq =>
      have left := hp fun atom member => literals atom (List.mem_append_left _ member)
      have right := hq fun atom member => literals atom (List.mem_append_right _ member)
      cases op with
      | and => exact nonempty_signed_and left right
      | or => exact nonempty_signed_or left right
      | implies => exact nonempty_signed_implies left right
  | not p hp => exact nonempty_signed_not (hp literals)
  | bot => exact ⟨notI last⟩
  | top => exact ⟨assm (literals .top List.mem_cons_self)⟩

/-! ## Literals can be left out -/

/-- A change in the reading of one atom leaves the literals of the others alone. -/
theorem literals_update_subset {truth : Atom → Bool} {atom : Atom} {rest : List Atom}
    (fresh : atom ∉ rest) (value : Bool) :
    Atom.literals (Function.update truth atom value) (atom :: rest) ⊆
      Atom.literals truth rest ++ [if value then atom.formula else .not atom.formula] := by
  intro literal member
  obtain ⟨other, listed, rfl⟩ := List.mem_map.mp member
  rw [Formula.signed, Atom.evalFree_formula]
  rcases List.mem_cons.mp listed with rfl | later
  · rw [Function.update_self]
    exact List.mem_append_right _ List.mem_cons_self
  · have different : other ≠ atom := fun same => fresh (same ▸ later)
    rw [Function.update_of_ne different, ← Atom.evalFree_formula truth other]
    exact List.mem_append_left _ (List.mem_map_of_mem later)

/-- What can be derived from the literals of every reading can be derived from
nothing. -/
theorem nonempty_of_literals (atoms : List Atom)
    (derived : ∀ truth, Nonempty (Derivation (Atom.literals truth atoms) p)) :
    Nonempty (Derivation [] p) := by
  induction atoms with
  | nil => exact derived fun _ => false
  | cons atom rest ih =>
      refine ih fun truth => ?_
      by_cases again : atom ∈ rest
      · obtain ⟨derivation⟩ := derived truth
        have member : atom.formula.signed truth ∈ Atom.literals truth rest :=
          List.mem_map_of_mem again
        exact ⟨derivation.weaken (List.cons_subset.mpr ⟨member, List.Subset.refl _⟩)⟩
      · -- Excluded middle for the atom, with a derivation for either reading of it.
        obtain ⟨whenTrue⟩ := derived (Function.update truth atom true)
        obtain ⟨whenFalse⟩ := derived (Function.update truth atom false)
        exact ⟨orE lem (whenFalse.weaken (literals_update_subset again false))
          (whenTrue.weaken (literals_update_subset again true))⟩

/-- Every formula that is true however its atoms are read has a derivation. -/
theorem nonempty_of_valid (valid : ∀ truth, p.evalFree truth = true) :
    Nonempty (Derivation [] p) := by
  refine nonempty_of_literals p.atoms fun truth => ?_
  have derived : Nonempty (Derivation (Atom.literals truth p.atoms) (p.signed truth)) :=
    nonempty_signed p fun atom member => List.mem_map_of_mem member
  rwa [Formula.signed, valid truth] at derived

end Derivation

end ProofScript
