import ProofScript.Proofs.Derivation
import ProofScript.Proofs.Scope

/-!
# Derivations as scripts

Open goals are served in the order of their arrival, so a script does not follow a
derivation from premise to premise: between two inferences of one branch come those
of all the others, and each of them may add assumptions and so shift the numbers
that the later ones have to use. What a script does follow is a *forest*, with one
derivation for every open goal in the order in which the goals wait. Each inference
takes the first tree apart: the tree of the goal to go on with stays in front, and
the trees of the subgoals go to the end. The forest loses one inference and no
tree has to be changed, because a derivation speaks of the formulas in its context
and not of their numbers. That they have numbers is the invariant
`ScopedState.InForce`.
-/

namespace ProofScript

namespace ScopedState

/-- The goals that are open, each with the context it is to be proved in. -/
def openGoals (state : ScopedState) : List ScopedGoal :=
  state.current.toList ++ state.pending.map ScopedSequent.due

theorem openGoals_take {state : ScopedState} {branch : ScopedSequent}
    {rest : List ScopedSequent} (current : state.current = none)
    (pending : state.pending = branch :: rest) :
    (state.take branch rest).openGoals = state.openGoals := by
  simp [openGoals, take, current, pending]

theorem openGoals_infer (state : ScopedState) (use : Use) (refinement : Refinement) :
    (state.infer use refinement).openGoals =
      (refinement.scopedGoal use.target.context).toList ++
        (state.pending.map ScopedSequent.due ++
          (refinement.scopedSubgoals use.target.context).map ScopedSequent.due) := by
  simp [openGoals, infer]

/-- The formulas in the contexts of the open goals are assumptions in force. -/
structure InForce (state : ScopedState) : Prop where
  current : ∀ target, state.current = some target → target.context ⊆ state.assumptions
  pending : ∀ branch ∈ state.pending, branch.context ⊆ state.assumptions

theorem InForce.start (goal : Formula) : (start goal).InForce := by
  refine ⟨?_, nofun⟩
  rintro target ⟨⟩
  exact List.nil_subset _

theorem InForce.move {state next : ScopedState} (inForce : state.InForce)
    (move : Move state next) : next.InForce := by
  cases move with
  | @pop branch rest current pending =>
      have own := inForce.pending branch (pending ▸ List.mem_cons_self)
      constructor
      · rintro target ⟨⟩
        exact Derivation.extend_subset own _
      · intro other later
        have before := inForce.pending other (pending ▸ List.mem_cons_of_mem _ later)
        exact List.subset_append_of_subset_left _ before
  | @infer use refinement current yields =>
      have own := inForce.current use.target current
      constructor
      · intro target present
        obtain ⟨goal, _, rfl⟩ := Option.map_eq_some_iff.mp present
        exact Derivation.extend_subset own _
      · intro branch member
        rcases List.mem_append.mp member with before | subgoal
        · exact List.subset_append_of_subset_left _ (inForce.pending branch before)
        · obtain ⟨sequent, _, rfl⟩ := List.mem_map.mp subgoal
          exact List.subset_append_of_subset_left _ own

end ScopedState

/-! ## Forests -/

/-- A derivation of a goal. -/
structure Tree where
  target : ScopedGoal
  derivation : Derivation target.context target.goal

/-- The number of inferences in a list of derivations. -/
def Tree.total : List Tree → Nat
  | [] => 0
  | tree :: rest => tree.derivation.size + total rest

@[simp]
theorem Tree.total_nil : Tree.total [] = 0 := rfl

@[simp]
theorem Tree.total_cons (tree : Tree) (rest : List Tree) :
    Tree.total (tree :: rest) = tree.derivation.size + Tree.total rest := rfl

@[simp]
theorem Tree.total_append (front back : List Tree) :
    Tree.total (front ++ back) = Tree.total front + Tree.total back := by
  induction front with
  | nil => simp
  | cons tree rest ih =>
      rw [List.cons_append, Tree.total_cons, Tree.total_cons, ih, Nat.add_assoc]

theorem State.exists_number {state : State} {p : Formula} (member : p ∈ state.assumptions) :
    ∃ number, state.assumption? number = some p := by
  obtain ⟨position, found⟩ := List.getElem?_of_mem member
  exact ⟨position + 1, found⟩

/-- The inference at the root of a derivation can be applied to its goal, and the
premises are derivations of what it leaves to prove. -/
theorem Derivation.exists_use {Γ : List Formula} {p : Formula} (derivation : Derivation Γ p)
    (state : State) (inForce : Γ ⊆ state.assumptions) :
    ∃ (inference : Inference) (argument : Option Argument) (refinement : Refinement)
      (front back : List Tree),
      inference.Yields state argument p refinement ∧
      Use.InScope ⟨inference, argument, ⟨Γ, p⟩⟩ ∧ Use.Matched ⟨inference, argument, ⟨Γ, p⟩⟩ ∧
      front.map Tree.target = (refinement.scopedGoal Γ).toList ∧
      back.map Tree.target = (refinement.scopedSubgoals Γ).map ScopedSequent.due ∧
      Tree.total front + Tree.total back < derivation.size := by
  cases derivation with
  | assm member =>
      obtain ⟨number, found⟩ := State.exists_number (inForce member)
      exact ⟨.assm, some (.index number), .closed, [], [], .assm found,
        fun _ => member, nofun, rfl, rfl, by simp [size]⟩
  | @andI _ p q left right =>
      refine ⟨.andI, none, _, [], [⟨⟨Γ, p⟩, left⟩, ⟨⟨Γ, q⟩, right⟩], .andI,
        nofun, nofun, rfl, ?_, ?_⟩
      · simp [ScopedSequent.due]
      · simp [size]
  | @andE1 _ q p pair =>
      refine ⟨.andE1, some (.formula (.and q p)), _, [⟨⟨Γ, .and q p⟩, pair⟩], [],
        .andE1, nofun, nofun, ?_, rfl, ?_⟩
      · simp
      · simp [size]
  | @andE2 _ p q pair =>
      refine ⟨.andE2, some (.formula (.and p q)), _, [⟨⟨Γ, .and p q⟩, pair⟩], [],
        .andE2, nofun, nofun, ?_, rfl, ?_⟩
      · simp
      · simp [size]
  | @orI1 _ p q left =>
      refine ⟨.orI1, none, _, [⟨⟨Γ, p⟩, left⟩], [], .orI1,
        nofun, nofun, ?_, rfl, ?_⟩
      · simp
      · simp [size]
  | @orI2 _ p q right =>
      refine ⟨.orI2, none, _, [⟨⟨Γ, q⟩, right⟩], [], .orI2,
        nofun, nofun, ?_, rfl, ?_⟩
      · simp
      · simp [size]
  | @orE _ q r p either left right =>
      refine ⟨.orE, some (.formula (.or q r)), _, [],
        [⟨⟨Γ, .or q r⟩, either⟩, ⟨⟨Γ ++ [q], p⟩, left⟩, ⟨⟨Γ ++ [r], p⟩, right⟩], .orE,
        nofun, nofun, rfl, ?_, ?_⟩
      · simp [ScopedSequent.due]
      · simp [size]
        omega
  | @implI _ p q body =>
      refine ⟨.implI, none, _, [⟨⟨Γ ++ [p], q⟩, body⟩], [], .implI,
        nofun, nofun, rfl, rfl, ?_⟩
      simp [size]
  | @implE _ q p implication antecedent =>
      refine ⟨.implE, some (.formula (.implies q p)), _, [],
        [⟨⟨Γ, .implies q p⟩, implication⟩, ⟨⟨Γ, q⟩, antecedent⟩], .implE,
        nofun, fun _ => rfl, rfl, ?_, ?_⟩
      · simp [ScopedSequent.due]
      · simp [size]
  | @notI _ p body =>
      refine ⟨.notI, none, _, [⟨⟨Γ ++ [p], .bot⟩, body⟩], [], .notI,
        nofun, nofun, rfl, rfl, ?_⟩
      simp [size]
  | @notE _ q p negation claim =>
      refine ⟨.notE, some (.formula q), _, [],
        [⟨⟨Γ, .not q⟩, negation⟩, ⟨⟨Γ, q⟩, claim⟩], .notE, nofun, nofun, rfl, ?_, ?_⟩
      · simp [ScopedSequent.due]
      · simp [size]
  | @dNeg _ p double =>
      refine ⟨.dNeg, none, _, [⟨⟨Γ, .not (.not p)⟩, double⟩], [], .dNeg,
        nofun, nofun, ?_, rfl, ?_⟩
      · simp
      · simp [size]
  | @lem _ p =>
      exact ⟨.lem, none, .closed, [], [], .lem, nofun, nofun, rfl, rfl,
        by simp [size]⟩
  | @abort _ p absurdity =>
      refine ⟨.abort, none, _, [⟨⟨Γ, .bot⟩, absurdity⟩], [], .abort,
        nofun, nofun, ?_, rfl, ?_⟩
      · simp
      · simp [size]

namespace ScopedState

/-- The first tree of a forest that belongs to the open goals says which inference
comes next, and without its root the forest belongs to the open goals after it. -/
theorem exists_infer {state : ScopedState} {target : ScopedGoal} {forest : List Tree}
    (current : state.current = some target)
    (covers : forest.map Tree.target = state.openGoals) (inForce : state.InForce)
    (proper : ∀ use ∈ state.uses, use.InScope ∧ use.Matched) :
    ∃ (next : ScopedState) (smaller : List Tree),
      Move state next ∧ smaller.map Tree.target = next.openGoals ∧
      (∀ use ∈ next.uses, use.InScope ∧ use.Matched) ∧
      Tree.total smaller < Tree.total forest := by
  rw [openGoals, current, Option.toList_some, List.singleton_append] at covers
  obtain ⟨⟨_, derivation⟩, others, rfl, rfl, waiting⟩ := List.map_eq_cons_iff.mp covers
  obtain ⟨inference, argument, refinement, front, back, yields, inScope, matched, next, later,
    less⟩ := derivation.exists_use state.erase (inForce.current _ current)
  refine ⟨state.infer ⟨inference, argument, _⟩ refinement, front ++ (others ++ back),
    .infer current yields, ?_, ?_, ?_⟩
  · rw [openGoals_infer, List.map_append, List.map_append, next, waiting, later]
  · intro other member
    rcases List.mem_append.mp member with before | now
    · exact proper other before
    · cases List.mem_singleton.mp now
      exact ⟨inScope, matched⟩
  · simp only [Tree.total_append, Tree.total_cons]
    omega

/-- A state whose open goals all have derivations can be completed by inferences
that are in scope and matched. -/
theorem exists_complete {state : ScopedState} {forest : List Tree}
    (covers : forest.map Tree.target = state.openGoals) (inForce : state.InForce)
    (proper : ∀ use ∈ state.uses, use.InScope ∧ use.Matched) :
    ∃ reached, Reach state reached ∧ reached.erase.isComplete = true ∧
      ∀ use ∈ reached.uses, use.InScope ∧ use.Matched := by
  -- An inference makes the forest smaller by one at least. Taking up a goal leaves
  -- the forest as it is, but it cannot be done twice in a row.
  induction measured : 2 * Tree.total forest + (if state.current.isNone then 1 else 0)
    using Nat.strongRecOn generalizing forest state with
  | _ bound ih =>
      cases current : state.current with
      | some target =>
          obtain ⟨next, smaller, move, covers, proper, less⟩ :=
            exists_infer current covers inForce proper
          have lower : 2 * Tree.total smaller + (if next.current.isNone then 1 else 0) < bound := by
            rw [← measured]
            split <;> omega
          obtain ⟨reached, reach, complete⟩ := ih _ lower covers (inForce.move move) proper rfl
          exact ⟨reached, .head move reach, complete⟩
      | none =>
          cases pending : state.pending with
          | nil => exact ⟨state, .refl, isComplete_erase_iff.mpr ⟨current, pending⟩, proper⟩
          | cons branch rest =>
              have move : Move state (state.take branch rest) := .pop current pending
              have lower : 2 * Tree.total forest +
                  (if (state.take branch rest).current.isNone then 1 else 0) < bound := by
                rw [← measured, current]
                exact Nat.lt_succ_self _
              rw [← openGoals_take current pending] at covers
              obtain ⟨reached, reach, complete⟩ := ih _ lower covers (inForce.move move) proper rfl
              exact ⟨reached, .head move reach, complete⟩

/-- Every derivation can be carried out as a proof. -/
theorem exists_complete_of_derivation {φ : Formula} (derivation : Derivation [] φ) :
    ∃ reached, Reach (start φ) reached ∧ reached.erase.isComplete = true ∧
      ∀ use ∈ reached.uses, use.InScope ∧ use.Matched := by
  have covers : [Tree.mk ⟨[], φ⟩ derivation].map Tree.target = (start φ).openGoals := rfl
  exact exists_complete covers (.start φ) nofun

end ScopedState

/-- Completeness. Every formula that is true however its atoms are read, `⊤` among
them, has a script that proves it, and whose inferences are in scope and matched. -/
theorem exists_scoped_script_of_valid {φ : Formula}
    (valid : ∀ truth : Atom → Bool, φ.evalFree truth = true) :
    ∃ (script : Script) (final : State) (reached : ScopedState),
      script.GoalFree ∧ (State.start φ).run script = .ok final ∧ final.isComplete = true ∧
      (ScopedState.start φ).run script = .ok reached ∧ reached.erase = final ∧
      ∀ use ∈ reached.uses, use.InScope ∧ use.Matched := by
  obtain ⟨derivation⟩ := Derivation.nonempty_of_valid valid
  obtain ⟨reached, reach, complete, proper⟩ :=
    ScopedState.exists_complete_of_derivation derivation
  obtain ⟨script, goalFree, ran⟩ := ScopedState.reach_iff_exists_run.mp reach
  have accepted : (State.start φ).run script = .ok reached.erase := by
    rw [← ScopedState.erase_start, ScopedState.run_erase_eq_ok_iff]
    exact ⟨reached, ran, rfl⟩
  exact ⟨script, reached.erase, reached, goalFree, accepted, complete, ran, rfl, proper⟩

/-- A law that holds for `⊤` because it holds for every atom, and that no
intuitionistic derivation proves. -/
def peirce : Formula := .implies (.implies (.implies .top (.var "p")) .top) .top

theorem peirce_has_scoped_script :
    (∀ truth : Atom → Bool, peirce.evalFree truth = true) ∧
      ∃ (script : Script) (final : State),
        script.GoalFree ∧ (State.start peirce).run script = .ok final ∧
        final.isComplete = true := by
  have valid : ∀ truth : Atom → Bool, peirce.evalFree truth = true := by
    intro truth
    simp only [peirce, Formula.evalFree, Connective.eval]
    cases truth .top <;> cases truth (.var "p") <;> rfl
  obtain ⟨script, final, _, goalFree, accepted, complete, _⟩ := exists_scoped_script_of_valid valid
  exact ⟨valid, script, final, goalFree, accepted, complete⟩

end ProofScript
