import Mathlib.Data.List.Basic
import ProofScript.Proofs.ScriptText

/-!
# The printed state determines the state

A formula can be printed with any names, and then its text need not tell it apart from
others. In the states that scripts reach all formulas are well named, since a rule takes its
formulas from the goal and from its argument (`State.WellNamed.apply`).

For well-named formulas the printed text can be read in one way only, also where more text
stands behind it (`Formula.display_append_inj`). A sequent and a state are divided by
characters that no such formula contains, so all of their formulas can be read off
(`Sequent.display_inj`, `State.display_inj`).
-/

namespace ProofScript

/-! ## States of well-named formulas -/

/-- All formulas of a sequent are well named. -/
structure Sequent.WellNamed (sequent : Sequent) : Prop where
  assumptions : ∀ p ∈ sequent.assumptions, p.WellNamed
  goal : sequent.goal.WellNamed

/-- All formulas of a state are well named. -/
structure State.WellNamed (state : State) : Prop where
  assumptions : ∀ p ∈ state.assumptions, p.WellNamed
  goal : ∀ p ∈ state.goal, p.WellNamed
  pending : ∀ sequent ∈ state.pending.toList, sequent.WellNamed

/-- All formulas of a refinement are well named. -/
structure Refinement.WellNamed (refinement : Refinement) : Prop where
  goal : ∀ p ∈ refinement.goal, p.WellNamed
  assumed : ∀ p ∈ refinement.assumed, p.WellNamed
  subgoals : ∀ sequent ∈ refinement.subgoals, sequent.WellNamed

namespace Refinement.WellNamed

variable {p q : Formula}

theorem closed : Refinement.closed.WellNamed := ⟨nofun, nofun, nofun⟩

theorem replaced (goal : p.WellNamed) : (Refinement.replaced p).WellNamed :=
  ⟨fun _ same => Option.some.inj same ▸ goal, nofun, nofun⟩

theorem supposed (assumption : p.WellNamed) (goal : q.WellNamed) :
    (Refinement.supposed p q).WellNamed :=
  ⟨fun _ same => Option.some.inj same ▸ goal, List.forall_mem_singleton.mpr assumption, nofun⟩

theorem divided {subgoals : List Sequent} (each : ∀ sequent ∈ subgoals, sequent.WellNamed) :
    (Refinement.divided subgoals).WellNamed :=
  ⟨nofun, nofun, each⟩

end Refinement.WellNamed

theorem Sequent.WellNamed.bare {p : Formula} (goal : p.WellNamed) : Sequent.WellNamed ⟨[], p⟩ :=
  ⟨nofun, goal⟩

theorem Sequent.WellNamed.under {p q : Formula} (assumption : p.WellNamed) (goal : q.WellNamed) :
    Sequent.WellNamed ⟨[p], q⟩ :=
  ⟨List.forall_mem_singleton.mpr assumption, goal⟩

/-- An inference makes its refinement out of the goal and its argument. -/
theorem Inference.Yields.wellNamed {state : State} {inference : Inference}
    {argument : Option Argument} {goal : Formula} {refinement : Refinement}
    (yields : inference.Yields state argument goal refinement) (named : goal.WellNamed)
    (given : ∀ one ∈ argument, one.Writable) : refinement.WellNamed := by
  cases yields with
  | assm _ => exact .closed
  | andI =>
      refine .divided ?_
      simp [Sequent.WellNamed.bare named.1, Sequent.WellNamed.bare named.2]
  | andE1 => exact .replaced (given _ rfl)
  | andE2 => exact .replaced (given _ rfl)
  | orI1 => exact .replaced named.1
  | orI2 => exact .replaced named.2
  | orE =>
      have motive : Formula.WellNamed (.or _ _) := given _ rfl
      refine .divided ?_
      simp [Sequent.WellNamed.bare motive, Sequent.WellNamed.under motive.1 named,
        Sequent.WellNamed.under motive.2 named]
  | implI => exact .supposed named.1 named.2
  | implE =>
      have motive : Formula.WellNamed (.implies _ _) := given _ rfl
      refine .divided ?_
      simp [Sequent.WellNamed.bare motive, Sequent.WellNamed.bare motive.1]
  | notI => exact .supposed named trivial
  | @notE p goal =>
      have motive : p.WellNamed := given _ rfl
      have negated : p.not.WellNamed := motive
      refine .divided ?_
      simp [Sequent.WellNamed.bare motive, Sequent.WellNamed.bare negated]
  | dNeg => exact .replaced named
  | lem => exact .closed
  | abort => exact .replaced trivial

namespace State.WellNamed

variable {state next : State}

theorem empty : State.empty.WellNamed := ⟨nofun, nofun, nofun⟩

theorem start {goal : Formula} (named : goal.WellNamed) : (State.start goal).WellNamed :=
  ⟨nofun, fun _ same => Option.some.inj same ▸ named, nofun⟩

theorem pop (named : state.WellNamed) (popped : state.pop = .ok next) : next.WellNamed := by
  obtain ⟨sequent, rest, _, waiting, rfl⟩ := State.pop_eq_ok_iff.mp popped
  have pending := named.pending
  rw [waiting] at pending
  obtain ⟨first, others⟩ := List.forall_mem_cons.mp pending
  refine ⟨List.forall_mem_append.mpr ⟨named.assumptions, first.assumptions⟩, ?_, others⟩
  exact fun _ same => Option.some.inj same ▸ first.goal

theorem refine {refinement : Refinement} (named : state.WellNamed)
    (replacement : refinement.WellNamed) : (state.refine refinement).WellNamed where
  assumptions := List.forall_mem_append.mpr ⟨named.assumptions, replacement.assumed⟩
  goal := replacement.goal
  pending := List.forall_mem_append.mpr ⟨named.pending, replacement.subgoals⟩

/-- A step that can be written keeps the formulas of a state well named. -/
theorem apply {step : Step} (writable : step.Writable) (named : state.WellNamed)
    (applied : state.apply step = .ok next) : next.WellNamed := by
  obtain ⟨ready, taken, acted⟩ := State.apply_eq_ok_iff.mp applied
  have named : ready.WellNamed := by
    rcases taken with ⟨_, popped⟩ | ⟨_, rfl⟩
    · exact named.pop popped
    · exact named
  rcases acted with ⟨_, rfl⟩ | ⟨rule, _, ruled⟩
  · exact named
  · rcases State.applyRule_eq_ok_iff.mp ruled with
      ⟨_, goal, given, rfl⟩ | ⟨inference, goal, refinement, _, current, yields, rfl⟩
    · exact .start (writable _ given)
    · exact named.refine (yields.wellNamed (named.goal goal current) writable)

/-- Scripts reach states of well-named formulas only. -/
theorem of_run {text : String} (ran : Script.run text = .ok state) : state.WellNamed := by
  obtain ⟨script, parsed, ran⟩ := Script.run_eq_ok_iff.mp ran
  have writable := Script.writable_of_parse parsed
  exact State.invariant_runFrom (fun step listed => apply (writable step listed)) empty ran

end State.WellNamed

/-! ## Formulas can be read in one way only -/

section Formulas

variable {p q : Formula} {rest others : List Char}

/-- The symbol of a connective in a printed formula. -/
def Connective.symbol : Connective → Char
  | .and => '∧'
  | .or => '∨'
  | .implies => '⇨'

theorem Connective.symbol_inj {op other : Connective} (same : op.symbol = other.symbol) :
    op = other := by
  cases op <;> cases other <;> first | rfl | exact absurd same (by decide)

@[simp]
theorem Formula.toList_display_var (name : String) :
    (Formula.var name).display.toList = name.toList := rfl

@[simp]
theorem Formula.toList_display_binary (op : Connective) (p q : Formula) :
    (Formula.binary op p q).display.toList =
      '(' :: (p.display.toList ++ ' ' :: op.symbol :: ' ' :: (q.display.toList ++ [')'])) := by
  have symbol : (Symbols.mathematical.connective op).toList = [op.symbol] := by
    cases op <;> rfl
  simp [Formula.display, Formula.render, symbol]

@[simp]
theorem Formula.toList_display_not (p : Formula) :
    p.not.display.toList = '¬' :: p.display.toList := by
  simp [Formula.display, Formula.render, Symbols.mathematical]

@[simp]
theorem Formula.toList_display_bot : Formula.bot.display.toList = ['⊥'] := rfl

@[simp]
theorem Formula.toList_display_top : Formula.top.display.toList = ['⊤'] := rfl

theorem IsIdentifier.exists_first {name : String} (identifier : IsIdentifier name) :
    ∃ first more, name.toList = first :: more ∧ first.isLower = true := by
  obtain ⟨first, more, spelled⟩ := List.exists_cons_of_ne_nil identifier.nonempty
  exact ⟨first, more, spelled, identifier.isLower_of_mem first (by simp [spelled])⟩

/-- A formula starts with a letter or with one of four symbols. -/
theorem Formula.exists_first_display (named : p.WellNamed) :
    ∃ first more, p.display.toList = first :: more ∧
      (first.isLower = true ∨ first ∈ ['(', '¬', '⊥', '⊤']) := by
  cases p with
  | var name =>
      obtain ⟨first, more, spelled, lower⟩ := named.exists_first
      exact ⟨first, more, spelled, .inl lower⟩
  | binary op p q => exact ⟨'(', _, Formula.toList_display_binary op p q, by decide⟩
  | not p => exact ⟨'¬', _, Formula.toList_display_not p, by decide⟩
  | bot => exact ⟨'⊥', [], rfl, by decide⟩
  | top => exact ⟨'⊤', [], rfl, by decide⟩

theorem Formula.display_append_ne_cons {c : Char} {more : List Char} (named : p.WellNamed)
    (other : (c.isLower || c ∈ ['(', '¬', '⊥', '⊤']) = false) :
    p.display.toList ++ rest ≠ c :: more := by
  obtain ⟨first, tail, spelled, starts⟩ := Formula.exists_first_display named
  rw [spelled, List.cons_append]
  rintro ⟨⟩
  rw [Bool.or_eq_false_iff, decide_eq_false_iff_not] at other
  rcases starts with lower | symbol
  · exact absurd lower (by simp [other.1])
  · exact other.2 symbol

/-- A name ends where something apart begins. -/
theorem IsIdentifier.append_inj {name other : String} (identifier : IsIdentifier name)
    (another : IsIdentifier other) (apart : Apart rest) (beyond : Apart others)
    (same : name.toList ++ rest = other.toList ++ others) : name = other ∧ rest = others := by
  have whole {name : String} {rest : List Char} (identifier : IsIdentifier name)
      (apart : Apart rest) : (name.toList ++ rest).takeWhile Char.isLower = name.toList := by
    rw [List.takeWhile_append_of_pos identifier.isLower_of_mem]
    cases rest with
    | nil => simp
    | cons c rest =>
        have stops : ¬c.isLower = true := by
          intro lower
          cases (isAlphanum_of_isLower lower).symm.trans (apart c rfl)
        rw [List.takeWhile_cons_of_neg stops, List.append_nil]
  have names : name.toList = other.toList := by
    rw [← whole identifier apart, same, whole another beyond]
  rw [names] at same
  exact ⟨String.toList_inj.mp names, List.append_cancel_left same⟩

theorem IsIdentifier.append_ne_cons {name : String} {c : Char} {more : List Char}
    (identifier : IsIdentifier name) (symbol : c.isLower = false) :
    name.toList ++ rest ≠ c :: more := by
  obtain ⟨first, tail, spelled, lower⟩ := identifier.exists_first
  rw [spelled, List.cons_append]
  intro same
  cases lower.symm.trans ((List.cons.inj same).1 ▸ symbol)

/-- Where a printed formula stands before something apart, both can be told. -/
theorem Formula.display_append_inj (named : p.WellNamed) (other : q.WellNamed)
    (apart : Apart rest) (beyond : Apart others)
    (same : p.display.toList ++ rest = q.display.toList ++ others) : p = q ∧ rest = others := by
  -- The first character tells the form of a formula, and what stands behind its first part
  -- starts with a blank or a parenthesis.
  induction p generalizing q rest others with
  | var name =>
      cases q with
      | var another =>
          obtain ⟨rfl, ends⟩ := IsIdentifier.append_inj named.toIsIdentifier
            other.toIsIdentifier apart beyond same
          exact ⟨rfl, ends⟩
      | binary op q₁ q₂ =>
          rw [toList_display_binary] at same
          exact absurd same (named.append_ne_cons (by decide))
      | not q =>
          rw [toList_display_not] at same
          exact absurd same (named.append_ne_cons (by decide))
      | bot => exact absurd same (named.append_ne_cons (by decide))
      | top => exact absurd same (named.append_ne_cons (by decide))
  | binary op p₁ p₂ left right =>
      cases q with
      | var name =>
          rw [toList_display_binary] at same
          exact absurd same.symm (other.append_ne_cons (by decide))
      | binary another q₁ q₂ =>
          simp only [toList_display_binary, List.cons_append, List.append_assoc,
            List.cons.injEq, true_and, List.nil_append] at same
          have space (more : List Char) : Apart (' ' :: more) := apart_cons (by decide)
          have close (more : List Char) : Apart (')' :: more) := apart_cons (by decide)
          obtain ⟨rfl, behind⟩ := left named.1 other.1 (space _) (space _) same
          obtain ⟨-, behind⟩ := List.cons.inj behind
          obtain ⟨symbols, behind⟩ := List.cons.inj behind
          obtain ⟨rfl, ends⟩ := right named.2 other.2 (close _) (close _) (List.cons.inj behind).2
          obtain rfl := Connective.symbol_inj symbols
          exact ⟨rfl, (List.cons.inj ends).2⟩
      | _ => simp at same
  | not p ih =>
      cases q with
      | var name =>
          rw [toList_display_not] at same
          exact absurd same.symm (other.append_ne_cons (by decide))
      | not q =>
          have body : q.WellNamed := other
          rw [toList_display_not, toList_display_not] at same
          obtain ⟨rfl, ends⟩ := ih named body apart beyond (List.cons.inj same).2
          exact ⟨rfl, ends⟩
      | _ => simp at same
  | bot =>
      cases q with
      | var name => exact absurd same.symm (other.append_ne_cons (by decide))
      | bot => exact ⟨rfl, (List.cons.inj same).2⟩
      | _ => simp at same
  | top =>
      cases q with
      | var name => exact absurd same.symm (other.append_ne_cons (by decide))
      | top => exact ⟨rfl, (List.cons.inj same).2⟩
      | _ => simp at same

theorem Formula.display_inj (named : p.WellNamed) (other : q.WellNamed)
    (same : p.display = q.display) : p = q := by
  have texts : p.display.toList ++ [] = q.display.toList ++ [] := by rw [same]
  exact (Formula.display_append_inj named other apart_nil apart_nil texts).1

theorem Formula.newline_not_mem_display (named : p.WellNamed) : '\n' ∉ p.display.toList := by
  induction p with
  | var name =>
      intro present
      exact absurd (named.isLower_of_mem _ present) (by decide)
  | binary op p q left right =>
      have symbol : '\n' ≠ op.symbol := by cases op <;> decide
      simp [left named.1, right named.2, symbol]
  | not p ih =>
      have body : '\n' ∉ p.display.toList := ih named
      simp [body]
  | bot => decide
  | top => decide

end Formulas

/-! ## Sequents -/

namespace Sequent

variable {first second : Sequent} {goal target : Formula} {formulas others : List Formula}

/-- What is printed behind the first assumption of a sequent. -/
def laterText (goal : Formula) : List Formula → List Char
  | [] => ' ' :: '⊢' :: ' ' :: goal.display.toList
  | p :: rest => ',' :: ' ' :: (p.display.toList ++ laterText goal rest)

theorem toList_display_nil (goal : Formula) :
    (Sequent.display ⟨[], goal⟩).toList = '⊢' :: ' ' :: goal.display.toList := by
  simp [Sequent.display]

theorem toList_display_cons (p : Formula) (rest : List Formula) (goal : Formula) :
    (Sequent.display ⟨p :: rest, goal⟩).toList = p.display.toList ++ laterText goal rest := by
  simp only [Sequent.display, String.toList_append, String.toList_intercalate, List.map_cons]
  induction rest generalizing p with
  | nil => simp [laterText]
  | cons q rest ih =>
      rw [List.map_cons, List.map_cons, List.intercalate_cons_cons, laterText, ← ih q]
      simp

theorem apart_laterText (goal : Formula) (formulas : List Formula) :
    Apart (laterText goal formulas) := by
  cases formulas with
  | nil => exact apart_cons (by decide)
  | cons p rest => exact apart_cons (by decide)

theorem laterText_inj (named : ∀ p ∈ formulas, p.WellNamed) (other : ∀ p ∈ others, p.WellNamed)
    (named' : goal.WellNamed) (other' : target.WellNamed)
    (same : laterText goal formulas = laterText target others) :
    formulas = others ∧ goal = target := by
  induction formulas generalizing others with
  | nil =>
      cases others with
      | nil =>
          simp only [laterText, List.cons.injEq, true_and] at same
          exact ⟨rfl, Formula.display_inj named' other' (String.toList_inj.mp same)⟩
      | cons q rest => simp [laterText] at same
  | cons p formulas ih =>
      cases others with
      | nil => simp [laterText] at same
      | cons q others =>
          obtain ⟨first, later⟩ := List.forall_mem_cons.mp named
          obtain ⟨second, further⟩ := List.forall_mem_cons.mp other
          simp only [laterText, List.cons.injEq, true_and] at same
          obtain ⟨rfl, rest⟩ := Formula.display_append_inj first second
            (apart_laterText goal formulas) (apart_laterText target others) same
          obtain ⟨rfl, goals⟩ := ih later further rest
          exact ⟨rfl, goals⟩

theorem display_inj (named : first.WellNamed) (other : second.WellNamed)
    (same : first.display = second.display) : first = second := by
  obtain ⟨formulas, goal⟩ := first
  obtain ⟨others, target⟩ := second
  have texts := congrArg String.toList same
  cases formulas with
  | nil =>
      cases others with
      | nil =>
          rw [toList_display_nil, toList_display_nil] at texts
          simp only [List.cons.injEq, true_and] at texts
          have goals : goal = target :=
            Formula.display_inj named.goal other.goal (String.toList_inj.mp texts)
          rw [goals]
      | cons q others =>
          rw [toList_display_nil, toList_display_cons] at texts
          have starts := (List.forall_mem_cons.mp other.assumptions).1
          exact absurd texts.symm (Formula.display_append_ne_cons starts (by decide))
  | cons p formulas =>
      obtain ⟨head, later⟩ := List.forall_mem_cons.mp named.assumptions
      cases others with
      | nil =>
          rw [toList_display_nil, toList_display_cons] at texts
          exact absurd texts (Formula.display_append_ne_cons head (by decide))
      | cons q others =>
          obtain ⟨start, further⟩ := List.forall_mem_cons.mp other.assumptions
          rw [toList_display_cons, toList_display_cons] at texts
          obtain ⟨rfl, rest⟩ := Formula.display_append_inj head start
            (apart_laterText goal formulas) (apart_laterText target others) texts
          obtain ⟨rfl, rfl⟩ := laterText_inj later further named.goal other.goal rest
          rfl

theorem newline_not_mem_laterText (named : ∀ p ∈ formulas, p.WellNamed)
    (target : goal.WellNamed) : '\n' ∉ laterText goal formulas := by
  induction formulas with
  | nil => simp [laterText, Formula.newline_not_mem_display target]
  | cons p formulas ih =>
      obtain ⟨head, later⟩ := List.forall_mem_cons.mp named
      simp [laterText, Formula.newline_not_mem_display head, ih later]

theorem newline_not_mem_display (named : first.WellNamed) : '\n' ∉ first.display.toList := by
  obtain ⟨formulas, goal⟩ := first
  cases formulas with
  | nil => simp [toList_display_nil, Formula.newline_not_mem_display named.goal]
  | cons p formulas =>
      obtain ⟨head, later⟩ := List.forall_mem_cons.mp named.assumptions
      rw [toList_display_cons, List.mem_append, not_or]
      exact ⟨Formula.newline_not_mem_display head, newline_not_mem_laterText later named.goal⟩

end Sequent

/-! ## States -/

namespace State

variable {state other : State}

/-- The line of an assumption. -/
def assumptionLine (entry : Formula × Nat) : String :=
  "  " ++ toString entry.2 ++ ". " ++ entry.1.display

/-- The line of a pending goal. -/
def pendingLine (sequent : Sequent) : String := "  " ++ sequent.display

/-- The line of the goal under proof. -/
def goalLine : Option Formula → String
  | some goal => "Current goal: " ++ goal.display
  | none => "Current goal: Done."

theorem toList_goalLine_some (goal : Formula) :
    (goalLine (some goal)).toList = "Current goal: ".toList ++ goal.display.toList :=
  String.toList_append

theorem lines_eq (state : State) :
    state.lines = "Assumptions:" :: ((state.assumptions.zipIdx 1).map assumptionLine ++
      "Other goals:" :: (state.pending.toList.map pendingLine ++ [goalLine state.goal])) := by
  obtain ⟨assumptions, goal, pending⟩ := state
  rw [lines, List.append_assoc, List.append_assoc, List.append_assoc]
  cases goal <;> rfl

theorem assumptionLine_inj {p q : Formula} {number : Nat} (named : p.WellNamed)
    (other : q.WellNamed) (same : assumptionLine (p, number) = assumptionLine (q, number)) :
    p = q := by
  have texts := congrArg String.toList same
  simp only [assumptionLine, String.toList_append, List.append_assoc,
    List.append_cancel_left_eq] at texts
  exact Formula.display_inj named other (String.toList_inj.mp texts)

/-- Both lists of assumptions count from the same number, so that equal lines stand at the
same place. -/
theorem assumptions_inj {formulas others : List Formula} {number : Nat}
    (named : ∀ p ∈ formulas, p.WellNamed) (other : ∀ p ∈ others, p.WellNamed)
    (same : (formulas.zipIdx number).map assumptionLine =
      (others.zipIdx number).map assumptionLine) : formulas = others := by
  induction formulas generalizing others number with
  | nil =>
      cases others with
      | nil => rfl
      | cons q others => simp at same
  | cons p formulas ih =>
      cases others with
      | nil => simp at same
      | cons q others =>
          obtain ⟨head, later⟩ := List.forall_mem_cons.mp named
          obtain ⟨start, further⟩ := List.forall_mem_cons.mp other
          simp only [List.zipIdx_cons, List.map_cons, List.cons.injEq] at same
          rw [assumptionLine_inj head start same.1, ih later further same.2]

theorem pending_inj {sequents others : List Sequent}
    (named : ∀ sequent ∈ sequents, sequent.WellNamed)
    (other : ∀ sequent ∈ others, sequent.WellNamed)
    (same : sequents.map pendingLine = others.map pendingLine) : sequents = others := by
  induction sequents generalizing others with
  | nil => exact (List.map_eq_nil_iff.mp same.symm).symm
  | cons sequent sequents ih =>
      cases others with
      | nil => simp at same
      | cons another others =>
          obtain ⟨head, later⟩ := List.forall_mem_cons.mp named
          obtain ⟨start, further⟩ := List.forall_mem_cons.mp other
          simp only [List.map_cons, List.cons.injEq] at same
          have texts := congrArg String.toList same.1
          simp only [pendingLine, String.toList_append, List.append_cancel_left_eq] at texts
          rw [Sequent.display_inj head start (String.toList_inj.mp texts),
            ih later further same.2]

/-- No formula prints as `Done.`. -/
theorem goalLine_some_ne {p : Formula} (named : p.WellNamed) :
    goalLine (some p) ≠ goalLine none := by
  intro same
  have done : (goalLine none).toList = "Current goal: ".toList ++ "Done.".toList := by decide
  have texts := congrArg String.toList same
  rw [toList_goalLine_some, done] at texts
  have rest : p.display.toList ++ [] = 'D' :: "one.".toList := by
    rw [List.append_nil]
    exact List.append_cancel_left texts
  exact Formula.display_append_ne_cons named (by decide) rest

theorem goal_inj {goal target : Option Formula} (named : ∀ p ∈ goal, p.WellNamed)
    (other : ∀ p ∈ target, p.WellNamed) (same : goalLine goal = goalLine target) :
    goal = target := by
  cases goal with
  | none =>
      cases target with
      | none => rfl
      | some q => exact absurd same.symm (goalLine_some_ne (other q rfl))
  | some p =>
      cases target with
      | none => exact absurd same (goalLine_some_ne (named p rfl))
      | some q =>
          have texts := congrArg String.toList same
          rw [toList_goalLine_some, toList_goalLine_some, List.append_cancel_left_eq] at texts
          rw [Formula.display_inj (named p rfl) (other q rfl) (String.toList_inj.mp texts)]

theorem newline_not_mem_of_mem_lines (named : state.WellNamed) :
    ∀ line ∈ state.lines, '\n' ∉ line.toList := by
  rw [lines_eq]
  simp only [List.forall_mem_cons, List.forall_mem_append, List.forall_mem_map]
  refine ⟨by decide, ?_, by decide, ?_, ?_, nofun⟩
  · rintro ⟨p, number⟩ listed
    have present : p ∈ state.assumptions := List.fst_mem_of_mem_zipIdx listed
    have digits : '\n' ∉ (toString number).toList := by
      intro digit
      exact absurd (isDigit_of_mem_toString number _ digit) (by decide)
    have formula := Formula.newline_not_mem_display (named.assumptions p present)
    simp only [assumptionLine, String.toList_append, List.mem_append, not_or]
    exact ⟨⟨⟨by decide, digits⟩, by decide⟩, formula⟩
  · intro sequent listed
    simp [pendingLine, Sequent.newline_not_mem_display (named.pending sequent listed)]
  · cases current : state.goal with
    | none => decide
    | some goal =>
        rw [toList_goalLine_some, List.mem_append, not_or]
        exact ⟨by decide, Formula.newline_not_mem_display (named.goal goal current)⟩

/-- The lines of a printed state can be told apart. -/
theorem splitOn_display (named : state.WellNamed) :
    state.display.toList.splitOn '\n' = state.lines.map String.toList := by
  rw [display, String.toList_intercalate]
  refine List.splitOn_intercalate '\n' ?_ ?_
  · exact List.forall_mem_map.mpr (newline_not_mem_of_mem_lines named)
  · simp [lines_eq]

/-- The heading of the pending goals is no line of a formula. -/
theorem heading_not_mem (state : State) :
    "Other goals:" ∉ (state.assumptions.zipIdx 1).map assumptionLine ∧
      "Other goals:" ∉ state.pending.toList.map pendingLine ++ [goalLine state.goal] := by
  have indented (text : String) : "  " ++ text ≠ "Other goals:" := by
    intro same
    have texts := congrArg String.toList same
    simp at texts
  constructor
  · intro listed
    obtain ⟨entry, _, same⟩ := List.mem_map.mp listed
    exact indented (toString entry.2 ++ ". " ++ entry.1.display)
      (by rw [← same, assumptionLine, String.append_assoc, String.append_assoc,
        String.append_assoc])
  · intro listed
    rcases List.mem_append.mp listed with listed | last
    · obtain ⟨sequent, _, same⟩ := List.mem_map.mp listed
      exact indented sequent.display same
    · have texts := congrArg String.toList (List.mem_singleton.mp last)
      cases current : state.goal with
      | none =>
          rw [current] at texts
          exact absurd texts (by decide)
      | some goal =>
          rw [current, toList_goalLine_some] at texts
          simp at texts

/-- States of well-named formulas that print alike are the same. -/
theorem display_inj (named : state.WellNamed) (well : other.WellNamed)
    (same : state.display = other.display) : state = other := by
  have texts : state.lines.map String.toList = other.lines.map String.toList := by
    rw [← splitOn_display named, ← splitOn_display well, same]
  have lines : state.lines = other.lines :=
    List.map_injective_iff.mpr (fun _ _ => String.toList_inj.mp) texts
  rw [lines_eq, lines_eq] at lines
  obtain ⟨assumed, _, rest⟩ := (List.append_cons_inj_of_notMem (heading_not_mem state).1
    (heading_not_mem state).2).mp (List.cons.inj lines).2
  obtain ⟨waiting, last⟩ := List.append_singleton_inj.mp rest
  have assumptions := assumptions_inj named.assumptions well.assumptions assumed
  have pending := pending_inj named.pending well.pending waiting
  have goal := goal_inj named.goal well.goal last
  obtain ⟨_, _, ⟨_⟩⟩ := state
  obtain ⟨_, _, ⟨_⟩⟩ := other
  cases assumptions
  cases pending
  cases goal
  rfl

end State

/-- The printed state determines the state. Two scripts that reach states with the same
text reach the same state: the same assumptions in the same order, the same goal under
proof or none, and the same goals waiting with the same assumptions of their own. -/
theorem printed_state_determines_state {first second : String} {state other : State}
    (ran : Script.run first = .ok state) (again : Script.run second = .ok other)
    (same : state.display = other.display) : state = other :=
  State.display_inj (.of_run ran) (.of_run again) same

/-- A proof by cases, with the first case under proof. -/
def caseDistinction : State where
  assumptions := [.or (.var "a") (.var "b")]
  goal := some (.var "a")
  pending := { toList := [⟨[.var "a"], .var "c"⟩, ⟨[.var "b"], .var "c"⟩] }

theorem caseDistinction_of_two_scripts :
    ∃ state other,
      Script.run "goal (a or b) => c\nimplI\norE a or b\n- orI1" = .ok state ∧
      Script.run "goal c\ngoal (a or b) => c\n\nimplI\norE (a or b)\n-\norI1" = .ok other ∧
      state.display =
        "Assumptions:\n  1. (a ∨ b)\nOther goals:\n  a ⊢ c\n  b ⊢ c\nCurrent goal: a" ∧
      state.display = other.display ∧ state = other := by
  have ran : Script.run "goal (a or b) => c\nimplI\norE a or b\n- orI1" =
      .ok caseDistinction := eq_ok_of_toOption (by decide +kernel)
  have again : Script.run "goal c\ngoal (a or b) => c\n\nimplI\norE (a or b)\n-\norI1" =
      .ok caseDistinction := eq_ok_of_toOption (by decide +kernel)
  refine ⟨_, _, ran, again, by decide +kernel, rfl, ?_⟩
  exact printed_state_determines_state ran again rfl

end ProofScript
