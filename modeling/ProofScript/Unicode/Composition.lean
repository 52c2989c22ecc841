import ProofScript.Unicode.Composition.Table
import ProofScript.Unicode.Hangul

/-!
# Compositions

Some pairs of characters compose to one: a letter and an accent, say, or the
letters of a Hangul syllable. Every pair has at most one composite.
-/

namespace ProofScript.Unicode

/-- The composite of a pair, if its first part is the given character. -/
def compositeOf? (a : Char) (pair : List Char) : Option Char :=
  match fields '>' pair with
  | [first, composite] => if hex? first = some a.toNat then character? composite else none
  | _ => none

/-- The composite of two characters in a line of the table. -/
def Composites.compose? (line : Composites) (a b : Char) : Option Char :=
  if line.second = b.toNat then (fields ' ' line.pairs.toList).findSome? (compositeOf? a)
  else none

/-- The character that two characters compose to. No pair composes whose first
part lies before U+003C or whose second part lies before U+0300. -/
def compose? (a b : Char) : Option Char :=
  if a.toNat < 0x3C ∨ b.toNat < 0x300 then none
  else (composites.findSome? (·.compose? a b)).or (Hangul.compose? a b)

/-! ## No composition involves a control character -/

theorem compose?_of_first_lt {a b : Char} (h : a.toNat < 0x3C) : compose? a b = none :=
  if_pos (Or.inl h)

theorem compose?_of_second_lt {a b : Char} (h : b.toNat < 0x300) : compose? a b = none :=
  if_pos (Or.inr h)

theorem graphic_of_compositeOf? {a composite : Char} {pair : List Char}
    (h : compositeOf? a pair = some composite) : 0x20 ≤ composite.toNat := by
  unfold compositeOf? at h
  split at h
  · split at h
    · exact le_toNat_of_character? h
    · cases h
  · cases h

theorem Composites.graphic_of_compose? {line : Composites} {a b composite : Char}
    (h : line.compose? a b = some composite) : 0x20 ≤ composite.toNat := by
  unfold Composites.compose? at h
  split at h
  · obtain ⟨_, _, found⟩ := List.exists_of_findSome?_eq_some h
    exact graphic_of_compositeOf? found
  · cases h

/-- Neither the parts of a composition nor its result are control characters. -/
theorem graphic_of_compose? {a b composite : Char} (h : compose? a b = some composite) :
    0x20 ≤ a.toNat ∧ 0x20 ≤ b.toNat ∧ 0x20 ≤ composite.toNat := by
  unfold compose? at h
  split at h
  · cases h
  · refine ⟨by omega, by omega, ?_⟩
    rcases Option.or_eq_some_iff.1 h with listed | ⟨_, syllable⟩
    · obtain ⟨_, _, composed⟩ := List.exists_of_findSome?_eq_some listed
      exact Composites.graphic_of_compose? composed
    · exact Hangul.graphic_of_compose? syllable

end ProofScript.Unicode
