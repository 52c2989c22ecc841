import ProofScript.Unicode.Decomposition.Table
import ProofScript.Unicode.Hangul

/-!
# Compatibility decompositions

Characters that differ only in style, width or composition have the same
compatibility decomposition: `ａ` and `𝐚` decompose to `a`, `ﬁ` to `f` and `i`, and
`é` to `e` and an accent. The decompositions come from three sources, a list of
shifts, a list of stretches and the arithmetic of Hangul syllables; a character in
none of them stays as it is.
-/

namespace ProofScript.Unicode

/-- The character that a shift assigns to a character in its range. -/
def Shift.expand? (shift : Shift) (c : Char) : Option (List Char) :=
  if shift.first ≤ c.toNat ∧ c.toNat ≤ shift.last then
    (graphic? (shift.target + (c.toNat - shift.first))).map ([·])
  else none

/-- The expansion of a character in a stretch. -/
def Stretch.expand? (stretch : Stretch) (c : Char) : Option (List Char) := do
  let expansion ← (fields ' ' stretch.expansions.toList)[c.toNat - stretch.first]?
  (fields '+' expansion).mapM character?

/-- The only stretch that a character can lie in: the last that starts at or
before it. -/
def stretchOf? (c : Char) : Option Stretch :=
  (stretches.takeWhile fun stretch => stretch.first ≤ c.toNat).getLast?

/-- The compatibility decomposition of a character that has one. -/
def decompose? (c : Char) : Option (List Char) :=
  (shifts.findSome? (·.expand? c)).or
    (((stretchOf? c).bind (·.expand? c)).or (Hangul.decompose? c))

/-- The compatibility decomposition of a character. The first character that has
one is U+00A0. -/
def decompose (c : Char) : List Char :=
  if c.toNat < 0xA0 then [c] else (decompose? c).getD [c]

theorem decompose_of_lt {c : Char} (h : c.toNat < 0xA0) : decompose c = [c] := if_pos h

/-! ## No decomposition contains a control character -/

theorem Shift.graphic_of_expand? {shift : Shift} {c : Char} {expansion : List Char}
    (h : shift.expand? c = some expansion) : ∀ d ∈ expansion, 0x20 ≤ d.toNat := by
  unfold Shift.expand? at h
  split at h
  · obtain ⟨d, graphic, rfl⟩ := Option.map_eq_some_iff.1 h
    intro e present
    cases List.mem_singleton.1 present
    exact le_toNat_of_graphic? graphic
  · cases h

theorem Stretch.graphic_of_expand? {stretch : Stretch} {c : Char} {expansion : List Char}
    (h : stretch.expand? c = some expansion) : ∀ d ∈ expansion, 0x20 ≤ d.toNat := by
  obtain ⟨_, _, read⟩ := Option.bind_eq_some_iff.1 h
  exact forall_mem_of_mapM (fun _ _ => le_toNat_of_character?) read

theorem graphic_of_decompose? {c : Char} {expansion : List Char}
    (h : decompose? c = some expansion) : ∀ d ∈ expansion, 0x20 ≤ d.toNat := by
  unfold decompose? at h
  rcases Option.or_eq_some_iff.1 h with shifted | ⟨_, h⟩
  · obtain ⟨shift, _, expanded⟩ := List.exists_of_findSome?_eq_some shifted
    exact Shift.graphic_of_expand? expanded
  rcases Option.or_eq_some_iff.1 h with stretched | ⟨_, syllable⟩
  · obtain ⟨_, _, expanded⟩ := Option.bind_eq_some_iff.1 stretched
    exact Stretch.graphic_of_expand? expanded
  · exact Hangul.graphic_of_decompose? syllable

/-- A character in a decomposition is the character itself or no control
character. -/
theorem eq_or_graphic_of_mem_decompose {c d : Char} (h : d ∈ decompose c) :
    d = c ∨ 0x20 ≤ d.toNat := by
  unfold decompose at h
  split at h
  · exact Or.inl (List.mem_singleton.1 h)
  · cases found : decompose? c with
    | none =>
        rw [found] at h
        exact Or.inl (List.mem_singleton.1 h)
    | some expansion =>
        rw [found] at h
        exact Or.inr (graphic_of_decompose? found d h)

end ProofScript.Unicode
