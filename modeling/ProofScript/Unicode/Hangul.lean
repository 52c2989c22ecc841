import ProofScript.Unicode.CodePoint

/-!
# Hangul syllables

The 11172 precomposed Hangul syllables stand in the order of their letters: a
leading consonant, a vowel, and a trailing consonant or none. Their decompositions
and compositions are therefore computed instead of listed.
-/

namespace ProofScript.Unicode.Hangul

/-- The first syllable. -/
def firstSyllable : Nat := 0xAC00

/-- The first leading consonant. -/
def firstLeading : Nat := 0x1100

/-- The first vowel. -/
def firstVowel : Nat := 0x1161

/-- The place before the first trailing consonant, which stands for none. -/
def noTrailing : Nat := 0x11A7

/-- The number of leading consonants. -/
def leadingCount : Nat := 19

/-- The number of vowels. -/
def vowelCount : Nat := 21

/-- The number of trailing consonants, none included. -/
def trailingCount : Nat := 28

/-- The number of syllables. -/
def syllableCount : Nat := leadingCount * vowelCount * trailingCount

/-- The position of a code point in a range, if it lies in it. -/
def positionIn (first count codePoint : Nat) : Option Nat :=
  if first ≤ codePoint ∧ codePoint < first + count then some (codePoint - first) else none

/-- The code points of the letters of the syllable at a position. -/
def letters (position : Nat) : List Nat :=
  let leading := firstLeading + position / (vowelCount * trailingCount)
  let vowel := firstVowel + position % (vowelCount * trailingCount) / trailingCount
  let trailing := noTrailing + position % trailingCount
  [leading, vowel] ++ if trailing = noTrailing then [] else [trailing]

/-- The letters of a precomposed syllable. -/
def decompose? (c : Char) : Option (List Char) :=
  (positionIn firstSyllable syllableCount c.toNat).bind fun position =>
    (letters position).mapM graphic?

/-- A leading consonant and a vowel compose to a syllable without a trailing
consonant. -/
def composeLetters? (a b : Char) : Option Char := do
  let leading ← positionIn firstLeading leadingCount a.toNat
  let vowel ← positionIn firstVowel vowelCount b.toNat
  graphic? (firstSyllable + (leading * vowelCount + vowel) * trailingCount)

/-- A syllable without a trailing consonant composes with one. -/
def composeTrailing? (a b : Char) : Option Char := do
  let syllable ← positionIn firstSyllable syllableCount a.toNat
  let trailing ← positionIn (noTrailing + 1) (trailingCount - 1) b.toNat
  if syllable % trailingCount = 0 then graphic? (a.toNat + trailing + 1) else none

/-- The syllable that two characters compose to. -/
def compose? (a b : Char) : Option Char := (composeLetters? a b).or (composeTrailing? a b)

/-- The first syllable with a trailing consonant, taken apart and put together. -/
example : decompose? '\uAC01' = some ['\u1100', '\u1161', '\u11A8'] := by decide

example : (compose? '\u1100' '\u1161').bind (compose? · '\u11A8') = some '\uAC01' := by decide

/-- The letters of a syllable are no control characters. -/
theorem graphic_of_decompose? {c : Char} {expansion : List Char}
    (h : decompose? c = some expansion) : ∀ d ∈ expansion, 0x20 ≤ d.toNat := by
  obtain ⟨_, _, read⟩ := Option.bind_eq_some_iff.1 h
  exact forall_mem_of_mapM (fun _ _ => le_toNat_of_graphic?) read

theorem graphic_of_composeLetters? {a b composite : Char}
    (h : composeLetters? a b = some composite) : 0x20 ≤ composite.toNat := by
  obtain ⟨_, _, h⟩ := Option.bind_eq_some_iff.1 h
  obtain ⟨_, _, graphic⟩ := Option.bind_eq_some_iff.1 h
  exact le_toNat_of_graphic? graphic

theorem graphic_of_composeTrailing? {a b composite : Char}
    (h : composeTrailing? a b = some composite) : 0x20 ≤ composite.toNat := by
  obtain ⟨_, _, h⟩ := Option.bind_eq_some_iff.1 h
  obtain ⟨_, _, h⟩ := Option.bind_eq_some_iff.1 h
  split at h
  · exact le_toNat_of_graphic? h
  · cases h

/-- A composed syllable is no control character. -/
theorem graphic_of_compose? {a b composite : Char} (h : compose? a b = some composite) :
    0x20 ≤ composite.toNat := by
  rcases Option.or_eq_some_iff.1 h with letters | ⟨_, trailing⟩
  · exact graphic_of_composeLetters? letters
  · exact graphic_of_composeTrailing? trailing

end ProofScript.Unicode.Hangul
