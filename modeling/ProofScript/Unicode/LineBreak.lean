import ProofScript.Unicode.NormalForm
import ProofScript.Unicode.WhiteSpace

/-!
# Normal forms, ASCII text and line breaks

Three facts about normal forms on which the lines of a script depend. ASCII text is
its own normal form. A line break stands apart: the normal form of two texts
with a line break between them is that of each, with the line break between them,
and no other character gives rise to a line break. And white space stays white space.
`IsNormaliser` gathers them. Whatever is proved of texts uses nothing else of the normal
form.
-/

namespace ProofScript.Unicode

/-! ## ASCII text -/

theorem insertInOrder_of_starter {c : Char} (starter : combiningClass c = 0)
    (rest : List Char) : insertInOrder c rest = c :: rest := by
  cases rest with
  | nil => rfl
  | cons d rest =>
      rw [insertInOrder, if_neg]
      omega

theorem flatMap_decompose_of_lt {text : List Char} (low : ∀ c ∈ text, c.toNat < 0xA0) :
    text.flatMap decompose = text := by
  induction text with
  | nil => rfl
  | cons c rest ih =>
      rw [List.flatMap_cons, decompose_of_lt (low c List.mem_cons_self),
        ih fun d later => low d (List.mem_cons_of_mem c later)]
      rfl

theorem inCanonicalOrder_of_lt {text : List Char} (low : ∀ c ∈ text, c.toNat < 0x300) :
    inCanonicalOrder text = text := by
  induction text with
  | nil => rfl
  | cons c rest ih =>
      have first := combiningClass_of_lt (low c List.mem_cons_self)
      have later := ih fun d later => low d (List.mem_cons_of_mem c later)
      rw [inCanonicalOrder] at later ⊢
      rw [List.foldr_cons, later, insertInOrder_of_starter first]

/-- Characters that compose with nothing before them stay as they are. -/
theorem composeAfter_of_alone (starter : Char) (passed : List Char) {text : List Char}
    (alone : ∀ c ∈ text, ∀ a, compose? a c = none) :
    composeAfter starter passed text = starter :: (passed ++ text) := by
  induction text generalizing starter passed with
  | nil => rw [composeAfter, List.append_nil]
  | cons c rest ih =>
      have first := alone c List.mem_cons_self
      have later : ∀ d ∈ rest, ∀ a, compose? a d = none :=
        fun d later => alone d (List.mem_cons_of_mem c later)
      rw [composeAfter, first, ite_self]
      simp only
      split
      · rw [ih c [] later, List.nil_append]
      · rw [ih starter (passed ++ [c]) later, List.append_assoc, List.singleton_append]

theorem composeAll_of_alone {text : List Char} (alone : ∀ c ∈ text, ∀ a, compose? a c = none) :
    composeAll text = text := by
  induction text with
  | nil => rfl
  | cons c rest ih =>
      have later : ∀ d ∈ rest, ∀ a, compose? a d = none :=
        fun d later => alone d (List.mem_cons_of_mem c later)
      rw [composeAll]
      split
      · rw [composeAfter_of_alone c [] later, List.nil_append]
      · rw [ih later]

/-- ASCII text is its own normal form. -/
theorem nfkc_of_ascii {text : List Char} (ascii : ∀ c ∈ text, c.toNat < 0x80) :
    nfkc text = text := by
  have low : ∀ c ∈ text, c.toNat < 0x300 := fun c present => by
    have := ascii c present
    omega
  rw [nfkc, flatMap_decompose_of_lt fun c present => by have := ascii c present; omega,
    inCanonicalOrder_of_lt low,
    composeAll_of_alone fun c present _ => compose?_of_second_lt (low c present)]

/-! ## Line breaks divide a text -/

theorem combiningClass_newline : combiningClass '\n' = 0 := combiningClass_of_lt (by decide)

theorem isStarter_newline : isStarter '\n' = true := by
  rw [isStarter, combiningClass_newline]
  rfl

theorem insertInOrder_append_newline (c : Char) (before after : List Char) :
    insertInOrder c (before ++ '\n' :: after) = insertInOrder c before ++ '\n' :: after := by
  induction before with
  | nil =>
      have stays : ¬(0 < combiningClass '\n' ∧ combiningClass '\n' < combiningClass c) := by
        rw [combiningClass_newline]
        omega
      exact if_neg stays
  | cons d rest ih =>
      rw [List.cons_append, insertInOrder, insertInOrder]
      split
      · rw [ih, List.cons_append]
      · rfl

theorem inCanonicalOrder_append_newline (before after : List Char) :
    inCanonicalOrder (before ++ '\n' :: after) =
      inCanonicalOrder before ++ '\n' :: inCanonicalOrder after := by
  induction before with
  | nil => exact insertInOrder_of_starter combiningClass_newline _
  | cons c rest ih =>
      have later := congrArg (insertInOrder c) ih
      rw [insertInOrder_append_newline] at later
      exact later

/-- A line break composes with nothing after it. -/
theorem composeAfter_newline (passed after : List Char) :
    composeAfter '\n' passed after = '\n' :: (passed ++ composeAll after) := by
  induction after generalizing passed with
  | nil => rw [composeAfter, composeAll, List.append_nil]
  | cons c rest ih =>
      rw [composeAfter, compose?_of_first_lt (by decide), ite_self, composeAll]
      simp only
      split
      · rfl
      · rw [ih (passed ++ [c]), List.append_assoc]
        rfl

/-- A line break composes with nothing before it. -/
theorem composeAfter_append_newline (starter : Char) (passed before after : List Char) :
    composeAfter starter passed (before ++ '\n' :: after) =
      composeAfter starter passed before ++ '\n' :: composeAll after := by
  induction before generalizing starter passed with
  | nil =>
      have apart : compose? starter '\n' = none := compose?_of_second_lt (by decide)
      simp only [List.nil_append, composeAfter, apart, ite_self, isStarter_newline, if_true,
        composeAfter_newline, List.cons_append]
  | cons c rest ih =>
      rw [List.cons_append, composeAfter, composeAfter]
      split
      · exact ih _ passed
      · split
        · rw [ih c [], List.cons_append, List.append_assoc]
        · exact ih starter (passed ++ [c])

theorem composeAll_append_newline (before after : List Char) :
    composeAll (before ++ '\n' :: after) = composeAll before ++ '\n' :: composeAll after := by
  induction before with
  | nil =>
      simp only [List.nil_append, composeAll, isStarter_newline, if_true, composeAfter_newline]
  | cons c rest ih =>
      rw [List.cons_append, composeAll, composeAll]
      split
      · exact composeAfter_append_newline c [] rest after
      · rw [ih, List.cons_append]

/-- A line break divides a text into parts that are normalised on their own. -/
theorem nfkc_append_newline (before after : List Char) :
    nfkc (before ++ '\n' :: after) = nfkc before ++ '\n' :: nfkc after := by
  have lineBreak : decompose '\n' = ['\n'] := decompose_of_lt (by decide)
  rw [nfkc, List.flatMap_append, List.flatMap_cons, lineBreak, List.singleton_append,
    inCanonicalOrder_append_newline, composeAll_append_newline]
  rfl

/-! ## No line breaks arise or vanish -/

theorem newline_ne_of_graphic {c : Char} (graphic : 0x20 ≤ c.toNat) : '\n' ≠ c := by
  rintro rfl
  exact absurd graphic (by decide)

theorem count_newline_decompose (c : Char) :
    (decompose c).count '\n' = [c].count '\n' := by
  by_cases lineBreak : c = '\n'
  · rw [lineBreak, decompose_of_lt (by decide)]
  · rw [List.count_eq_zero.2, List.count_eq_zero.2]
    · simpa using fun same => lineBreak same.symm
    · intro present
      rcases eq_or_graphic_of_mem_decompose present with same | graphic
      · exact lineBreak same.symm
      · exact newline_ne_of_graphic graphic rfl

theorem count_newline_flatMap_decompose (text : List Char) :
    (text.flatMap decompose).count '\n' = text.count '\n' := by
  induction text with
  | nil => rfl
  | cons c rest ih =>
      rw [List.flatMap_cons, List.count_append, ih, count_newline_decompose,
        ← List.count_append, List.singleton_append]

theorem insertInOrder_perm (c : Char) (text : List Char) :
    (insertInOrder c text).Perm (c :: text) := by
  induction text with
  | nil => exact .refl _
  | cons d rest ih =>
      rw [insertInOrder]
      split
      · exact (ih.cons d).trans (.swap c d rest)
      · exact .refl _

theorem inCanonicalOrder_perm (text : List Char) : (inCanonicalOrder text).Perm text := by
  induction text with
  | nil => exact .refl _
  | cons c rest ih => exact (insertInOrder_perm c _).trans (ih.cons c)

theorem count_newline_composeAfter (starter : Char) (passed text : List Char) :
    (composeAfter starter passed text).count '\n' =
      (starter :: passed ++ text).count '\n' := by
  induction text generalizing starter passed with
  | nil => rw [composeAfter, List.append_nil]
  | cons c rest ih =>
      rw [composeAfter]
      split
      · next composite composed =>
          have graphic : 0x20 ≤ starter.toNat ∧ 0x20 ≤ c.toNat ∧ 0x20 ≤ composite.toNat := by
            split at composed
            · exact graphic_of_compose? composed
            · cases composed
          have := newline_ne_of_graphic graphic.1
          have := newline_ne_of_graphic graphic.2.1
          have := newline_ne_of_graphic graphic.2.2
          rw [ih]
          simp [List.count_append, *, Ne.symm]
      · split
        · rw [List.count_cons, List.count_append, ih]
          simp [List.count_cons, List.count_append]
        · rw [ih]
          simp [List.count_cons, List.count_append]

theorem count_newline_composeAll (text : List Char) :
    (composeAll text).count '\n' = text.count '\n' := by
  induction text with
  | nil => rfl
  | cons c rest ih =>
      rw [composeAll]
      split
      · rw [count_newline_composeAfter]
        rfl
      · rw [List.count_cons, List.count_cons, ih]

/-- A text has as many line breaks as its normal form. -/
theorem count_newline_nfkc (text : List Char) : (nfkc text).count '\n' = text.count '\n' := by
  rw [nfkc, count_newline_composeAll, (inCanonicalOrder_perm _).count_eq,
    count_newline_flatMap_decompose]

/-! ## White space stays white space -/

/-- The code points of white space. -/
def whiteSpaceCodePoints : List Nat :=
  whiteSpaceRanges.flatMap fun (first, last) => List.range' first (last + 1 - first)

theorem toNat_mem_whiteSpaceCodePoints {c : Char} (space : isWhiteSpace c = true) :
    c.toNat ∈ whiteSpaceCodePoints := by
  obtain ⟨⟨first, last⟩, listed, within⟩ := List.any_eq_true.mp space
  rw [Bool.and_eq_true, decide_eq_true_eq, decide_eq_true_eq] at within
  refine List.mem_flatMap.mpr ⟨(first, last), listed, List.mem_range'_1.mpr ?_⟩
  omega

theorem isWhiteSpace_of_mem_decompose {c d : Char} (space : isWhiteSpace c = true)
    (present : d ∈ decompose c) : isWhiteSpace d = true := by
  have each : ∀ codePoint ∈ whiteSpaceCodePoints,
      (decompose (Char.ofNat codePoint)).all isWhiteSpace = true := by decide +kernel
  have all := each c.toNat (toNat_mem_whiteSpaceCodePoints space)
  rw [Char.ofNat_toNat] at all
  exact List.all_eq_true.mp all d present

/-- White space composes with nothing before it. -/
theorem compose?_of_isWhiteSpace {c : Char} (space : isWhiteSpace c = true) (a : Char) :
    compose? a c = none := by
  have listed := toNat_mem_whiteSpaceCodePoints space
  have unlisted : ∀ line ∈ composites, line.second ∉ whiteSpaceCodePoints := by decide +kernel
  have letters : ∀ codePoint ∈ whiteSpaceCodePoints,
      Hangul.positionIn Hangul.firstVowel Hangul.vowelCount codePoint = none ∧
        Hangul.positionIn (Hangul.noTrailing + 1) (Hangul.trailingCount - 1) codePoint = none := by
    decide +kernel
  obtain ⟨vowel, trailing⟩ := letters c.toNat listed
  have pairs : composites.findSome? (·.compose? a c) = none := by
    refine List.findSome?_eq_none_iff.mpr fun line present => if_neg fun same => ?_
    exact unlisted line present (same ▸ listed)
  have syllable : Hangul.compose? a c = none := by
    simp [Hangul.compose?, Hangul.composeLetters?, Hangul.composeTrailing?, vowel, trailing]
  rw [compose?, pairs, syllable]
  exact ite_self _

/-- The normal form of white space is white space. -/
theorem isWhiteSpace_of_mem_nfkc {text : List Char} (space : ∀ c ∈ text, isWhiteSpace c = true) :
    ∀ c ∈ nfkc text, isWhiteSpace c = true := by
  have ordered : ∀ c ∈ inCanonicalOrder (text.flatMap decompose), isWhiteSpace c = true := by
    intro c present
    obtain ⟨d, listed, present⟩ :=
      List.mem_flatMap.mp ((inCanonicalOrder_perm _).mem_iff.mp present)
    exact isWhiteSpace_of_mem_decompose (space d listed) present
  rw [nfkc, composeAll_of_alone fun c present => compose?_of_isWhiteSpace (ordered c present)]
  exact ordered

/-! ## What the reading of a text relies on -/

/-- What the reading of a text relies on when the text is brought into a normal form: ASCII
text is its own, line breaks divide the text and are neither added nor lost, and white space
stays white space. -/
structure IsNormaliser (normalise : List Char → List Char) : Prop where
  ascii : ∀ {text : List Char}, text.all (·.toNat < 0x80) = true → normalise text = text
  append_newline : ∀ before after : List Char,
    normalise (before ++ '\n' :: after) = normalise before ++ '\n' :: normalise after
  count_newline : ∀ text : List Char, (normalise text).count '\n' = text.count '\n'
  isWhiteSpace_of_mem : ∀ {text : List Char}, (∀ c ∈ text, isWhiteSpace c = true) →
    ∀ c ∈ normalise text, isWhiteSpace c = true

theorem IsNormaliser.newline_not_mem {normalise : List Char → List Char}
    (normaliser : IsNormaliser normalise) {text : List Char} (free : '\n' ∉ text) :
    '\n' ∉ normalise text := by
  rw [← List.count_eq_zero] at free ⊢
  rw [normaliser.count_newline, free]

theorem isNormaliser_nfkc : IsNormaliser nfkc where
  ascii all := nfkc_of_ascii fun c present =>
    of_decide_eq_true (List.all_eq_true.mp all c present)
  append_newline := nfkc_append_newline
  count_newline := count_newline_nfkc
  isWhiteSpace_of_mem := isWhiteSpace_of_mem_nfkc

end ProofScript.Unicode
