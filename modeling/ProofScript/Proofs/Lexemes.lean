import ProofScript.Script

/-!
# How a text is cut

The lexer cuts off the longest match again and again. What a proof about it needs are two
things: what `longest?` finds, which `longest?_eq_some_iff` says once and for all, and
that it finds the same whatever stands behind a place that no match can cross.
`Pattern.Confined` is that condition for one pattern, and `longest?_append` is its use.

`munch` gives the lexemes themselves, and `lex?` the tokens of a text that is cut without a
rest. They leave the counters of the lexer aside, on which the tokens do not depend
(`toOption_scan`). One turn of the lexer with its counters is `scan_of_longest?`. A line break
divides a text into two that are cut on their own (`lex?_append_newline`), because no lexeme
other than the line break itself contains one.
-/

namespace ProofScript

variable {text front back : List Char} {kind : Kind} {kinds : List Kind} {length : Nat}

/-! ## The longest match -/

theorem longest?_eq_none_iff :
    longest? text kinds = none ↔ ∀ other ∈ kinds, other.pattern.matchLength text = 0 := by
  induction kinds with
  | nil => simp [longest?]
  | cons first kinds ih =>
      rw [List.forall_mem_cons, ← ih, longest?]
      cases longest? text kinds with
      | none => simp
      | some found =>
          simp only [reduceCtorEq, and_false, iff_false]
          split <;> simp

/-- A list of kinds in which one has the longest match, and a longer one than those
before it. -/
structure Wins (text : List Char) (kinds : List Kind) (kind : Kind) (length : Nat) : Prop where
  positive : 0 < length
  matched : kind.pattern.matchLength text = length
  place : ∃ before behind, kinds = before ++ kind :: behind ∧
    (∀ other ∈ before, other.pattern.matchLength text < length) ∧
    ∀ other ∈ behind, other.pattern.matchLength text ≤ length

theorem Wins.matchLength_le (wins : Wins text kinds kind length) :
    ∀ other ∈ kinds, other.pattern.matchLength text ≤ length := by
  obtain ⟨before, behind, rfl, shorter, notLonger⟩ := wins.place
  intro other present
  rcases List.mem_append.mp present with earlier | later
  · exact Nat.le_of_lt (shorter other earlier)
  · rcases List.mem_cons.mp later with rfl | later
    · exact Nat.le_of_eq wins.matched
    · exact notLonger other later

theorem Wins.mem (wins : Wins text kinds kind length) : kind ∈ kinds := by
  obtain ⟨before, behind, rfl, _⟩ := wins.place
  exact List.mem_append_right before List.mem_cons_self

theorem wins_of_longest? (found : longest? text kinds = some (kind, length)) :
    Wins text kinds kind length := by
  induction kinds generalizing kind length with
  | nil => cases found
  | cons first kinds ih =>
      rw [longest?] at found
      cases rest : longest? text kinds with
      | none =>
          simp only [rest] at found
          split at found
          · cases found
          · next nonzero =>
              cases found
              have others := longest?_eq_none_iff.mp rest
              refine ⟨Nat.pos_of_ne_zero nonzero, rfl, [], kinds, rfl, List.forall_mem_nil _, ?_⟩
              intro other later
              rw [others other later]
              exact Nat.zero_le _
      | some later =>
          obtain ⟨other, most⟩ := later
          have wins := ih rest
          simp only [rest] at found
          split at found
          · next shorter =>
              cases found
              obtain ⟨before, behind, rfl, earlier, notLonger⟩ := wins.place
              refine ⟨wins.positive, wins.matched, first :: before, behind, rfl, ?_, notLonger⟩
              exact List.forall_mem_cons.mpr ⟨shorter, earlier⟩
          · next longer =>
              cases found
              have positive := wins.positive
              refine ⟨by omega, rfl, [], kinds, rfl, List.forall_mem_nil _, ?_⟩
              intro other later
              have bound := wins.matchLength_le other later
              omega

theorem longest?_cons_of_le (positive : 0 < length)
    (matched : kind.pattern.matchLength text = length)
    (notLonger : ∀ other ∈ kinds, other.pattern.matchLength text ≤ length) :
    longest? text (kind :: kinds) = some (kind, length) := by
  rw [longest?, matched]
  cases rest : longest? text kinds with
  | none => exact if_neg (by omega)
  | some later =>
      obtain ⟨other, most⟩ := later
      have wins := wins_of_longest? rest
      have bound := notLonger other wins.mem
      rw [wins.matched] at bound
      exact if_neg (by omega)

theorem Wins.longest?_eq (wins : Wins text kinds kind length) :
    longest? text kinds = some (kind, length) := by
  obtain ⟨before, behind, rfl, shorter, notLonger⟩ := wins.place
  have found := longest?_cons_of_le wins.positive wins.matched notLonger
  clear wins
  induction before with
  | nil => exact found
  | cons first before ih =>
      obtain ⟨least, shorter⟩ := List.forall_mem_cons.mp shorter
      rw [List.cons_append, longest?, ih shorter]
      exact if_pos least

/-- The kind that is found has the longest match, and a longer one than any kind listed
before it. -/
theorem longest?_eq_some_iff :
    longest? text kinds = some (kind, length) ↔ Wins text kinds kind length :=
  ⟨wins_of_longest?, Wins.longest?_eq⟩

/-! ## Places that no match crosses -/

/-- No match of the pattern that starts with the text `front` goes on behind it, where
`c` stands. -/
def Pattern.Confined (front : List Char) (c : Char) : Pattern → Prop
  | word characters =>
      characters.length ≤ front.length ∨ characters.head? ≠ front.head? ∨ c ∉ characters.tail
  | run sort => sort c = false ∨ front.all sort = false

theorem takeWhile_append_of_confined {sort : Char → Bool} {c : Char}
    (confined : sort c = false ∨ front.all sort = false) :
    (front ++ c :: back).takeWhile sort = front.takeWhile sort := by
  rw [List.takeWhile_append]
  split
  · next whole =>
      have same : front.takeWhile sort = front :=
        (List.takeWhile_sublist sort).eq_of_length whole
      have all : front.all sort = true := by
        rw [← same]
        exact List.all_takeWhile
      have stops : sort c = false := confined.resolve_right (by simp [all])
      rw [List.takeWhile_cons_of_neg (by simp [stops]), same, List.append_nil]
  · rfl

/-- A word that is longer than the text before `c` would have to contain `c`. -/
theorem isPrefixOf_append_of_confined {characters : List Char} {c : Char} (nonempty : front ≠ [])
    (confined : (Pattern.word characters).Confined front c) :
    characters.isPrefixOf (front ++ c :: back) = characters.isPrefixOf front := by
  rw [Bool.eq_iff_iff, List.isPrefixOf_iff_prefix, List.isPrefixOf_iff_prefix]
  constructor
  · intro begins
    rcases List.prefix_or_prefix_of_prefix begins (List.prefix_append front (c :: back)) with
      within | ⟨more, rfl⟩
    · exact within
    · cases more with
      | nil => simp
      | cons d more =>
          -- Then `front` is the beginning of the word, and `c` stands in it.
          have same := (List.prefix_append_right_inj front).mp begins
          obtain ⟨rfl, _⟩ := List.cons_prefix_cons.mp same
          obtain ⟨first, rest, rfl⟩ := List.exists_cons_of_ne_nil nonempty
          rcases confined with short | elsewhere | absent
          · simp only [List.length_append, List.length_cons] at short
            omega
          · exact absurd rfl elsewhere
          · exact absurd (by simp) absent
  · intro begins
    exact begins.trans (List.prefix_append front (c :: back))

theorem Pattern.matchLength_append {pattern : Pattern} {c : Char} (nonempty : front ≠ [])
    (confined : pattern.Confined front c) :
    pattern.matchLength (front ++ c :: back) = pattern.matchLength front := by
  cases pattern with
  | word characters =>
      rw [matchLength, matchLength, isPrefixOf_append_of_confined nonempty confined]
  | run sort => rw [matchLength, matchLength, takeWhile_append_of_confined confined]

theorem longest?_append {c : Char} (nonempty : front ≠ [])
    (confined : ∀ other ∈ kinds, other.pattern.Confined front c) (back : List Char) :
    longest? (front ++ c :: back) kinds = longest? front kinds := by
  induction kinds with
  | nil => rfl
  | cons first kinds ih =>
      obtain ⟨least, others⟩ := List.forall_mem_cons.mp confined
      rw [longest?, longest?, ih others, Pattern.matchLength_append nonempty least]

/-! ## Texts that are cut without a rest -/

/-- A piece of text with the kind it was recognised as. -/
structure Lexeme where
  kind : Kind
  text : List Char
deriving DecidableEq

/-- Whether a lexeme may stand in a script: a number must not be too large. -/
def Lexeme.isAdmissible (lexeme : Lexeme) : Bool :=
  match lexeme.kind with
  | .number => decimal lexeme.text ≤ maxNumber
  | _ => true

/-- The token of a lexeme. Blanks have none. -/
def Lexeme.token? (lexeme : Lexeme) : Option Token :=
  match lexeme.kind with
  | .blank => none
  | .number => some (.number (decimal lexeme.text))
  | .ident => some (.ident (String.ofList lexeme.text))
  | .fixed token => some token

/-- Cut a text into lexemes from the left, as far as possible; the second part
is the text that remains. -/
def munch (text : List Char) : List Lexeme × List Char :=
  match found : longest? text lexicon with
  | none => ([], text)
  | some (kind, length) =>
      have := longest?_bounds found
      let lexeme : Lexeme := { kind, text := text.take length }
      if lexeme.isAdmissible then
        let (lexemes, rest) := munch (text.drop length)
        (lexeme :: lexemes, rest)
      else ([], text)
termination_by text.length

theorem munch_of_longest?_eq_none (unmatched : longest? text lexicon = none) :
    munch text = ([], text) := by
  fun_cases munch text with
  | case1 => rfl
  | case2 other most found =>
      rw [unmatched] at found
      cases found
  | case3 => rfl

theorem munch_of_longest? (found : longest? text lexicon = some (kind, length)) :
    munch text =
      if (Lexeme.mk kind (text.take length)).isAdmissible then
        (⟨kind, text.take length⟩ :: (munch (text.drop length)).1, (munch (text.drop length)).2)
      else ([], text) := by
  fun_cases munch text with
  | case1 unmatched =>
      rw [unmatched] at found
      cases found
  | case2 other most again bounds lexeme admissible lexemes rest cut =>
      rw [found] at again
      cases again
      rw [if_pos admissible, cut]
  | case3 other most again bounds lexeme inadmissible =>
      rw [found] at again
      cases again
      rw [if_neg inadmissible]

/-- The tokens of a text in normal form, if it can be cut. -/
def lex? (text : List Char) : Option (List Token) :=
  match munch text with
  | (lexemes, []) => some (lexemes.filterMap Lexeme.token?)
  | _ => none

theorem lex?_nil : lex? [] = some [] := by decide +kernel

theorem lex?_eq_none_of_unmatched (nonempty : text ≠ [])
    (unmatched : longest? text lexicon = none) : lex? text = none := by
  obtain ⟨first, rest, rfl⟩ := List.exists_cons_of_ne_nil nonempty
  rw [lex?, munch_of_longest?_eq_none unmatched]

/-- The tokens of a text, one lexeme at a time. -/
theorem lex?_of_longest? (found : longest? text lexicon = some (kind, length)) :
    lex? text =
      if (Lexeme.mk kind (text.take length)).isAdmissible then
        (lex? (text.drop length)).map ((Lexeme.mk kind (text.take length)).token?.toList ++ ·)
      else none := by
  have step := munch_of_longest? found
  by_cases admissible : (Lexeme.mk kind (text.take length)).isAdmissible = true
  · rw [if_pos admissible] at step
    rw [if_pos admissible, lex?, lex?, step]
    rcases munch (text.drop length) with ⟨lexemes, _ | ⟨first, rest⟩⟩
    · cases token : (Lexeme.mk kind (text.take length)).token? <;> simp [token]
    · rfl
  · rw [if_neg admissible] at step ⊢
    have bounds := longest?_bounds found
    cases text with
    | nil =>
        rw [List.length_nil] at bounds
        omega
    | cons first rest => rw [lex?, step]

/-- A lexeme is cut off from the front of a text. -/
theorem lex?_append_of_longest? {rest : List Char}
    (found : longest? (text ++ rest) lexicon = some (kind, text.length))
    (admissible : (Lexeme.mk kind text).isAdmissible = true) :
    lex? (text ++ rest) = (lex? rest).map ((Lexeme.mk kind text).token?.toList ++ ·) := by
  rw [lex?_of_longest? found, List.take_left, List.drop_left, if_pos admissible]

/-! ## The counters of the lexer -/

/-- The line behind a lexeme. -/
def Lexeme.lineAfter (lexeme : Lexeme) (line : Nat) : Nat :=
  if lexeme.kind = .fixed .newline then line + 1 else line

/-- The column behind a lexeme. -/
def Lexeme.columnAfter (lexeme : Lexeme) (column : Nat) : Nat :=
  if lexeme.kind = .fixed .newline then 1 else column + lexeme.text.length

variable {line column : Nat}

theorem Lexed.map_prepend_prepend (front back : List Token) (result : Except LexError Lexed) :
    (result.map (Lexed.prepend back)).map (Lexed.prepend front) =
      result.map (Lexed.prepend (front ++ back)) := by
  cases result with
  | error error => rfl
  | ok lexed => exact congrArg Except.ok (by simp [Lexed.prepend])

theorem scan_nil : scan line column [] = .ok { tokens := [], lines := line } := by
  unfold scan
  rfl

theorem scan_of_unmatched {first : Char} {rest : List Char}
    (unmatched : longest? (first :: rest) lexicon = none) :
    scan line column (first :: rest) = .error (.unexpectedChar first line column) := by
  unfold scan
  split
  · rfl
  · next found =>
      rw [unmatched] at found
      cases found

theorem number?_eq (lexeme : List Char) :
    number? lexeme =
      if (Lexeme.mk .number lexeme).isAdmissible then some (decimal lexeme) else none := by
  rw [number?, Lexeme.isAdmissible]
  by_cases small : decimal lexeme ≤ maxNumber
  · rw [if_pos small, if_pos (decide_eq_true small)]
  · rw [if_neg small, if_neg (by simpa using small)]

/-- One turn of the lexer: it cuts off a lexeme and moves its counters behind it, or finds a
number too large. -/
theorem scan_of_longest? (found : longest? text lexicon = some (kind, length)) :
    scan line column text =
      if (Lexeme.mk kind (text.take length)).isAdmissible then
        (scan ((Lexeme.mk kind (text.take length)).lineAfter line)
          ((Lexeme.mk kind (text.take length)).columnAfter column) (text.drop length)).map
            (.prepend (Lexeme.mk kind (text.take length)).token?.toList)
      else .error (.numberTooLarge (String.ofList (text.take length)) line) := by
  cases text with
  | nil =>
      have bounds := longest?_bounds found
      rw [List.length_nil] at bounds
      omega
  | cons first later =>
      conv => lhs; unfold scan
      split
      · next unmatched =>
          rw [unmatched] at found
          cases found
      · next other most again =>
          rw [found] at again
          cases again
          generalize (first :: later).take length = lexeme
          generalize (first :: later).drop length = rest
          cases kind with
          | blank =>
              change scan line (column + lexeme.length) rest =
                (scan line (column + lexeme.length) rest).map (.prepend [])
              cases scan line (column + lexeme.length) rest <;> rfl
          | ident => rfl
          | number =>
              simp only [number?_eq]
              by_cases admissible : (Lexeme.mk .number lexeme).isAdmissible = true
              · rw [if_pos admissible, if_pos admissible]
                rfl
              · rw [if_neg admissible, if_neg admissible]
          | fixed token => cases token <;> rfl

theorem Lexeme.lineAfter_eq (lexeme : Lexeme) (line : Nat) :
    lexeme.lineAfter line = line + lexeme.token?.toList.count .newline := by
  obtain ⟨kind, text⟩ := lexeme
  cases kind with
  | fixed token => cases token <;> rfl
  | _ => rfl

theorem toOption_map {ε α β : Type} (result : Except ε α) (f : α → β) :
    (result.map f).toOption = result.toOption.map f := by
  cases result <;> rfl

/-- The tokens do not depend on where the counters start, and the line counter moves on by one
for each line break among them. -/
theorem toOption_scan (line column : Nat) (text : List Char) :
    (scan line column text).toOption =
      (lex? text).map fun tokens => { tokens, lines := line + tokens.count .newline } := by
  revert line column
  fun_induction munch text with
  | case1 text unmatched =>
      intro line column
      cases text with
      | nil =>
          rw [scan_nil, lex?_nil]
          rfl
      | cons first rest =>
          rw [scan_of_unmatched unmatched, lex?_eq_none_of_unmatched (by simp) unmatched]
          rfl
  | case2 text kind length found bounds lexeme admissible lexemes rest _ ih =>
      intro line column
      rw [scan_of_longest? found, lex?_of_longest? found, if_pos admissible, if_pos admissible,
        toOption_map, ih, Option.map_map, Option.map_map, Lexeme.lineAfter_eq]
      refine Option.map_congr fun tokens _ => ?_
      simp only [Function.comp_apply, Lexed.prepend, List.count_append, Nat.add_assoc]
  | case3 text kind length found bounds lexeme inadmissible =>
      intro line column
      rw [scan_of_longest? found, lex?_of_longest? found, if_neg inadmissible,
        if_neg inadmissible]
      rfl

theorem tokenize_eq_ok_iff {text : String} {tokens : List Token} :
    tokenize text = .ok tokens ↔ lex? (Unicode.nfkc text.toList) = some tokens := by
  have cut : (tokenize text).toOption = lex? (Unicode.nfkc text.toList) := by
    rw [tokenize, lex, toOption_map, toOption_scan, Option.map_map]
    exact Option.map_id'
  rw [← cut]
  cases tokenize text <;> simp [Except.toOption]

/-- Every token of a text is that of the longest match at some place of it, which may
stand in a script. -/
theorem exists_longest?_of_mem_lex? {token : Token} (tokens : List Token)
    (cut : lex? text = some tokens) (present : token ∈ tokens) :
    ∃ rest kind length, rest <:+ text ∧ longest? rest lexicon = some (kind, length) ∧
      (Lexeme.mk kind (rest.take length)).isAdmissible = true ∧
      (Lexeme.mk kind (rest.take length)).token? = some token := by
  revert tokens
  fun_induction munch text with
  | case1 text unmatched =>
      intro tokens cut present
      by_cases empty : text = []
      · rw [empty, lex?_nil] at cut
        cases cut
        cases present
      · rw [lex?_eq_none_of_unmatched empty unmatched] at cut
        cases cut
  | case2 text kind length found bounds lexeme admissible lexemes rest _ ih =>
      intro tokens cut present
      rw [lex?_of_longest? found, if_pos admissible] at cut
      obtain ⟨more, later, rfl⟩ := Option.map_eq_some_iff.mp cut
      rcases List.mem_append.mp present with here | further
      · exact ⟨text, kind, length, List.suffix_refl text, found, admissible,
          Option.mem_toList.mp here⟩
      · obtain ⟨place, other, most, behind, matched⟩ := ih more later further
        exact ⟨place, other, most, behind.trans (List.drop_suffix length text), matched⟩
  | case3 text kind length found bounds lexeme inadmissible =>
      intro tokens cut
      rw [lex?_of_longest? found, if_neg inadmissible] at cut
      cases cut

/-! ## Kinds with a fixed text -/

/-- The tokens with a text of their own. -/
def fixedTokens : List Token :=
  [.newline, .dash] ++ Rule.all.map .rule
    ++ [.lparen, .rparen, .op .and, .op .or, .op .implies, .not]

theorem fixed_mem_lexicon : ∀ token ∈ fixedTokens, Kind.fixed token ∈ lexicon := by
  decide +kernel

/-- A kind of the lexicon is a run of characters of one sort or has a fixed text. -/
theorem forall_mem_lexicon {holds : Kind → Prop} (blank : holds .blank) (number : holds .number)
    (ident : holds .ident) (fixed : ∀ token ∈ fixedTokens, holds (.fixed token)) :
    ∀ kind ∈ lexicon, holds kind := by
  have cover : ∀ kind ∈ lexicon,
      kind ∈ [.blank, .number, .ident] ++ fixedTokens.map Kind.fixed := by decide +kernel
  intro kind present
  rcases List.mem_append.mp (cover kind present) with run | word
  · simp only [List.mem_cons, List.not_mem_nil, or_false] at run
    rcases run with rfl | rfl | rfl
    · exact blank
    · exact number
    · exact ident
  · obtain ⟨token, listed, rfl⟩ := List.mem_map.mp word
    exact fixed token listed

/-- Whatever stands behind the text, no match of the pattern that starts with it goes on
there. -/
def Pattern.isConfined (front : List Char) : Pattern → Bool
  | word characters => characters.length ≤ front.length || characters.head? ≠ front.head?
  | run sort => !front.all sort

theorem Pattern.confined_of_isConfined {pattern : Pattern} (confined : pattern.isConfined front)
    (c : Char) : pattern.Confined front c := by
  cases pattern with
  | word characters =>
      rcases Bool.or_eq_true_iff.mp confined with short | elsewhere
      · exact .inl (of_decide_eq_true short)
      · exact .inr (.inl (of_decide_eq_true elsewhere))
  | run sort => exact .inr (by simpa [isConfined] using confined)

theorem longest?_append_of_isConfined (nonempty : front ≠ [])
    (confined : ∀ other ∈ kinds, other.pattern.isConfined front) (back : List Char) :
    longest? (front ++ back) kinds = longest? front kinds := by
  cases back with
  | nil => rw [List.append_nil]
  | cons c back =>
      have confined : ∀ other ∈ kinds, other.pattern.Confined front c := fun other listed =>
        Pattern.confined_of_isConfined (confined other listed) c
      exact longest?_append nonempty confined back

/-- The tokens that are cut off whatever stands behind them. -/
def symbols : List Token := [.newline, .dash, .lparen, .rparen, .op .and, .op .implies, .not]

theorem lex?_symbol {token : Token} (symbol : token ∈ symbols) (rest : List Char) :
    lex? (token.spelling.toList ++ rest) = (lex? rest).map (token :: ·) := by
  have confined : ∀ token ∈ symbols, token.spelling.toList ≠ [] ∧
      (∀ other ∈ lexicon, other.pattern.isConfined token.spelling.toList) ∧
      longest? token.spelling.toList lexicon =
        some (.fixed token, token.spelling.toList.length) := by decide +kernel
  obtain ⟨nonempty, confined, alone⟩ := confined token symbol
  have found := (longest?_append_of_isConfined nonempty confined rest).trans alone
  exact lex?_append_of_longest? found rfl

/-! ## Line breaks -/

/-- No match crosses a line break. -/
theorem confined_newline (front : List Char) :
    ∀ kind ∈ lexicon, kind.pattern.Confined front '\n' := by
  have absent : ∀ token ∈ fixedTokens, '\n' ∉ token.spelling.toList.tail := by decide +kernel
  refine forall_mem_lexicon (.inl ?_) (.inl ?_) (.inl ?_) ?_
  · decide
  · decide
  · decide
  · intro token listed
    exact .inr (.inr (absent token listed))

/-- A token for a line break is cut off from a text that starts with one. -/
theorem newline_mem_of_longest? (found : longest? text lexicon = some (.fixed .newline, length)) :
    '\n' ∈ text := by
  have wins := wins_of_longest? found
  have matched : (Pattern.word ['\n']).matchLength text = length := wins.matched
  have positive := wins.positive
  rw [Pattern.matchLength] at matched
  split at matched
  · next begins =>
      exact (List.isPrefixOf_iff_prefix.mp begins).subset List.mem_cons_self
  · omega

/-- A text without line breaks has no tokens for them. -/
theorem newline_not_mem_of_lex? {tokens : List Token} (free : '\n' ∉ text)
    (cut : lex? text = some tokens) : Token.newline ∉ tokens := by
  intro present
  obtain ⟨rest, kind, length, behind, found, _, token⟩ :=
    exists_longest?_of_mem_lex? tokens cut present
  cases kind with
  | fixed named =>
      cases token
      exact free (behind.subset (newline_mem_of_longest? found))
  | _ => cases token

/-- A line break divides a text into parts that are cut on their own. -/
theorem lex?_append_newline (front back : List Char) :
    lex? (front ++ '\n' :: back) =
      (lex? front).bind fun tokens => (lex? back).map (tokens ++ .newline :: ·) := by
  fun_induction munch front with
  | case1 front unmatched =>
      by_cases nonempty : front = []
      · subst nonempty
        rw [lex?_nil, Option.bind_some]
        have listed : Token.newline ∈ symbols := by decide
        exact lex?_symbol listed back
      · have whole := (longest?_append nonempty (confined_newline front) back).trans unmatched
        rw [lex?_eq_none_of_unmatched nonempty unmatched,
          lex?_eq_none_of_unmatched (by simp) whole]
        rfl
  | case2 front kind length found bounds lexeme admissible lexemes rest cut ih =>
      have nonempty : front ≠ [] := List.ne_nil_of_length_pos (by omega)
      have whole := (longest?_append nonempty (confined_newline front) back).trans found
      rw [lex?_of_longest? whole, lex?_of_longest? found,
        List.take_append_of_le_length bounds.2, List.drop_append_of_le_length bounds.2,
        if_pos admissible, if_pos admissible, ih]
      cases lex? (front.drop length) with
      | none => rfl
      | some tokens =>
          cases lex? back with
          | none => rfl
          | some more => simp
  | case3 front kind length found bounds lexeme inadmissible =>
      have nonempty : front ≠ [] := List.ne_nil_of_length_pos (by omega)
      have whole := (longest?_append nonempty (confined_newline front) back).trans found
      rw [lex?_of_longest? whole, lex?_of_longest? found,
        List.take_append_of_le_length bounds.2, if_neg inadmissible, if_neg inadmissible]
      rfl

/-! ## Reading a text -/

section Reading

variable {α : Type} {read : List Token → Except ParseError α} {script : String}

/-- What can come of a text: it cannot be cut, its tokens are refused, or they are read. -/
theorem parseWith_cases (read : List Token → Except ParseError α) (script : String) :
    (∃ error, tokenize script = .error error ∧ parseWith read script = .error (.lex error)) ∨
    (∃ tokens error, tokenize script = .ok tokens ∧ read tokens = .error error ∧
      parseWith read script = .error (.parse error)) ∨
    ∃ tokens result, tokenize script = .ok tokens ∧ read tokens = .ok result ∧
      parseWith read script = .ok result := by
  cases cut : tokenize script with
  | error error =>
      refine .inl ⟨error, rfl, ?_⟩
      rw [parseWith, cut]
      rfl
  | ok tokens =>
      have step : parseWith read script = (read tokens).mapError .parse := by
        rw [parseWith, cut]
        rfl
      cases answer : read tokens with
      | error error =>
          rw [answer] at step
          exact .inr (.inl ⟨tokens, error, rfl, answer, step⟩)
      | ok result =>
          rw [answer] at step
          exact .inr (.inr ⟨tokens, result, rfl, answer, step⟩)

theorem parseWith_eq_ok_iff {result : α} :
    parseWith read script = .ok result ↔
      ∃ tokens, lex? (Unicode.nfkc script.toList) = some tokens ∧ read tokens = .ok result := by
  simp only [← tokenize_eq_ok_iff]
  rcases parseWith_cases read script with
    ⟨error, cut, parsed⟩ | ⟨tokens, error, cut, answer, parsed⟩ |
    ⟨tokens, other, cut, answer, parsed⟩
  · simp [parsed, cut]
  · simp [parsed, cut, answer]
  · simp [parsed, cut, answer]

/-- Reading a text refuses no step. -/
theorem parseWith_ne_refused (failure : Failure) :
    parseWith read script ≠ .error (.refused failure) := by
  intro refused
  rcases parseWith_cases read script with
    ⟨error, _, parsed⟩ | ⟨tokens, error, _, _, parsed⟩ | ⟨tokens, other, _, _, parsed⟩
  all_goals cases refused.symm.trans parsed

end Reading

end ProofScript
