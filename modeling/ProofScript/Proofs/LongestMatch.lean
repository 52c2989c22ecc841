import Mathlib.Data.List.DropRight
import ProofScript.Proofs.Words

/-!
# A text is cut by longest matches

What it means to cut a text, without saying how it is done. A pattern is a set of texts
(`Pattern.Accepts`). A lexeme leads a text if it belongs to a pattern, no longer beginning of
the text belongs to any, and no pattern listed before its own has it (`Lexeme.Leads`). To cut a
text is to cut leading lexemes off it until it halts: nothing is left, no pattern has any
beginning of what is left, or a number too large to be one stands there (`Cutting`).

There is one way to cut a text, and it is that of `munch` (`cutting_iff_munch`). The lexer
goes along it with its counters. One turn moves them behind the lexeme that it cuts off
(`CountsUpTo.append`), so that they stand behind all lexemes where the cutting halts
(`Cutting.scan_eq`). The tokens of a text and the place of an error are thus those of its
cutting (`text_cut_by_longest_match`).
-/

namespace ProofScript

open List (Forall₂)

/-! ## Patterns as sets of texts -/

/-- The texts that belong to a pattern. -/
def Pattern.Accepts : Pattern → List Char → Prop
  | word characters, text => text = characters
  | run sort, text => text ≠ [] ∧ ∀ c ∈ text, sort c = true

variable {text front rest more : List Char} {pattern : Pattern} {c : Char}

theorem take_length_takeWhile (sort : Char → Bool) (text : List Char) :
    text.take (text.takeWhile sort).length = text.takeWhile sort :=
  (List.prefix_iff_eq_take.mp (List.takeWhile_prefix sort)).symm

/-- What a pattern matches belongs to it. -/
theorem Pattern.accepts_take (positive : 0 < pattern.matchLength text) :
    pattern.Accepts (text.take (pattern.matchLength text)) := by
  cases pattern with
  | word characters =>
      rw [matchLength] at positive ⊢
      split at positive
      · next begins =>
          rw [if_pos begins]
          exact (List.prefix_iff_eq_take.mp (List.isPrefixOf_iff_prefix.mp begins)).symm
      · omega
  | run sort =>
      rw [matchLength, take_length_takeWhile]
      exact ⟨List.ne_nil_of_length_pos positive, List.all_eq_true.mp List.all_takeWhile⟩

/-- No beginning of a text that belongs to a pattern is longer than what the pattern
matches. -/
theorem Pattern.Accepts.length_le (accepts : pattern.Accepts front) (begins : front <+: text) :
    front.length ≤ pattern.matchLength text := by
  cases pattern with
  | word characters =>
      cases accepts
      rw [matchLength, if_pos (List.isPrefixOf_iff_prefix.mpr begins)]
  | run sort =>
      obtain ⟨back, rfl⟩ := begins
      rw [matchLength, List.takeWhile_append_of_pos accepts.2, List.length_append]
      exact Nat.le_add_right _ _

/-- No pattern has any beginning of the text. -/
def Unmatched (text : List Char) : Prop :=
  ∀ kind ∈ lexicon, ∀ front, front <+: text → ¬kind.pattern.Accepts front

theorem not_accepts_nil : ∀ kind ∈ lexicon, ¬kind.pattern.Accepts [] := by
  have spelled : ∀ token ∈ fixedTokens, token.spelling.toList ≠ [] := by decide +kernel
  refine forall_mem_lexicon (fun empty => empty.1 rfl) (fun empty => empty.1 rfl)
    (fun empty => empty.1 rfl) ?_
  intro token listed empty
  exact spelled token listed empty.symm

theorem longest?_eq_none_iff_unmatched : longest? text lexicon = none ↔ Unmatched text := by
  rw [longest?_eq_none_iff]
  constructor
  · intro none kind listed front begins accepts
    have short := accepts.length_le begins
    rw [none kind listed, Nat.le_zero, List.length_eq_zero_iff] at short
    rw [short] at accepts
    exact not_accepts_nil kind listed accepts
  · intro unmatched kind listed
    by_contra positive
    have accepts := Pattern.accepts_take (Nat.pos_of_ne_zero positive)
    exact unmatched kind listed _ (List.take_prefix _ _) accepts

/-! ## Lexemes at the front of a text -/

/-- The lexeme at the front of a text: the longest beginning of it that belongs to any pattern,
with the kind that is listed first among those whose pattern has it. -/
structure Lexeme.Leads (lexeme : Lexeme) (text : List Char) : Prop where
  begins : lexeme.text <+: text
  nonempty : lexeme.text ≠ []
  accepted : lexeme.kind.pattern.Accepts lexeme.text
  longest : ∀ kind ∈ lexicon, ∀ front, front <+: text → kind.pattern.Accepts front →
    front.length ≤ lexeme.text.length
  earliest : ∃ before behind, lexicon = before ++ lexeme.kind :: behind ∧
    ∀ kind ∈ before, ¬kind.pattern.Accepts lexeme.text

variable {lexeme : Lexeme} {kind : Kind}

/-- Among patterns that match no more than `front`, those that match less are those that do not
have it. -/
theorem Pattern.matchLength_lt_iff (begins : front <+: text) (nonempty : front ≠ [])
    (most : pattern.matchLength text ≤ front.length) :
    pattern.matchLength text < front.length ↔ ¬pattern.Accepts front := by
  constructor
  · intro less accepts
    have least := accepts.length_le begins
    omega
  · intro rejected
    refine Nat.lt_of_le_of_ne most fun even => rejected ?_
    have positive := List.length_pos_iff.mpr nonempty
    have accepts := Pattern.accepts_take (even ▸ positive)
    rwa [even, ← List.prefix_iff_eq_take.mp begins] at accepts

/-- No pattern matches more than the lexeme: what it matches is a beginning that belongs to
it. -/
theorem Lexeme.Leads.matchLength_le (leads : lexeme.Leads text) :
    ∀ kind ∈ lexicon, kind.pattern.matchLength text ≤ lexeme.text.length := by
  intro kind listed
  by_cases positive : 0 < kind.pattern.matchLength text
  · have bound := leads.longest kind listed _ (List.take_prefix _ _)
      (Pattern.accepts_take positive)
    rwa [List.length_take, Nat.min_eq_left (Pattern.matchLength_le _ text)] at bound
  · omega

theorem Lexeme.Leads.wins (leads : lexeme.Leads text) :
    Wins text lexicon lexeme.kind lexeme.text.length := by
  obtain ⟨before, behind, divided, others⟩ := leads.earliest
  have most := leads.matchLength_le
  rw [divided] at most
  refine ⟨List.length_pos_iff.mpr leads.nonempty, ?_, before, behind, divided, ?_, ?_⟩
  · have own := most lexeme.kind (by simp)
    exact Nat.le_antisymm own (leads.accepted.length_le leads.begins)
  · intro kind earlier
    have bound := most kind (by simp [earlier])
    exact (Pattern.matchLength_lt_iff leads.begins leads.nonempty bound).mpr (others kind earlier)
  · intro kind later
    exact most kind (by simp [later])

theorem Lexeme.leads_of_wins (begins : lexeme.text <+: text)
    (wins : Wins text lexicon lexeme.kind lexeme.text.length) : lexeme.Leads text := by
  have nonempty := List.ne_nil_of_length_pos wins.positive
  obtain ⟨before, behind, divided, shorter, _⟩ := wins.place
  refine ⟨begins, nonempty, ?_, ?_, before, behind, divided, ?_⟩
  · have accepts := Pattern.accepts_take (wins.matched ▸ wins.positive)
    rwa [wins.matched, ← List.prefix_iff_eq_take.mp begins] at accepts
  · intro kind listed other beginning accepts
    exact (accepts.length_le beginning).trans (wins.matchLength_le kind listed)
  · intro kind earlier
    have less := shorter kind earlier
    exact (Pattern.matchLength_lt_iff begins nonempty less.le).mp less

/-- The lexeme at the front of a text is what `longest?` finds there. -/
theorem Lexeme.leads_iff :
    lexeme.Leads text ↔ lexeme.text <+: text ∧
      longest? text lexicon = some (lexeme.kind, lexeme.text.length) := by
  rw [longest?_eq_some_iff]
  constructor
  · intro leads
    exact ⟨leads.begins, leads.wins⟩
  · intro found
    exact Lexeme.leads_of_wins found.1 found.2

/-! ## Numbers -/

/-- A lexeme of digits is a number. -/
theorem Lexeme.Leads.kind_eq_number (leads : lexeme.Leads text)
    (digits : ∀ d ∈ lexeme.text, d.isDigit = true) : lexeme.kind = .number := by
  obtain ⟨begins, found⟩ := Lexeme.leads_iff.mp leads
  obtain ⟨first, later, spelled⟩ := List.exists_cons_of_ne_nil leads.nonempty
  obtain ⟨back, rfl⟩ := begins
  have digit : first.isDigit = true := digits first (by simp [spelled])
  rw [spelled, List.cons_append, longest?_of_isDigit digit] at found
  exact (Prod.mk.inj (Option.some.inj found)).1.symm

theorem le_maxNumber_iff {value : Nat} : value ≤ maxNumber ↔ value < UInt64.size := by
  have bound : maxNumber + 1 = UInt64.size := by decide
  omega

/-- A lexeme may stand in a script unless it is a run of digits for too large a number. -/
theorem Lexeme.Leads.isAdmissible_iff (leads : lexeme.Leads text) :
    lexeme.isAdmissible = true ↔
      ((∀ d ∈ lexeme.text, d.isDigit = true) → decimal lexeme.text < UInt64.size) := by
  rcases lexeme with ⟨kind, characters⟩
  by_cases number : kind = .number
  · subst number
    have digits : ∀ d ∈ characters, d.isDigit = true := leads.accepted.2
    simp only [Lexeme.isAdmissible, decide_eq_true_eq, le_maxNumber_iff]
    exact ⟨fun bound _ => bound, fun bound => bound digits⟩
  · have admissible : (Lexeme.mk kind characters).isAdmissible = true := by
      cases kind with
      | number => exact absurd rfl number
      | _ => rfl
    exact iff_of_true admissible fun digits => absurd (leads.kind_eq_number digits) number

/-! ## Cuttings -/

/-- Nothing more can be cut off: the text is at its end, no pattern has any beginning of it,
or it goes on with a number that is too large. -/
inductive Halts : List Char → Prop
  | exhausted : Halts []
  | unmatched {c : Char} {rest : List Char} : Unmatched (c :: rest) → Halts (c :: rest)
  | tooLarge {rest : List Char} :
    UInt64.size ≤ decimal (rest.takeWhile Char.isDigit) → Halts rest

/-- The text consists of the lexemes and the rest. Each lexeme leads what is left at its place,
and is not too large if it is a number; the rest is where nothing more can be cut off. -/
inductive Cutting : List Char → List Lexeme → List Char → Prop
  | halt {rest : List Char} : Halts rest → Cutting rest [] rest
  | cut {lexeme : Lexeme} {more : List Char} {lexemes : List Lexeme} {rest : List Char} :
    lexeme.Leads (lexeme.text ++ more) →
    ((∀ d ∈ lexeme.text, d.isDigit = true) → decimal lexeme.text < UInt64.size) →
    Cutting more lexemes rest → Cutting (lexeme.text ++ more) (lexeme :: lexemes) rest

variable {lexemes : List Lexeme}

theorem Cutting.flatMap_text (cutting : Cutting text lexemes rest) :
    lexemes.flatMap Lexeme.text ++ rest = text := by
  induction cutting with
  | halt => rfl
  | cut _ _ _ ih => rw [List.flatMap_cons, List.append_assoc, ih]

theorem exists_digit_of_tooLarge (tooLarge : UInt64.size ≤ decimal (rest.takeWhile Char.isDigit)) :
    ∃ first later, rest = first :: later ∧ first.isDigit = true := by
  have empty : ¬UInt64.size ≤ decimal [] := by decide
  cases rest with
  | nil => exact absurd tooLarge empty
  | cons first later =>
      refine ⟨first, later, rfl, ?_⟩
      by_contra other
      rw [List.takeWhile_cons_of_neg other] at tooLarge
      exact empty tooLarge

theorem Halts.munch_eq (halts : Halts rest) : munch rest = ([], rest) := by
  cases halts with
  | exhausted => exact munch_of_longest?_eq_none (by decide +kernel)
  | unmatched unmatched =>
      exact munch_of_longest?_eq_none (longest?_eq_none_iff_unmatched.mpr unmatched)
  | tooLarge tooLarge =>
      obtain ⟨first, later, rfl, digit⟩ := exists_digit_of_tooLarge tooLarge
      rw [munch_of_longest? (longest?_of_isDigit digit later), take_length_takeWhile, if_neg]
      simp only [Lexeme.isAdmissible, decide_eq_true_eq, le_maxNumber_iff]
      omega

theorem scan_of_tooLarge {line column : Nat}
    (tooLarge : UInt64.size ≤ decimal (rest.takeWhile Char.isDigit)) :
    scan line column rest =
      .error (.numberTooLarge (String.ofList (rest.takeWhile Char.isDigit)) line) := by
  obtain ⟨first, later, rfl, digit⟩ := exists_digit_of_tooLarge tooLarge
  rw [scan_of_longest? (longest?_of_isDigit digit later), take_length_takeWhile, if_neg]
  simp only [Lexeme.isAdmissible, decide_eq_true_eq, le_maxNumber_iff]
  omega

/-- Where `munch` finds a match and does not take it, a number is too large. -/
theorem halts_of_not_isAdmissible {length : Nat}
    (found : longest? text lexicon = some (kind, length))
    (inadmissible : ¬(Lexeme.mk kind (text.take length)).isAdmissible = true) : Halts text := by
  cases kind with
  | number =>
      have matched : (text.takeWhile Char.isDigit).length = length :=
        (wins_of_longest? found).matched
      rw [← matched, take_length_takeWhile] at inadmissible
      simp only [Lexeme.isAdmissible, decide_eq_true_eq, le_maxNumber_iff] at inadmissible
      exact .tooLarge (by omega)
  | _ => exact absurd rfl inadmissible

theorem cutting_munch (text : List Char) : Cutting text (munch text).1 (munch text).2 := by
  fun_induction munch text with
  | case1 text unmatched =>
      cases text with
      | nil => exact .halt .exhausted
      | cons first later =>
          exact .halt (.unmatched (longest?_eq_none_iff_unmatched.mp unmatched))
  | case2 text kind length found bounds lexeme admissible lexemes rest cut ih =>
      have whole : lexeme.text ++ text.drop length = text := List.take_append_drop length text
      have size : lexeme.text.length = length := List.length_take_of_le bounds.2
      have leads : lexeme.Leads (lexeme.text ++ text.drop length) := by
        rw [Lexeme.leads_iff, size, whole]
        exact ⟨List.take_prefix length text, found⟩
      rw [cut] at ih
      have step := Cutting.cut leads (leads.isAdmissible_iff.mp admissible) ih
      rwa [whole] at step
  | case3 text kind length found bounds lexeme inadmissible =>
      exact .halt (halts_of_not_isAdmissible found inadmissible)

/-- There is one way to cut a text. -/
theorem cutting_iff_munch : Cutting text lexemes rest ↔ munch text = (lexemes, rest) := by
  constructor
  · intro cutting
    induction cutting with
    | halt halts => exact halts.munch_eq
    | @cut lexeme more lexemes rest leads bound _ ih =>
        obtain ⟨_, found⟩ := Lexeme.leads_iff.mp leads
        rw [munch_of_longest? found, List.take_left, List.drop_left, ih,
          if_pos (leads.isAdmissible_iff.mpr bound)]
  · intro cut
    have cutting := cutting_munch text
    rwa [cut] at cutting

/-! ## Characters at which nothing starts -/

/-- The lexemes of one character that is neither white space, a digit nor a letter. -/
def marks : List Char := ['-', '(', ')', '&', '~']

theorem Unmatched.sort_eq_false {sort : Char → Bool} (unmatched : Unmatched (c :: more))
    (kind : Kind) (listed : kind ∈ lexicon) (runs : kind.pattern = .run sort) :
    sort c = false := by
  by_contra other
  refine unmatched kind listed [c] ⟨more, rfl⟩ ?_
  rw [runs]
  exact ⟨List.cons_ne_nil c [], by simpa using other⟩

theorem Unmatched.spelling_not_prefix {token : Token} (unmatched : Unmatched text)
    (listed : token ∈ fixedTokens) : ¬token.spelling.toList <+: text := by
  intro begins
  exact unmatched _ (fixed_mem_lexicon token listed) _ begins rfl

theorem Pattern.not_accepts_of_sort_eq_false {sort : Char → Bool} (other : sort c = false)
    (begins : front <+: c :: more) : ¬(Pattern.run sort).Accepts front := by
  intro accepts
  obtain ⟨first, later, rfl⟩ := List.exists_cons_of_ne_nil accepts.1
  obtain ⟨rfl, _⟩ := List.cons_prefix_cons.mp begins
  rw [accepts.2 first List.mem_cons_self] at other
  cases other

/-- No pattern has a beginning of a text exactly if its first character is no white space, no
digit, no lower-case letter and no mark, and no arrow stands there. -/
theorem unmatched_iff :
    Unmatched (c :: more) ↔
      Unicode.isWhiteSpace c = false ∧ c.isDigit = false ∧ c.isLower = false ∧ c ∉ marks ∧
        ¬(c = '=' ∧ more.head? = some '>') := by
  constructor
  · intro unmatched
    have blank : isBlank c = false := unmatched.sort_eq_false .blank (by decide) rfl
    have digit : c.isDigit = false := unmatched.sort_eq_false .number (by decide) rfl
    have lower : c.isLower = false := unmatched.sort_eq_false .ident (by decide) rfl
    have single : ('\n' :: marks).all
        (fun d => fixedTokens.any (·.spelling.toList = [d])) = true := by decide +kernel
    have mark : c ∉ '\n' :: marks := by
      intro present
      obtain ⟨token, listed, spelled⟩ := List.any_eq_true.mp (List.all_eq_true.mp single c present)
      refine unmatched.spelling_not_prefix listed ?_
      rw [of_decide_eq_true spelled]
      exact ⟨more, rfl⟩
    rw [List.mem_cons, not_or] at mark
    obtain ⟨newline, mark⟩ := mark
    refine ⟨?_, digit, lower, mark, ?_⟩
    · rw [isBlank, decide_eq_true newline, Bool.and_true] at blank
      exact blank
    · rintro ⟨rfl, follows⟩
      obtain ⟨later, rfl⟩ := List.head?_eq_some_iff.mp follows
      have listed : Token.op .implies ∈ fixedTokens := by decide
      exact unmatched.spelling_not_prefix listed ⟨later, rfl⟩
  · rintro ⟨dark, digit, lower, mark, arrow⟩
    have spelled : ∀ token ∈ fixedTokens, token = .op .implies ∨
        token.spelling.toList.head?.any (fun first =>
          Unicode.isWhiteSpace first || first.isLower || marks.contains first) = true := by
      decide +kernel
    refine forall_mem_lexicon (fun front begins => ?_) (fun front begins => ?_)
      (fun front begins => ?_) (fun token listed front begins accepts => ?_)
    · exact Pattern.not_accepts_of_sort_eq_false (by rw [isBlank, dark, Bool.false_and]) begins
    · exact Pattern.not_accepts_of_sort_eq_false digit begins
    · exact Pattern.not_accepts_of_sort_eq_false lower begins
    · have same : front = token.spelling.toList := accepts
      rw [same] at begins
      rcases spelled token listed with rfl | starts
      · obtain ⟨later, whole⟩ := begins
        have both : '=' = c ∧ '>' :: later = more := List.cons.inj whole
        exact arrow ⟨both.1.symm, by rw [← both.2, List.head?_cons]⟩
      · obtain ⟨first, head, sort⟩ := (Option.any_eq_true _ _).mp starts
        obtain ⟨later, shape⟩ := List.head?_eq_some_iff.mp head
        rw [shape] at begins
        obtain ⟨rfl, _⟩ := List.cons_prefix_cons.mp begins
        simp [dark, lower, mark] at sort

/-! ## Tokens -/

/-- The token that a lexeme other than a run of blanks stands for. -/
inductive Lexeme.Denotes : Lexeme → Token → Prop
  | number (digits : List Char) : Denotes ⟨.number, digits⟩ (.number (decimal digits))
  | ident (letters : List Char) : Denotes ⟨.ident, letters⟩ (.ident (String.ofList letters))
  | fixed (token : Token) : Denotes ⟨.fixed token, token.spelling.toList⟩ token

theorem Cutting.denotes (cutting : Cutting text lexemes rest) :
    Forall₂ Lexeme.Denotes (lexemes.filter (·.kind ≠ .blank))
      (lexemes.filterMap Lexeme.token?) := by
  induction cutting with
  | halt => exact .nil
  | @cut lexeme more lexemes rest leads _ _ ih =>
      rcases lexeme with ⟨kind, characters⟩
      cases kind with
      | blank => exact ih
      | number => exact .cons (.number characters) ih
      | ident => exact .cons (.ident characters) ih
      | fixed token =>
          have spelled : characters = token.spelling.toList := leads.accepted
          subst spelled
          exact .cons (.fixed token) ih

/-! ## Line and column -/

/-- The counters stand behind a text: the line is the number of its line breaks plus one, the
column that of the characters behind the last of them plus one. -/
structure CountsUpTo (before : List Char) (line column : Nat) : Prop where
  line_eq : line = 1 + before.count '\n'
  column_eq : column = 1 + (before.rtakeWhile (· ≠ '\n')).length

variable {before : List Char} {line column : Nat}

theorem Pattern.Accepts.newline_not_mem {sort : Char → Bool} (other : sort '\n' = false)
    (accepts : (Pattern.run sort).Accepts front) : '\n' ∉ front := by
  intro present
  rw [accepts.2 '\n' present] at other
  cases other

/-- A lexeme is a line break, or there is none in it. -/
theorem newline_cases : ∀ kind ∈ lexicon, ∀ front, kind.pattern.Accepts front →
    (kind = .fixed .newline ∧ front = ['\n']) ∨ (kind ≠ .fixed .newline ∧ '\n' ∉ front) := by
  have spelled : ∀ token ∈ fixedTokens, token = .newline ∨ '\n' ∉ token.spelling.toList := by
    decide +kernel
  refine forall_mem_lexicon (fun front accepts => .inr ⟨by simp, ?_⟩)
    (fun front accepts => .inr ⟨by simp, ?_⟩) (fun front accepts => .inr ⟨by simp, ?_⟩)
    (fun token listed front accepts => ?_)
  · exact accepts.newline_not_mem (by decide)
  · exact accepts.newline_not_mem (by decide)
  · exact accepts.newline_not_mem (by decide)
  · have same : front = token.spelling.toList := accepts
    by_cases newline : token = .newline
    · subst newline
      exact .inl ⟨rfl, same⟩
    · refine .inr ⟨by simpa using newline, ?_⟩
      rw [same]
      exact (spelled token listed).resolve_left newline

/-- One turn of the lexer moves the counters behind the lexeme. -/
theorem CountsUpTo.append (counts : CountsUpTo before line column) (leads : lexeme.Leads text) :
    CountsUpTo (before ++ lexeme.text) (lexeme.lineAfter line) (lexeme.columnAfter column) := by
  obtain ⟨earlier, later, listed, _⟩ := leads.earliest
  have listed : lexeme.kind ∈ lexicon := by simp [listed]
  rw [Lexeme.lineAfter, Lexeme.columnAfter]
  -- The counters have two updates, one for line breaks and one for all else.
  rcases newline_cases lexeme.kind listed lexeme.text leads.accepted with
    ⟨kind, text⟩ | ⟨kind, free⟩
  · rw [if_pos kind, if_pos kind, text]
    refine ⟨?_, ?_⟩
    · rw [counts.line_eq, List.count_append, List.count_singleton_self, Nat.add_assoc]
    · rw [List.rtakeWhile_concat_neg _ _ _ (by simp), List.length_nil]
  · rw [if_neg kind, if_neg kind]
    refine ⟨?_, ?_⟩
    · rw [counts.line_eq, List.count_append, List.count_eq_zero.mpr free, Nat.add_zero]
    · have others : ∀ c ∈ lexeme.text.reverse, decide (c ≠ '\n') = true := by
        intro c present
        refine decide_eq_true fun same => free ?_
        rwa [← same, ← List.mem_reverse]
      rw [counts.column_eq, List.rtakeWhile, List.rtakeWhile, List.reverse_append,
        List.takeWhile_append_of_pos others, List.length_reverse, List.length_reverse,
        List.length_append, List.length_reverse]
      omega

/-- The lexer cuts off the lexemes of a cutting and comes to its rest with the counters behind
all of them. -/
theorem Cutting.scan_eq (cutting : Cutting text lexemes rest)
    (counts : CountsUpTo before line column) :
    ∃ lineAt columnAt, CountsUpTo (before ++ lexemes.flatMap Lexeme.text) lineAt columnAt ∧
      scan line column text =
        (scan lineAt columnAt rest).map (.prepend (lexemes.filterMap Lexeme.token?)) := by
  induction cutting generalizing before line column with
  | @halt rest halts =>
      refine ⟨line, column, by simpa using counts, ?_⟩
      cases scan line column rest <;> rfl
  | @cut lexeme more lexemes rest leads bound _ ih =>
      obtain ⟨_, found⟩ := Lexeme.leads_iff.mp leads
      obtain ⟨lineAt, columnAt, reached, later⟩ := ih (counts.append leads)
      refine ⟨lineAt, columnAt, by simpa using reached, ?_⟩
      rw [scan_of_longest? found, List.take_left, List.drop_left,
        if_pos (leads.isAdmissible_iff.mpr bound), later, Lexed.map_prepend_prepend]
      cases token : lexeme.token? <;> simp [token]

theorem Cutting.tokenize_eq {text : String}
    (cutting : Cutting (Unicode.nfkc text.toList) lexemes rest) :
    ∃ line column, CountsUpTo (lexemes.flatMap Lexeme.text) line column ∧
      tokenize text = (scan line column rest).map fun lexed =>
        lexemes.filterMap Lexeme.token? ++ lexed.tokens := by
  have start : CountsUpTo [] 1 1 := ⟨rfl, rfl⟩
  obtain ⟨line, column, counts, run⟩ := cutting.scan_eq start
  refine ⟨line, column, counts, ?_⟩
  rw [tokenize, lex, run]
  cases scan line column rest <;> rfl

/-- A text is cut by longest matches. Its normal form is cut in one way. The tokens of the text
are those of the lexemes in order, with the blanks left out, if nothing remains. Otherwise the
error is the first character of the rest, with its place behind the lexemes, or the digits there
if they are those of too large a number. -/
theorem text_cut_by_longest_match :
    (∀ text : String,
      (∃! cut : List Lexeme × List Char, Cutting (Unicode.nfkc text.toList) cut.1 cut.2) ∧
      ∀ lexemes rest, Cutting (Unicode.nfkc text.toList) lexemes rest →
        lexemes.flatMap Lexeme.text ++ rest = Unicode.nfkc text.toList ∧
        (rest = [] → ∃ tokens, tokenize text = .ok tokens ∧
          Forall₂ Lexeme.Denotes (lexemes.filter (·.kind ≠ .blank)) tokens) ∧
        (∀ c more, rest = c :: more → Unmatched rest →
          tokenize text = .error (.unexpectedChar c
            (1 + (lexemes.flatMap Lexeme.text).count '\n')
            (1 + ((lexemes.flatMap Lexeme.text).rtakeWhile (· ≠ '\n')).length))) ∧
        (UInt64.size ≤ decimal (rest.takeWhile Char.isDigit) →
          tokenize text = .error (.numberTooLarge (String.ofList (rest.takeWhile Char.isDigit))
            (1 + (lexemes.flatMap Lexeme.text).count '\n')))) ∧
    ∀ c more, Unmatched (c :: more) ↔
      Unicode.isWhiteSpace c = false ∧ c.isDigit = false ∧ c.isLower = false ∧ c ∉ marks ∧
        ¬(c = '=' ∧ more.head? = some '>') := by
  refine ⟨fun text => ⟨?_, fun lexemes rest cutting => ⟨cutting.flatMap_text, ?_, ?_, ?_⟩⟩,
    fun c more => unmatched_iff⟩
  · refine ⟨munch (Unicode.nfkc text.toList), cutting_munch _, fun other cutting => ?_⟩
    exact (cutting_iff_munch.mp cutting).symm
  · rintro rfl
    obtain ⟨line, column, _, run⟩ := cutting.tokenize_eq
    refine ⟨_, ?_, cutting.denotes⟩
    rw [run, scan_nil]
    exact congrArg Except.ok (List.append_nil _)
  · rintro c more rfl unmatched
    obtain ⟨line, column, counts, run⟩ := cutting.tokenize_eq
    rw [run, scan_of_unmatched (longest?_eq_none_iff_unmatched.mpr unmatched), ← counts.line_eq,
      ← counts.column_eq]
    rfl
  · intro tooLarge
    obtain ⟨line, column, counts, run⟩ := cutting.tokenize_eq
    rw [run, scan_of_tooLarge tooLarge, ← counts.line_eq]
    rfl

/-- A keyword wins over an identifier of the same length and loses to a longer one, the column
of an error counts the characters of the normal form, and leading zeros do not make a number
too large. -/
theorem hardTexts_cut :
    (∃ tokens, tokenize "or ora 007" = .ok tokens ∧
      Forall₂ Lexeme.Denotes
        [⟨.fixed (.op .or), ['o', 'r']⟩, ⟨.ident, ['o', 'r', 'a']⟩, ⟨.number, ['0', '0', '7']⟩]
        tokens) ∧
    tokenize "\nａ =a" = .error (.unexpectedChar '=' 2 3) ∧
    tokenize "\n018446744073709551616" =
      .error (.numberTooLarge "018446744073709551616" 2) := by
  have words : Cutting (Unicode.nfkc "or ora 007".toList)
      [⟨.fixed (.op .or), ['o', 'r']⟩, ⟨.blank, [' ']⟩, ⟨.ident, ['o', 'r', 'a']⟩,
        ⟨.blank, [' ']⟩, ⟨.number, ['0', '0', '7']⟩] [] :=
    cutting_iff_munch.mpr (by decide +kernel)
  have arrow : Cutting (Unicode.nfkc "\nａ =a".toList)
      [⟨.fixed .newline, ['\n']⟩, ⟨.ident, ['a']⟩, ⟨.blank, [' ']⟩] ['=', 'a'] :=
    cutting_iff_munch.mpr (by decide +kernel)
  have digits : Cutting (Unicode.nfkc "\n018446744073709551616".toList)
      [⟨.fixed .newline, ['\n']⟩] "018446744073709551616".toList :=
    cutting_iff_munch.mpr (by decide +kernel)
  refine ⟨?_, ?_, ?_⟩
  · exact ((text_cut_by_longest_match.1 "or ora 007").2 _ _ words).2.1 rfl
  · have unmatched : Unmatched ['=', 'a'] := unmatched_iff.mpr (by decide)
    exact ((text_cut_by_longest_match.1 "\nａ =a").2 _ _ arrow).2.2.1 _ _ rfl unmatched
  · exact ((text_cut_by_longest_match.1 "\n018446744073709551616").2 _ _ digits).2.2.2
      (by decide +kernel)

end ProofScript
