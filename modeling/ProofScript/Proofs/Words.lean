import Mathlib.Data.List.Forall2
import Mathlib.Data.List.TakeWhile
import ProofScript.Proofs.Lexemes
import ProofScript.Token.Class

/-!
# Words and blanks

Words are the lexemes that could run together: keywords, `or` and identifiers. A word is
cut off whole if no letter or digit follows it (`lex?_fixed`, `lex?_identifier`), and
blanks at the front of a text make no difference (`lex?_blank`). Together with
`lex?_symbol` this gives the tokens of a printed text one after the other.

Which words are identifiers is settled in both directions: those in lower-case letters
that are no keywords, and no others. The same holds of numbers, which are cut off as they
are printed (`lex?_number`). What tokens a text can have is `Token.Writable`.
-/

namespace ProofScript

variable {text rest : List Char} {c : Char}

/-! ## Sorts of characters -/

theorem toNat_of_isLower (lower : c.isLower = true) : 97 ≤ c.toNat ∧ c.toNat ≤ 122 := by
  obtain ⟨least, most⟩ := Bool.and_eq_true_iff.mp lower
  exact ⟨of_decide_eq_true least, of_decide_eq_true most⟩

theorem isAlphanum_eq (c : Char) : c.isAlphanum = (c.isUpper || c.isLower || c.isDigit) := rfl

theorem isAlphanum_of_isLower (lower : c.isLower = true) : c.isAlphanum = true := by
  rw [isAlphanum_eq, lower, Bool.or_true, Bool.true_or]

theorem isBlank_eq_false_of_isAlphanum (alphanumeric : c.isAlphanum = true) :
    isBlank c = false := by
  have bounds : (65 ≤ c.toNat ∧ c.toNat ≤ 90) ∨ (97 ≤ c.toNat ∧ c.toNat ≤ 122) ∨
      (48 ≤ c.toNat ∧ c.toNat ≤ 57) := by
    simp only [isAlphanum_eq, Bool.or_eq_true] at alphanumeric
    rcases alphanumeric with (upper | lower) | digit
    · exact .inl (of_decide_eq_true upper)
    · exact .inr (.inl (toNat_of_isLower lower))
    · exact .inr (.inr (Char.isDigit_iff_toNat.mp digit))
  have dark : Unicode.isWhiteSpace c = false := by
    simp only [Unicode.isWhiteSpace, Unicode.whiteSpaceRanges, List.any_cons, List.any_nil,
      Bool.or_false, Bool.or_eq_false_iff, Bool.and_eq_false_imp, decide_eq_true_eq,
      decide_eq_false_iff_not]
    omega
  rw [isBlank, dark, Bool.false_and]

/-! ## Blanks -/

/-- Whether a match of the pattern can start with a character. -/
def Pattern.starts (c : Char) : Pattern → Bool
  | word characters => characters.head? = some c
  | run sort => sort c

theorem Pattern.matchLength_eq_zero {pattern : Pattern} (starts : pattern.starts c = false)
    (rest : List Char) : pattern.matchLength (c :: rest) = 0 := by
  cases pattern with
  | word characters =>
      cases characters with
      | nil => rfl
      | cons first more =>
          have other : first ≠ c := by simpa [Pattern.starts] using starts
          simp [matchLength, other]
  | run sort =>
      have other : ¬sort c = true := by simpa [Pattern.starts] using starts
      rw [matchLength, List.takeWhile_cons_of_neg other, List.length_nil]

/-- Only a run of blanks starts with a blank. -/
theorem starts_eq_false_of_isBlank (blank : isBlank c = true) :
    ∀ kind ∈ lexicon, kind ≠ .blank → kind.pattern.starts c = false := by
  have visible : ∀ token ∈ fixedTokens,
      token.spelling.toList.head?.all (fun first => !isBlank first) = true := by decide +kernel
  have apart : ¬c.isAlphanum = true := by
    intro alphanumeric
    rw [isBlank_eq_false_of_isAlphanum alphanumeric] at blank
    cases blank
  simp only [isAlphanum_eq, Bool.or_eq_true, not_or, Bool.not_eq_true] at apart
  refine forall_mem_lexicon (absurd rfl) (fun _ => apart.2) (fun _ => apart.1.2) ?_
  intro token listed _
  refine decide_eq_false fun first => ?_
  have here := visible token listed
  rw [first, Option.all_some, blank] at here
  cases here

/-- The only kind whose matches start with a character is found there. -/
theorem longest?_of_starts {kind : Kind} {length : Nat} (listed : kind ∈ lexicon)
    (matched : kind.pattern.matchLength (c :: rest) = length + 1)
    (others : ∀ other ∈ lexicon, other ≠ kind → other.pattern.starts c = false) :
    longest? (c :: rest) lexicon = some (kind, length + 1) := by
  have shorter {other : Kind} (present : other ∈ lexicon) (differs : other ≠ kind) :
      other.pattern.matchLength (c :: rest) = 0 :=
    Pattern.matchLength_eq_zero (others other present differs) rest
  obtain ⟨before, behind, divided, absent⟩ := List.eq_append_cons_of_mem listed
  refine longest?_eq_some_iff.mpr
    ⟨Nat.succ_pos length, matched, before, behind, divided, ?_, ?_⟩
  · intro other earlier
    have present : other ∈ lexicon := by
      rw [divided]
      exact List.mem_append_left _ earlier
    rw [shorter present (ne_of_mem_of_not_mem earlier absent)]
    exact Nat.succ_pos length
  · intro other later
    by_cases same : other = kind
    · exact Nat.le_of_eq (same ▸ matched)
    · have present : other ∈ lexicon := by
        rw [divided]
        exact List.mem_append_right _ (List.mem_cons_of_mem _ later)
      rw [shorter present same]
      exact Nat.zero_le _

theorem longest?_of_isBlank (blank : isBlank c = true) (rest : List Char) :
    longest? (c :: rest) lexicon = some (.blank, (rest.takeWhile isBlank).length + 1) := by
  refine longest?_of_starts (by decide) ?_ (starts_eq_false_of_isBlank blank)
  rw [Kind.pattern, Pattern.matchLength, List.takeWhile_cons_of_pos blank, List.length_cons]

theorem lex?_of_isBlank (blank : isBlank c = true) (rest : List Char) :
    lex? (c :: rest) = lex? (rest.dropWhile isBlank) := by
  have whole : c :: rest.takeWhile isBlank ++ rest.dropWhile isBlank = c :: rest :=
    congrArg (c :: ·) List.takeWhile_append_dropWhile
  have found := longest?_of_isBlank blank rest
  rw [← whole] at found ⊢
  rw [lex?_append_of_longest? found rfl]
  exact Option.map_id'

/-- A blank at the front of a text makes no difference. -/
theorem lex?_blank (blank : isBlank c = true) (rest : List Char) :
    lex? (c :: rest) = lex? rest := by
  rw [lex?_of_isBlank blank]
  cases rest with
  | nil => rfl
  | cons d rest =>
      by_cases again : isBlank d = true
      · rw [List.dropWhile_cons_of_pos again, lex?_of_isBlank again]
      · rw [List.dropWhile_cons_of_neg again]

/-! ## Words -/

/-- The text goes on, if at all, with a character that belongs to no word. -/
def Apart (rest : List Char) : Prop := ∀ c ∈ rest.head?, c.isAlphanum = false

theorem apart_nil : Apart [] := nofun

theorem apart_cons {rest : List Char} (other : c.isAlphanum = false) : Apart (c :: rest) := by
  rintro _ ⟨⟩
  exact other

/-- A match that starts with a letter or a digit does not go on beyond a character that
is neither. -/
theorem confined_of_isAlphanum {first : Char} (begins : first.isAlphanum = true)
    (apart : c.isAlphanum = false) (more : List Char) :
    ∀ kind ∈ lexicon, kind.pattern.Confined (first :: more) c := by
  have spelled : ∀ token ∈ fixedTokens,
      token.spelling.toList.head?.all (fun d => !d.isAlphanum) = true ∨
        token.spelling.toList.tail.all Char.isAlphanum = true := by decide +kernel
  have sorts := apart
  simp only [isAlphanum_eq, Bool.or_eq_false_iff] at sorts
  refine forall_mem_lexicon (.inr ?_) (.inl sorts.2) (.inl sorts.1.2) ?_
  · rw [List.all_cons, isBlank_eq_false_of_isAlphanum begins, Bool.false_and]
  · intro token listed
    rcases spelled token listed with symbol | word
    · refine .inr (.inl fun same => ?_)
      rw [same, List.head?_cons, Option.all_some, begins] at symbol
      cases symbol
    · refine .inr (.inr fun present => ?_)
      cases apart.symm.trans (List.all_eq_true.mp word c present)

/-- A word that is cut off when it stands alone is cut off before anything apart. -/
theorem lex?_word {first : Char} {more : List Char} {kind : Kind}
    (begins : first.isAlphanum = true)
    (alone : longest? (first :: more) lexicon = some (kind, (first :: more).length))
    (admissible : (Lexeme.mk kind (first :: more)).isAdmissible = true) (apart : Apart rest) :
    lex? (first :: more ++ rest) =
      (lex? rest).map ((Lexeme.mk kind (first :: more)).token?.toList ++ ·) := by
  have found : longest? (first :: more ++ rest) lexicon =
      some (kind, (first :: more).length) := by
    cases rest with
    | nil => rw [List.append_nil, alone]
    | cons c rest =>
        have other : c.isAlphanum = false := apart c rfl
        have confined := confined_of_isAlphanum begins other more
        rw [longest?_append (List.cons_ne_nil first more) confined, alone]
  exact lex?_append_of_longest? found admissible

/-- Tokens with a text of their own are cut off before anything apart. -/
theorem lex?_fixed {token : Token} (listed : token ∈ fixedTokens) (apart : Apart rest) :
    lex? (token.spelling.toList ++ rest) = (lex? rest).map (token :: ·) := by
  have cut : ∀ token ∈ fixedTokens, token ∈ symbols ∨
      token.spelling.toList.head?.any Char.isAlphanum = true ∧
        longest? token.spelling.toList lexicon =
          some (.fixed token, token.spelling.toList.length) := by decide +kernel
  rcases cut token listed with symbol | ⟨begins, alone⟩
  · exact lex?_symbol symbol rest
  · cases spelled : token.spelling.toList with
    | nil =>
        rw [spelled] at begins
        cases begins
    | cons first more =>
        rw [spelled] at begins alone
        exact lex?_word begins alone rfl apart

/-! ## Identifiers -/

/-- The words in lower-case letters that have a meaning of their own. -/
def keywords : List String := ["or", "goal", "assm", "lem", "abort"]

/-- The words that can name a variable or a constant. -/
structure IsIdentifier (name : String) : Prop where
  nonempty : name.toList ≠ []
  lower : name.toList.all Char.isLower = true
  free : name ∉ keywords

instance (name : String) : Decidable (IsIdentifier name) :=
  decidable_of_iff
    (name.toList ≠ [] ∧ name.toList.all Char.isLower = true ∧ name ∉ keywords)
    ⟨fun ⟨nonempty, lower, free⟩ => ⟨nonempty, lower, free⟩,
      fun ⟨nonempty, lower, free⟩ => ⟨nonempty, lower, free⟩⟩

theorem IsIdentifier.isLower_of_mem {name : String} (identifier : IsIdentifier name) :
    ∀ c ∈ name.toList, c.isLower = true :=
  List.all_eq_true.mp identifier.lower

theorem spelling_mem_keywords : ∀ token ∈ fixedTokens,
    token.spelling.toList.all Char.isLower = true → token.spelling ∈ keywords := by
  decide +kernel

theorem exists_spelling_of_mem_keywords : ∀ name ∈ keywords,
    ∃ token ∈ fixedTokens, token.spelling = name := by decide +kernel

/-- Identifiers stand behind all other kinds in the lexicon, so that they need a longer
match than any of them. -/
theorem longest?_eq_ident_iff {length : Nat} :
    longest? text lexicon = some (.ident, length) ↔
      0 < length ∧ (text.takeWhile Char.isLower).length = length ∧
        ∀ kind ∈ lexicon, kind ≠ .ident → kind.pattern.matchLength text < length := by
  obtain ⟨others, listed, absent⟩ :
      ∃ others, lexicon = others ++ [.ident] ∧ Kind.ident ∉ others :=
    ⟨lexicon.dropLast, by decide +kernel, by decide +kernel⟩
  rw [longest?_eq_some_iff]
  constructor
  · intro wins
    refine ⟨wins.positive, wins.matched, fun kind present other => ?_⟩
    obtain ⟨before, behind, divided, shorter, _⟩ := wins.place
    rw [listed] at divided present
    have earlier : kind ∈ others := by simpa [other] using present
    rcases List.eq_nil_or_concat behind with rfl | ⟨more, last, rfl⟩
    · rw [List.append_cancel_right divided] at earlier
      exact shorter kind earlier
    · rw [List.concat_eq_append, ← List.cons_append, ← List.append_assoc] at divided
      rw [(List.append_inj' divided rfl).1] at absent
      exact absurd (by simp) absent
  · rintro ⟨positive, matched, shorter⟩
    refine ⟨positive, matched, others, [], listed, fun kind earlier => ?_, nofun⟩
    refine shorter kind ?_ (ne_of_mem_of_not_mem earlier absent)
    rw [listed]
    exact List.mem_append_left _ earlier

theorem IsIdentifier.longest?_eq {name : String} (identifier : IsIdentifier name) :
    longest? name.toList lexicon = some (.ident, name.toList.length) := by
  have positive : 0 < name.toList.length := List.length_pos_iff.mpr identifier.nonempty
  have whole : name.toList.takeWhile Char.isLower = name.toList :=
    List.takeWhile_eq_self_iff.mpr identifier.isLower_of_mem
  refine longest?_eq_ident_iff.mpr ⟨positive, by rw [whole], ?_⟩
  obtain ⟨first, more, spelled⟩ := List.exists_cons_of_ne_nil identifier.nonempty
  have lower : first.isLower = true := identifier.isLower_of_mem first (by simp [spelled])
  have elsewhere {kind : Kind} (starts : kind.pattern.starts first = false) :
      kind.pattern.matchLength name.toList < name.toList.length := by
    rw [spelled] at positive ⊢
    rwa [Pattern.matchLength_eq_zero starts]
  refine forall_mem_lexicon (fun _ => elsewhere ?_) (fun _ => elsewhere ?_) (absurd rfl) ?_
  · exact isBlank_eq_false_of_isAlphanum (isAlphanum_of_isLower lower)
  · have bounds := toNat_of_isLower lower
    rw [Kind.pattern, Pattern.starts, Bool.eq_false_iff]
    intro digit
    have least : first.toNat ≤ 57 := (Char.isDigit_iff_toNat.mp digit).2
    omega
  · -- A fixed text at the front of the name is shorter, or it would be a keyword.
    intro token listed _
    rw [Kind.pattern, Pattern.matchLength]
    split
    · next front =>
        have begins := List.isPrefixOf_iff_prefix.mp front
        refine Nat.lt_of_le_of_ne begins.length_le fun even => ?_
        have same := begins.eq_of_length even
        have keyword := spelling_mem_keywords token listed (by rw [same]; exact identifier.lower)
        rw [String.toList_inj.mp same] at keyword
        exact identifier.free keyword
    · exact positive

theorem lex?_identifier {name : String} (identifier : IsIdentifier name) (apart : Apart rest) :
    lex? (name.toList ++ rest) = (lex? rest).map (.ident name :: ·) := by
  obtain ⟨first, more, spelled⟩ := List.exists_cons_of_ne_nil identifier.nonempty
  have begins := isAlphanum_of_isLower (identifier.isLower_of_mem first (by simp [spelled]))
  have alone := identifier.longest?_eq
  rw [spelled] at alone
  have cut := lex?_word begins alone rfl apart
  rw [← spelled] at cut
  simpa [Lexeme.token?] using cut

/-- What is cut off as an identifier is one. -/
theorem isIdentifier_of_longest? {length : Nat}
    (found : longest? text lexicon = some (.ident, length)) :
    IsIdentifier (String.ofList (text.take length)) := by
  obtain ⟨positive, matched, shorter⟩ := longest?_eq_ident_iff.mp found
  have taken : text.take length = text.takeWhile Char.isLower := by
    rw [List.prefix_iff_eq_take.mp (List.takeWhile_prefix Char.isLower), matched]
  have size : (text.take length).length = length := by rw [taken, matched]
  refine ⟨?_, ?_, ?_⟩
  · rw [String.toList_ofList]
    exact List.ne_nil_of_length_pos (by omega)
  · rw [String.toList_ofList, taken]
    exact List.all_takeWhile
  · -- The keyword would have a match as long, and it is listed first.
    intro keyword
    obtain ⟨token, listed, spelled⟩ := exists_spelling_of_mem_keywords _ keyword
    have less := shorter _ (fixed_mem_lexicon token listed) nofun
    rw [Kind.pattern, Pattern.matchLength, spelled, String.toList_ofList, if_pos, size] at less
    · exact Nat.lt_irrefl length less
    · exact List.isPrefixOf_iff_prefix.mpr (List.take_prefix length text)

/-! ## Numbers -/

/-- Only a number starts with a digit. -/
theorem starts_eq_false_of_isDigit (digit : c.isDigit = true) :
    ∀ kind ∈ lexicon, kind ≠ .number → kind.pattern.starts c = false := by
  have other : ∀ token ∈ fixedTokens,
      token.spelling.toList.head?.all (fun first => !first.isDigit) = true := by decide +kernel
  refine forall_mem_lexicon (fun _ => ?_) (absurd rfl) (fun _ => ?_) ?_
  · refine isBlank_eq_false_of_isAlphanum ?_
    rw [isAlphanum_eq, digit, Bool.or_true]
  · rw [Kind.pattern, Pattern.starts, Bool.eq_false_iff]
    intro lower
    have most : c.toNat ≤ 57 := (Char.isDigit_iff_toNat.mp digit).2
    have least := (toNat_of_isLower lower).1
    omega
  · intro token listed _
    refine decide_eq_false fun first => ?_
    have here := other token listed
    rw [first, Option.all_some, digit] at here
    cases here

/-- At a digit a number is cut off, as long as it goes. -/
theorem longest?_of_isDigit (digit : c.isDigit = true) (rest : List Char) :
    longest? (c :: rest) lexicon =
      some (.number, ((c :: rest).takeWhile Char.isDigit).length) := by
  rw [List.takeWhile_cons_of_pos digit, List.length_cons]
  refine longest?_of_starts (by decide) ?_ (starts_eq_false_of_isDigit digit)
  rw [Kind.pattern, Pattern.matchLength, List.takeWhile_cons_of_pos digit, List.length_cons]

theorem longest?_of_digits {digits : List Char} (nonempty : digits ≠ [])
    (all : ∀ d ∈ digits, d.isDigit = true) :
    longest? digits lexicon = some (.number, digits.length) := by
  obtain ⟨first, more, rfl⟩ := List.exists_cons_of_ne_nil nonempty
  have whole : (first :: more).takeWhile Char.isDigit = first :: more :=
    List.takeWhile_eq_self_iff.mpr all
  rw [longest?_of_isDigit (all first List.mem_cons_self), whole]

theorem decimal_toList_toString (value : Nat) : decimal (toString value).toList = value := by
  have digits : (toString value).toList = Nat.toDigits 10 value := Nat.toList_repr
  rw [digits]
  exact Nat.ofDigitChars_ten_toDigits

theorem isDigit_of_mem_toString (value : Nat) :
    ∀ d ∈ (toString value).toList, d.isDigit = true := by
  have digits : (toString value).toList = Nat.toDigits 10 value := Nat.toList_repr
  intro d present
  rw [digits] at present
  exact Nat.isDigit_of_mem_toDigits (by decide) (by decide) present

theorem lex?_number {value : Nat} (bound : value ≤ maxNumber) (apart : Apart rest) :
    lex? ((toString value).toList ++ rest) = (lex? rest).map (.number value :: ·) := by
  have digits : (toString value).toList = Nat.toDigits 10 value := Nat.toList_repr
  have nonempty : (toString value).toList ≠ [] := by
    rw [digits]
    exact Nat.toDigits_ne_nil
  have alone := longest?_of_digits nonempty (isDigit_of_mem_toString value)
  have denoted := decimal_toList_toString value
  have all := isDigit_of_mem_toString value
  obtain ⟨first, more, spelled⟩ := List.exists_cons_of_ne_nil nonempty
  rw [spelled] at alone denoted all ⊢
  have begins : first.isAlphanum = true := by
    rw [isAlphanum_eq, all first List.mem_cons_self, Bool.or_true]
  have admissible : (Lexeme.mk .number (first :: more)).isAdmissible = true := by
    simpa only [Lexeme.isAdmissible, denoted, decide_eq_true_eq] using bound
  rw [lex?_word begins alone admissible apart, Lexeme.token?, denoted]
  rfl

/-! ## The tokens of a text -/

/-- What a token of a text can be: its name is an identifier, and its number is not too
large. -/
def Token.Writable : Token → Prop
  | .ident name => IsIdentifier name
  | .number value => value ≤ maxNumber
  | _ => True

instance : (token : Token) → Decidable token.Writable
  | .ident name => inferInstanceAs (Decidable (IsIdentifier name))
  | .number value => inferInstanceAs (Decidable (value ≤ maxNumber))
  | .dash | .rule _ | .lparen | .rparen | .op _ | .not | .newline => .isTrue trivial

/-- A token is a number, a name, or one of those with a text of their own. -/
theorem Token.number_or_ident_or_fixed (token : Token) :
    (∃ value, token = .number value) ∨ (∃ name, token = .ident name) ∨ token ∈ fixedTokens := by
  cases token with
  | number value => exact .inl ⟨value, rfl⟩
  | ident name => exact .inr (.inl ⟨name, rfl⟩)
  | rule named => exact .inr (.inr (by simp [fixedTokens, Rule.mem_all]))
  | op connective => exact .inr (.inr (by cases connective <;> decide))
  | _ => exact .inr (.inr (by decide))

/-- No token that is written in more than one way has a kind of its own. -/
theorem writable_of_mem_fixedTokens : ∀ token ∈ fixedTokens, token.Writable := by
  have classes : ∀ token ∈ fixedTokens, token.toClass ≠ .ident ∧ token.toClass ≠ .number := by
    decide +kernel
  intro token listed
  obtain ⟨ident, number⟩ := classes token listed
  cases token with
  | ident name => exact absurd rfl ident
  | number value => exact absurd rfl number
  | _ => trivial

theorem writable_of_mem_lex? {tokens : List Token} {token : Token}
    (cut : lex? text = some tokens) (present : token ∈ tokens) : token.Writable := by
  obtain ⟨rest, kind, length, _, found, admissible, named⟩ :=
    exists_longest?_of_mem_lex? tokens cut present
  have fixed : ∀ kind ∈ lexicon, ∀ token, kind = .fixed token → token.Writable := by
    refine forall_mem_lexicon nofun nofun nofun ?_
    rintro token listed _ ⟨⟩
    exact writable_of_mem_fixedTokens token listed
  cases kind with
  | blank => cases named
  | number =>
      cases named
      have bound : decimal (rest.take length) ≤ maxNumber := of_decide_eq_true admissible
      exact bound
  | ident =>
      cases named
      exact isIdentifier_of_longest? found
  | fixed named =>
      cases named
      exact fixed _ (wins_of_longest? found).mem _ rfl

/-! ## Texts in parts -/

/-- The text is cut into the tokens, whatever stands apart behind it. -/
def Cuts (text : List Char) (tokens : List Token) : Prop :=
  ∀ rest : List Char, Apart rest → lex? (text ++ rest) = (lex? rest).map (tokens ++ ·)

theorem Cuts.lex?_eq {tokens : List Token} (cuts : Cuts text tokens) :
    lex? text = some tokens := by
  have whole := cuts [] apart_nil
  rwa [List.append_nil, lex?_nil, Option.map_some, List.append_nil] at whole

/-- A blank keeps the tokens before it apart from those behind it. -/
theorem Cuts.append_blank {more : List Char} {tokens others : List Token}
    (front : Cuts text tokens) (back : Cuts more others) :
    Cuts (text ++ ' ' :: more) (tokens ++ others) := by
  intro rest apart
  have space : Apart (' ' :: (more ++ rest)) := apart_cons (by decide)
  rw [List.append_assoc, List.cons_append, front _ space, lex?_blank (by decide), back _ apart,
    Option.map_map]
  exact congrArg (Option.map · (lex? rest)) (funext fun _ => (List.append_assoc ..).symm)

theorem cuts_intercalate {texts : List (List Char)} {tokens : List (List Token)}
    (parts : List.Forall₂ Cuts texts tokens) :
    Cuts ([' '].intercalate texts) tokens.flatten := by
  induction parts with
  | nil =>
      intro rest _
      exact Option.map_id'.symm
  | @cons text first texts others part parts ih =>
      cases parts with
      | nil => simpa using part
      | cons _ _ =>
          rw [List.intercalate_cons_cons, List.append_assoc]
          exact part.append_blank ih

/-- What a token of a text can be is cut off as that token. -/
theorem Token.cuts_spelling (token : Token) (writable : token.Writable) :
    Cuts token.spelling.toList [token] := by
  intro rest apart
  rcases token.number_or_ident_or_fixed with ⟨value, rfl⟩ | ⟨name, rfl⟩ | listed
  · exact lex?_number writable apart
  · exact lex?_identifier writable apart
  · exact lex?_fixed listed apart

end ProofScript
