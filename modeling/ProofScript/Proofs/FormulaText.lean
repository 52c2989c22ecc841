import ProofScript.Proofs.FormulaParser
import ProofScript.Proofs.TokenText

/-!
# Printed formulas are read back

A formula is printed with mathematical symbols, for which a script has spellings of its
own. `ascii` replaces the symbols in a printed text by these spellings, and reading the
result gives the formula back, as long as its variables have names that a script can
give to them (`Formula.WellNamed`). No other formula is read from any text.

The printed text is followed through the lexer first: it is cut into `Formula.tokens`
(`Formula.lex?_render`), since blanks and parentheses keep its words apart. These tokens
are an operand of the grammar.
-/

namespace ProofScript

/-! ## Names -/

/-- The words that can name a variable: lower-case letters, but none of `or`, `goal`,
`assm`, `lem`, `abort`, `true` and `false`. -/
structure IsVariableName (name : String) : Prop extends IsIdentifier name where
  notTrue : name ≠ "true"
  notFalse : name ≠ "false"

/-- All variables of a formula have names that a script can give to them. -/
def Formula.WellNamed : Formula → Prop
  | .var name => IsVariableName name
  | .binary _ p q => p.WellNamed ∧ q.WellNamed
  | .not p => p.WellNamed
  | .bot => True
  | .top => True

instance (name : String) : Decidable (IsVariableName name) :=
  decidable_of_iff (IsIdentifier name ∧ name ≠ "true" ∧ name ≠ "false")
    ⟨fun ⟨identifier, notTrue, notFalse⟩ => { identifier with notTrue, notFalse },
      fun named => ⟨named.toIsIdentifier, named.notTrue, named.notFalse⟩⟩

instance Formula.decidableWellNamed : (p : Formula) → Decidable p.WellNamed
  | .var name => inferInstanceAs (Decidable (IsVariableName name))
  | .binary _ p q => @instDecidableAnd _ _ p.decidableWellNamed q.decidableWellNamed
  | .not p => p.decidableWellNamed
  | .bot => .isTrue trivial
  | .top => .isTrue trivial

theorem isIdentifier_true : IsIdentifier "true" := by decide

theorem isIdentifier_false : IsIdentifier "false" := by decide

/-! ## The tokens of a printed formula -/

/-- The tokens of a formula, every compound of a connective in parentheses. -/
def Formula.tokens : Formula → List Token
  | .var name => [.ident name]
  | .binary op p q => .lparen :: (p.tokens ++ .op op :: q.tokens) ++ [.rparen]
  | .not p => .not :: p.tokens
  | .bot => [.ident "false"]
  | .top => [.ident "true"]

theorem Formula.isOperand_tokens {p : Formula} (named : p.WellNamed) : IsOperand p.tokens p := by
  induction p with
  | var name => exact .var named.notTrue named.notFalse
  | binary op p q left right =>
      exact .parenthesised (.chain (left named.1) (.operand (right named.2)))
  | not p ih => exact .not (ih named)
  | bot => exact .bot
  | top => exact .top

/-- A printed formula is cut into its tokens, whatever stands apart behind it. -/
theorem Formula.lex?_render {p : Formula} (named : p.WellNamed) {rest : List Char}
    (apart : Apart rest) :
    lex? ((p.render .script).toList ++ rest) = (lex? rest).map (p.tokens ++ ·) := by
  induction p generalizing rest with
  | var name => exact lex?_identifier named.toIsIdentifier apart
  | binary op p q left right =>
      have text : ((Formula.binary op p q).render .script).toList ++ rest =
          '(' :: ((p.render .script).toList ++ ' ' :: ((Token.op op).spelling.toList ++
            ' ' :: ((q.render .script).toList ++ ')' :: rest))) := by
        simp [Formula.render, Symbols.script, Token.spelling]
      have opening (more : List Char) : lex? ('(' :: more) = (lex? more).map (.lparen :: ·) :=
        lex?_symbol (by decide : Token.lparen ∈ symbols) more
      have closing : lex? (')' :: rest) = (lex? rest).map (.rparen :: ·) :=
        lex?_symbol (by decide : Token.rparen ∈ symbols) rest
      have blank (more : List Char) : lex? (' ' :: more) = lex? more := lex?_blank (by decide) more
      have space (more : List Char) : Apart (' ' :: more) := apart_cons (by decide)
      have listed : Token.op op ∈ fixedTokens := by cases op <;> decide
      rw [text, opening, left named.1 (space _), blank, lex?_fixed listed (space _), blank,
        right named.2 (apart_cons (by decide)), closing]
      cases lex? rest with
      | none => rfl
      | some tokens => simp [Formula.tokens]
  | not p ih =>
      have text : (p.not.render .script).toList ++ rest =
          '~' :: ((p.render .script).toList ++ rest) := by
        simp [Formula.render, Symbols.script]
      have negation (more : List Char) : lex? ('~' :: more) = (lex? more).map (.not :: ·) :=
        lex?_symbol (by decide : Token.not ∈ symbols) more
      rw [text, negation, ih named apart]
      cases lex? rest with
      | none => rfl
      | some tokens => simp [Formula.tokens]
  | bot => exact lex?_identifier isIdentifier_false apart
  | top => exact lex?_identifier isIdentifier_true apart

/-- A printed formula is ASCII text. -/
theorem Formula.all_lt_render {p : Formula} (named : p.WellNamed) :
    (p.render .script).toList.all (·.toNat < 0x80) = true := by
  induction p with
  | var name => exact named.all_lt
  | binary op p q left right =>
      have operator : (Symbols.script.connective op).toList.all (·.toNat < 0x80) = true :=
        Token.all_lt_spelling (.op op) trivial
      simp only [Formula.render, String.toList_append, List.all_append, left named.1,
        right named.2, operator]
      decide
  | not p ih =>
      have negation : Symbols.script.not.toList.all (·.toNat < 0x80) = true := by decide
      simp only [Formula.render, String.toList_append, List.all_append, negation, ih named,
        Bool.and_true]
  | bot => exact isIdentifier_false.all_lt
  | top => exact isIdentifier_true.all_lt

theorem Formula.parse_eq_ok_iff {text : String} {p : Formula} :
    Formula.parse text = .ok p ↔
      ∃ tokens, lex? (Unicode.nfkc text.toList) = some tokens ∧ IsFormula tokens p := by
  simp only [Formula.parse, parseWith_eq_ok_iff, Formula.read_eq_ok_iff]

/-- A formula printed in the spellings of a script is read back. -/
theorem Formula.parse_render {p : Formula} (named : p.WellNamed) :
    Formula.parse (p.render .script) = .ok p := by
  refine Formula.parse_eq_ok_iff.mpr ⟨p.tokens, ?_, .operand (isOperand_tokens named)⟩
  rw [Unicode.isNormaliser_nfkc.ascii (all_lt_render named)]
  have cut := lex?_render named apart_nil
  simpa [lex?_nil] using cut

/-! ## Symbols and spellings -/

/-- What a script writes for a character of a printed formula. -/
def asciiSpelling : Char → String
  | '∧' => "&"
  | '∨' => "or"
  | '⇨' => "=>"
  | '¬' => "~"
  | '⊥' => "false"
  | '⊤' => "true"
  | c => String.singleton c

/-- A text with the mathematical symbols replaced by what a script writes for them. -/
def ascii (text : String) : String :=
  String.ofList (text.toList.flatMap fun c => (asciiSpelling c).toList)

theorem ascii_append (front back : String) : ascii (front ++ back) = ascii front ++ ascii back := by
  simp [ascii, String.ofList_append]

theorem asciiSpelling_of_isLower {c : Char} (lower : c.isLower = true) :
    asciiSpelling c = String.singleton c := by
  rw [asciiSpelling]
  all_goals
    rintro rfl
    exact absurd lower (by decide)

theorem flatMap_asciiSpelling {text : List Char} (lower : ∀ c ∈ text, c.isLower = true) :
    text.flatMap (fun c => (asciiSpelling c).toList) = text := by
  induction text with
  | nil => rfl
  | cons c rest ih =>
      obtain ⟨first, later⟩ := List.forall_mem_cons.mp lower
      rw [List.flatMap_cons, ih later, asciiSpelling_of_isLower first, String.toList_singleton]
      rfl

theorem IsIdentifier.ascii_eq {name : String} (identifier : IsIdentifier name) :
    ascii name = name := by
  rw [ascii, flatMap_asciiSpelling identifier.isLower_of_mem, String.ofList_toList]

/-- The printed text of a formula becomes what a script writes. -/
theorem Formula.ascii_display {p : Formula} (named : p.WellNamed) :
    ascii p.display = p.render .script := by
  induction p with
  | var name => exact named.ascii_eq
  | binary op p q left right =>
      have operator : ascii (Symbols.mathematical.connective op) = op.spelling := by
        cases op <;> decide +kernel
      have opening : ascii "(" = "(" := by decide +kernel
      have closing : ascii ")" = ")" := by decide +kernel
      have blank : ascii " " = " " := by decide +kernel
      simp only [Formula.display] at left right
      simp only [Formula.display, Formula.render, ascii_append, opening, closing, blank, operator,
        left named.1, right named.2, Symbols.script]
  | not p ih =>
      have negation : ascii Symbols.mathematical.not = "~" := by decide +kernel
      simp only [Formula.display] at ih
      simp only [Formula.display, Formula.render, ascii_append, negation, ih named, Symbols.script]
  | bot => decide +kernel
  | top => decide +kernel

/-! ## The names in a text -/

mutual

theorem IsOperand.wellNamed {tokens : List Token} {p : Formula}
    (identifiers : ∀ name, .ident name ∈ tokens → IsIdentifier name) :
    IsOperand tokens p → p.WellNamed
  | .top => trivial
  | .bot => trivial
  | @IsOperand.var name notTrue notFalse => by
      have identifier := identifiers name List.mem_cons_self
      exact { identifier with notTrue, notFalse }
  | @IsOperand.not tokens q derived => by
      have body : q.WellNamed := derived.wellNamed fun name present =>
        identifiers name (List.mem_cons_of_mem _ present)
      exact body
  | .parenthesised derived => derived.wellNamed fun name present =>
      identifiers name (by simp [present])

theorem IsTail.wellNamed {op : Connective} {tokens : List Token} {p : Formula}
    (identifiers : ∀ name, .ident name ∈ tokens → IsIdentifier name) :
    IsTail op tokens p → p.WellNamed
  | .operand derived => derived.wellNamed identifiers
  | .join tail last =>
      ⟨tail.wellNamed fun name present => identifiers name (by simp [present]),
        last.wellNamed fun name present => identifiers name (by simp [present])⟩

/-- A formula is well named if the names among its tokens are identifiers. -/
theorem IsFormula.wellNamed {tokens : List Token} {p : Formula}
    (identifiers : ∀ name, .ident name ∈ tokens → IsIdentifier name) :
    IsFormula tokens p → p.WellNamed
  | .operand derived => derived.wellNamed identifiers
  | .chain first tail =>
      ⟨first.wellNamed fun name present => identifiers name (by simp [present]),
        tail.wellNamed fun name present => identifiers name (by simp [present])⟩

end

theorem Formula.wellNamed_of_parse {text : String} {p : Formula}
    (parsed : Formula.parse text = .ok p) : p.WellNamed := by
  obtain ⟨tokens, cut, derived⟩ := Formula.parse_eq_ok_iff.mp parsed
  exact derived.wellNamed fun name present => writable_of_mem_lex? cut present

/-- Printing and reading are inverse up to the choice of symbols. A well-named formula is
read from its printed text, once the symbols are spelled as in a script, and what is read
from any text is well named. -/
theorem printed_formula_read_back :
    (∀ p : Formula, p.WellNamed → Formula.parse (ascii p.display) = .ok p) ∧
    ∀ (text : String) (p : Formula), Formula.parse text = .ok p →
      p.WellNamed ∧ Formula.parse (ascii p.display) = .ok p := by
  have back (p : Formula) (named : p.WellNamed) : Formula.parse (ascii p.display) = .ok p := by
    rw [Formula.ascii_display named]
    exact Formula.parse_render named
  refine ⟨back, fun text p parsed => ?_⟩
  have named := Formula.wellNamed_of_parse parsed
  exact ⟨named, back p named⟩

/-- A formula with every operator, and a name that starts like one of them. -/
def everyOperator : Formula :=
  .implies (.and (.var "orange") (.not .bot)) (.or (.var "b") .top)

theorem everyOperator_read_back :
    Formula.parse "((orange & ~false) => (b or true))" = .ok everyOperator ∧
      everyOperator.WellNamed := by
  have printed : ascii everyOperator.display = "((orange & ~false) => (b or true))" := by
    decide +kernel
  have parsed := printed_formula_read_back.1 everyOperator (by decide)
  rw [printed] at parsed
  exact ⟨parsed, (printed_formula_read_back.2 _ _ parsed).1⟩

end ProofScript
