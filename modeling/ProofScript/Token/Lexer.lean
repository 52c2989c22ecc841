import ProofScript.Token
import ProofScript.Unicode.NormalForm
import ProofScript.Unicode.WhiteSpace

/-!
# The lexer

A text is brought into normal form and then cut into lexemes from the left.
Twenty-six kinds of lexemes compete at every position. The longest match wins, and
of two equally long ones that of the kind listed first, so that `goal` is a
keyword, `goals` an identifier and `orI1` one keyword. `scan` cuts off one lexeme after
the other and counts lines and columns on the way, in characters of the normal form. It
fails at a character with which no lexeme starts and at a number above `maxNumber`.
-/

namespace ProofScript

/-- What text a kind of lexeme may have: one fixed word, or a run of characters
of one sort, as long as possible. -/
inductive Pattern where
  | word (text : List Char)
  | run (sort : Char → Bool)

/-- How many characters at the front of a text match a pattern; zero if it does
not match. -/
def Pattern.matchLength (text : List Char) : Pattern → Nat
  | word characters => if characters.isPrefixOf text then characters.length else 0
  | run sort => (text.takeWhile sort).length

theorem Pattern.matchLength_le (pattern : Pattern) (text : List Char) :
    pattern.matchLength text ≤ text.length := by
  cases pattern with
  | word characters =>
      simp only [matchLength]
      split
      · next front => exact (List.isPrefixOf_iff_prefix.1 front).length_le
      · exact Nat.zero_le _
  | run sort => exact (List.takeWhile_prefix sort).length_le

/-- The kinds of lexemes. Most have a fixed text and thus a fixed token. -/
inductive Kind where
  | blank
  | number
  | ident
  | fixed (token : Token)
deriving DecidableEq

/-- White space that does not end a line. -/
def isBlank (c : Char) : Bool := Unicode.isWhiteSpace c && c ≠ '\n'

/-- The pattern of a kind. -/
def Kind.pattern : Kind → Pattern
  | blank => .run isBlank
  | number => .run Char.isDigit
  | ident => .run Char.isLower
  | fixed token => .word token.spelling.toList

/-- The kinds of lexemes in the order that decides between equally long
matches. Keywords and `or` stand before identifiers. -/
def lexicon : List Kind :=
  [.blank, .fixed .newline, .fixed .dash, .number]
    ++ Rule.all.map (fun rule => .fixed (.rule rule))
    ++ [.fixed .lparen, .fixed .rparen, .fixed (.op .and), .fixed (.op .or),
        .fixed (.op .implies), .fixed .not, .ident]

/-- The kind with the longest match at the front of a text, and the length of
that match. Of two equally long matches the earlier kind has it. -/
def longest? (text : List Char) : List Kind → Option (Kind × Nat)
  | [] => none
  | kind :: kinds =>
      let length := kind.pattern.matchLength text
      match longest? text kinds with
      | none => if length = 0 then none else some (kind, length)
      | some (other, most) => if length < most then some (other, most) else some (kind, length)

/-- A longest match is not empty and does not reach beyond the text. -/
theorem longest?_bounds {text : List Char} {kinds : List Kind} {kind : Kind} {length : Nat}
    (found : longest? text kinds = some (kind, length)) :
    0 < length ∧ length ≤ text.length := by
  induction kinds generalizing kind length with
  | nil => simp [longest?] at found
  | cons first kinds ih =>
      have bound := first.pattern.matchLength_le text
      simp only [longest?] at found
      split at found
      · split at found
        · cases found
        · cases found
          exact ⟨by omega, bound⟩
      · next other most later =>
          have := ih later
          split at found <;> cases found
          · exact this
          · exact ⟨by omega, bound⟩

/-- The number that a run of decimal digits denotes. -/
def decimal (digits : List Char) : Nat :=
  digits.foldl (fun value digit => 10 * value + (digit.toNat - '0'.toNat)) 0

/-- The largest number that a script may contain. -/
def maxNumber : Nat := UInt64.size - 1

/-- The number that a run of decimal digits denotes, unless it is too large. -/
def number? (digits : List Char) : Option Nat :=
  if decimal digits ≤ maxNumber then some (decimal digits) else none

/-- Why a text cannot be cut into lexemes. -/
inductive LexError where
  /-- No lexeme starts with this character. -/
  | unexpectedChar (found : Char) (line column : Nat)
  /-- A number above `maxNumber`, as it is written. -/
  | numberTooLarge (digits : String) (line : Nat)
deriving DecidableEq

/-- The wording of a lexical error. -/
def LexError.message : LexError → String
  | unexpectedChar found line column =>
      "unexpected character `" ++ found.toString ++ "` at line " ++ toString line
        ++ ", column " ++ toString column
  | numberTooLarge digits line =>
      "number `" ++ digits ++ "` is too large at line " ++ toString line

/-- What a text is cut into: its tokens, and the number of its last line. -/
structure Lexed where
  tokens : List Token
  lines : Nat
deriving DecidableEq

/-- Put more tokens in front. -/
def Lexed.prepend (front : List Token) (lexed : Lexed) : Lexed :=
  { lexed with tokens := front ++ lexed.tokens }

/-- Cut a text into tokens from the left. The line and the column are those of the first
character of the text. -/
def scan (line column : Nat) (text : List Char) : Except LexError Lexed :=
  match text with
  | [] => .ok { tokens := [], lines := line }
  | first :: later =>
      match found : longest? (first :: later) lexicon with
      | none => .error (.unexpectedChar first line column)
      | some (kind, length) =>
          have := longest?_bounds found
          let lexeme := (first :: later).take length
          let rest := (first :: later).drop length
          match kind with
          | .blank => scan line (column + lexeme.length) rest
          | .fixed .newline => (scan (line + 1) 1 rest).map (.prepend [.newline])
          | .number =>
              match number? lexeme with
              | none => .error (.numberTooLarge (String.ofList lexeme) line)
              | some value =>
                  (scan line (column + lexeme.length) rest).map (.prepend [.number value])
          | .ident =>
              (scan line (column + lexeme.length) rest).map
                (.prepend [.ident (String.ofList lexeme)])
          | .fixed token => (scan line (column + lexeme.length) rest).map (.prepend [token])
termination_by text.length

/-- Cut a text into tokens and count its lines. -/
def lex (text : String) : Except LexError Lexed := scan 1 1 (Unicode.nfkc text.toList)

/-- The tokens of a text. -/
def tokenize (text : String) : Except LexError (List Token) := (lex text).map Lexed.tokens

end ProofScript
