import ProofScript.Unicode.CombiningClass
import ProofScript.Unicode.Composition
import ProofScript.Unicode.Decomposition

/-!
# The normal form of a text

The normal form under compatibility (NFKC) is reached in three steps. Every
character is replaced by its compatibility decomposition; marks that follow one
another are put in the order of their combining classes; and every starter takes
in the characters after it that it composes with. Texts that differ only in the
style or composition of characters have the same normal form. ASCII text is its
own normal form.
-/

namespace ProofScript.Unicode

/-- Put a character before a text whose marks are in order. A mark moves past the
marks of smaller classes that follow it, and stops at a starter. -/
def insertInOrder (c : Char) : List Char → List Char
  | [] => [c]
  | d :: rest =>
      if 0 < combiningClass d ∧ combiningClass d < combiningClass c then
        d :: insertInOrder c rest
      else c :: d :: rest

/-- Put marks that follow one another in the order of their classes. Marks of one
class keep their order, and starters their places. -/
def inCanonicalOrder (text : List Char) : List Char := text.foldr insertInOrder []

/-- A mark below a letter goes before a mark above it. -/
example : inCanonicalOrder ['a', '\u0301', '\u0323'] = ['a', '\u0323', '\u0301'] := by
  decide +kernel

/-- Whether a character can still reach the starter before it when the characters
of `passed` stand between them: nothing may stand there, or else only marks of
smaller classes than its own. -/
def reachesStarter (passed : List Char) (c : Char) : Bool :=
  match passed.getLast? with
  | none => true
  | some d => combiningClass d < combiningClass c

/-- Compose the text that follows a starter. The characters of `passed` have been
read after the starter and did not compose with it. -/
def composeAfter (starter : Char) (passed : List Char) : List Char → List Char
  | [] => starter :: passed
  | c :: rest =>
      match if reachesStarter passed c then compose? starter c else none with
      | some composite => composeAfter composite passed rest
      | none =>
          if isStarter c then starter :: (passed ++ composeAfter c [] rest)
          else composeAfter starter (passed ++ [c]) rest

/-- Compose a text in canonical order. Marks before the first starter stay as they
are. -/
def composeAll : List Char → List Char
  | [] => []
  | c :: rest => if isStarter c then composeAfter c [] rest else c :: composeAll rest

/-- The normal form of a text under compatibility. -/
def nfkc (text : List Char) : List Char :=
  composeAll (inCanonicalOrder (text.flatMap decompose))

/-- A letter in full width, a ligature and a circled digit. -/
example : nfkc ['\uFF41', '\uFB01', '\u2460'] = ['a', 'f', 'i', '1'] := by decide +kernel

end ProofScript.Unicode
