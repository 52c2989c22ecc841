/-!
# Code points in text

Tables of characters are written as text, with fields between separators and
code points in hexadecimal. A code point is read only if it belongs to a character
that can be printed or combined: control characters are refused, so that no table
can bring one into a text.
-/

namespace ProofScript.Unicode

/-- The value of a hexadecimal digit, in capitals. -/
def hexDigit? (c : Char) : Option Nat :=
  if c.isDigit then some (c.toNat - '0'.toNat)
  else if 'A' ≤ c && c ≤ 'F' then some (c.toNat - 'A'.toNat + 10)
  else none

/-- The value of a hexadecimal number of at least one digit. -/
def hex? (digits : List Char) : Option Nat :=
  if digits.isEmpty then none
  else digits.foldlM (fun value digit => (hexDigit? digit).map (16 * value + ·)) 0

/-- The parts of a text between separators. -/
def fields (separator : Char) : List Char → List (List Char)
  | [] => [[]]
  | c :: rest =>
      if c = separator then [] :: fields separator rest
      else
        match fields separator rest with
        | [] => [[c]]
        | field :: others => (c :: field) :: others

/-- The character with a code point, unless it is a control character or none at
all. -/
def graphic? (codePoint : Nat) : Option Char :=
  if 0x20 ≤ codePoint ∧ codePoint.isValidChar then some (Char.ofNat codePoint) else none

/-- The character whose code point is written in hexadecimal. -/
def character? (digits : List Char) : Option Char := (hex? digits).bind graphic?

theorem le_toNat_of_graphic? {codePoint : Nat} {c : Char} (h : graphic? codePoint = some c) :
    0x20 ≤ c.toNat := by
  unfold graphic? at h
  split at h
  · next bounds =>
      cases h
      rw [Char.ofNat, dif_pos bounds.2]
      exact bounds.1
  · cases h

theorem le_toNat_of_character? {digits : List Char} {c : Char} (h : character? digits = some c) :
    0x20 ≤ c.toNat := by
  obtain ⟨_, _, graphic⟩ := Option.bind_eq_some_iff.1 h
  exact le_toNat_of_graphic? graphic

/-- What holds of every value that a reader can give holds of all values read
with it. -/
theorem forall_mem_of_mapM {α β : Type} {read? : α → Option β} {property : β → Prop}
    (each : ∀ a b, read? a = some b → property b) {texts : List α} {values : List β}
    (all : texts.mapM read? = some values) : ∀ b ∈ values, property b := by
  induction texts generalizing values with
  | nil =>
      cases all
      exact fun _ none => nomatch none
  | cons text texts ih =>
      rw [List.mapM_cons] at all
      obtain ⟨value, first, all⟩ := Option.bind_eq_some_iff.1 all
      obtain ⟨later, rest, all⟩ := Option.bind_eq_some_iff.1 all
      cases all
      intro b present
      rcases List.mem_cons.1 present with rfl | present
      · exact each _ _ first
      · exact ih rest b present

end ProofScript.Unicode
