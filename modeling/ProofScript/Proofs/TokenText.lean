import ProofScript.Proofs.Words
import ProofScript.Unicode.LineBreak

/-!
# Tokens are cut from the text they are written as

`Token.render` writes tokens one after the other, with a blank between neighbours. Cutting
the text gives the tokens back, as long as they are tokens that a text can have
(`Token.Writable`). The blank keeps every two neighbours apart, whatever they are
(`Token.cuts_render`), and the text is its own normal form, since it is ASCII text
(`Token.normalise_render`). A text has no other tokens, so that writing them down again changes
at most their spelling.
-/

namespace ProofScript

/-! ## ASCII text -/

theorem all_intercalate {α : Type} {holds : α → Bool} {separator : List α}
    {texts : List (List α)} (between : separator.all holds = true)
    (each : ∀ text ∈ texts, text.all holds = true) :
    (separator.intercalate texts).all holds = true := by
  induction texts with
  | nil => rfl
  | cons text texts ih =>
      obtain ⟨first, later⟩ := List.forall_mem_cons.mp each
      cases texts with
      | nil => rwa [List.intercalate_singleton]
      | cons next texts =>
          rw [List.intercalate_cons_cons, List.all_append, List.all_append, first, between,
            ih later]
          rfl

theorem IsIdentifier.all_lt {name : String} (identifier : IsIdentifier name) :
    name.toList.all (·.toNat < 0x80) = true := by
  refine List.all_eq_true.mpr fun c present => decide_eq_true ?_
  have bounds := toNat_of_isLower (identifier.isLower_of_mem c present)
  omega

theorem all_lt_toString (value : Nat) :
    (toString value).toList.all (·.toNat < 0x80) = true := by
  refine List.all_eq_true.mpr fun c present => decide_eq_true ?_
  have most : c.toNat ≤ 57 :=
    (Char.isDigit_iff_toNat.mp (isDigit_of_mem_toString value c present)).2
  omega

theorem Token.all_lt_spelling (token : Token) (writable : token.Writable) :
    token.spelling.toList.all (·.toNat < 0x80) = true := by
  have fixed : ∀ token ∈ fixedTokens, token.spelling.toList.all (·.toNat < 0x80) = true := by
    decide +kernel
  rcases token.number_or_ident_or_fixed with ⟨value, rfl⟩ | ⟨name, rfl⟩ | listed
  · exact all_lt_toString value
  · exact IsIdentifier.all_lt writable
  · exact fixed token listed

/-! ## Written tokens -/

namespace Token

variable {tokens : List Token}

theorem toList_render (tokens : List Token) :
    (render tokens).toList = [' '].intercalate (tokens.map fun token => token.spelling.toList) := by
  rw [render, String.toList_intercalate, List.map_map]
  rfl

/-- Written tokens are cut apart at the blanks between them. -/
theorem cuts_render (writable : ∀ token ∈ tokens, token.Writable) :
    Cuts (render tokens).toList tokens := by
  have parts : List.Forall₂ Cuts (tokens.map fun token => token.spelling.toList)
      (tokens.map fun token => [token]) := by
    rw [List.forall₂_map_left_iff, List.forall₂_map_right_iff, List.forall₂_same]
    exact fun token present => token.cuts_spelling (writable token present)
  have whole : (tokens.map fun token => [token]).flatten = tokens := List.flatMap_singleton' tokens
  have cuts := cuts_intercalate parts
  rwa [whole, ← toList_render] at cuts

theorem normalise_render {normalise : List Char → List Char}
    (normaliser : Unicode.IsNormaliser normalise) (writable : ∀ token ∈ tokens, token.Writable) :
    normalise (render tokens).toList = (render tokens).toList := by
  refine normaliser.ascii ?_
  rw [toList_render]
  refine all_intercalate (by decide) fun text listed => ?_
  obtain ⟨token, present, rfl⟩ := List.mem_map.mp listed
  exact token.all_lt_spelling (writable token present)

theorem tokenize_render (writable : ∀ token ∈ tokens, token.Writable) :
    tokenize (render tokens) = .ok tokens := by
  rw [tokenize_eq_ok_iff, normalise_render Unicode.isNormaliser_nfkc writable]
  exact (cuts_render writable).lex?_eq

theorem writable_of_tokenize {text : String} (cut : tokenize text = .ok tokens) :
    ∀ token ∈ tokens, token.Writable := by
  intro token present
  exact writable_of_mem_lex? (tokenize_eq_ok_iff.mp cut) present

end Token

/-- Writing and cutting tokens are inverse. Tokens that a text can have are cut from the text
they are written as, neighbours separated by one blank. The tokens of any text are such tokens,
and are cut again from the text they are written as. -/
theorem written_tokens_cut_back :
    (∀ tokens : List Token, (∀ token ∈ tokens, token.Writable) →
      tokenize (Token.render tokens) = .ok tokens) ∧
    ∀ (text : String) (tokens : List Token), tokenize text = .ok tokens →
      (∀ token ∈ tokens, token.Writable) ∧ tokenize (Token.render tokens) = .ok tokens := by
  refine ⟨fun tokens writable => Token.tokenize_render writable, fun text tokens cut => ?_⟩
  have writable := Token.writable_of_tokenize cut
  exact ⟨writable, Token.tokenize_render writable⟩

/-- Neighbours that would run together without a blank, words that start like a keyword or end
like one, and the largest number. -/
def closeNeighbours : List Token :=
  [.rule (.infer .orE), .number 1, .rule (.infer .orI1), .ident "ora", .op .or, .ident "goals",
    .newline, .dash, .number maxNumber, .ident "true", .op .implies, .rule .goal]

theorem closeNeighbours_cut_back :
    tokenize "orE 1 orI1 ora or goals \n - 18446744073709551615 true => goal" =
      .ok closeNeighbours ∧
    (∀ token ∈ closeNeighbours, token.Writable) ∧
    tokenize (Token.render closeNeighbours) = .ok closeNeighbours := by
  have written : Token.render closeNeighbours =
      "orE 1 orI1 ora or goals \n - 18446744073709551615 true => goal" := by decide +kernel
  have cut := written_tokens_cut_back.1 closeNeighbours (by decide)
  rw [written] at cut
  exact ⟨cut, written_tokens_cut_back.2 _ _ cut⟩

end ProofScript
