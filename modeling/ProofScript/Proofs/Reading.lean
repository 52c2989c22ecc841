import ProofScript.ParseError
import ProofScript.Token.Class

/-!
# Reading token by token

Parsing expressions try alternatives and go back, so what a run of them has found out at
some token is not easy to say. A `Reader` takes in tokens one by one and never goes back:
its state after some tokens says which token may come next and whether what was read is
complete. It is not what runs. It is there to say what a run amounts to: `Reader.Tracks`
relates a function that reads tokens to a reader that gives the same answers.

* `Reader.Tracks.eq_ok_iff`: a list is read if its tokens can all be taken in and are
  complete then.
* `Reader.Tracks.eq_error_iff`: a list is refused where it divides into tokens that can
  be taken in and a rest with which the reader is stuck, and the error describes the
  reader at that place.
-/

namespace ProofScript

/-- A reader of tokens with states in `σ` and results in `α`. -/
structure Reader (σ α : Type) where
  /-- The state before any token. -/
  start : σ
  /-- The state after one more token, if that token may come next. -/
  step : σ → Token → Option σ
  /-- The result, if the tokens read so far are complete. -/
  finish? : σ → Option α
  /-- Whether a token may come next depends on its class alone. -/
  alike : ∀ state {token other : Token}, token.toClass = other.toClass →
    (step state token).isSome = (step state other).isSome

namespace Reader

variable {σ α : Type} {reader : Reader σ α} {state next : σ} {tokens front rest : List Token}

/-! ## Runs of a reader -/

/-- The state after some tokens, if each of them may come next in its turn. -/
def after (reader : Reader σ α) (state : σ) (tokens : List Token) : Option σ :=
  tokens.foldlM reader.step state

@[simp]
theorem after_nil : reader.after state [] = some state := rfl

theorem after_cons (token : Token) :
    reader.after state (token :: rest) =
      (reader.step state token).bind (reader.after · rest) :=
  List.foldlM_cons

theorem after_append :
    reader.after state (front ++ rest) = (reader.after state front).bind (reader.after · rest) :=
  List.foldlM_append

@[simp]
theorem after_singleton (token : Token) :
    reader.after state [token] = reader.step state token := by
  rw [after_cons]
  exact Option.bind_fun_some _

/-- Every token that a reader takes in was a possible one at some state. -/
theorem exists_step_of_mem {token : Token} (taken : reader.after state tokens = some next)
    (present : token ∈ tokens) : ∃ before behind, reader.step before token = some behind := by
  induction tokens generalizing state with
  | nil => cases present
  | cons first rest ih =>
      rw [after_cons] at taken
      obtain ⟨middle, stepped, taken⟩ := Option.bind_eq_some_iff.mp taken
      rcases List.mem_cons.mp present with rfl | later
      · exact ⟨state, middle, stepped⟩
      · exact ih taken later

/-! ## Where a reader stops -/

/-- A reader is stuck with the tokens that are left: one comes first that may not
come next, or there is none and what was read is not complete. -/
def Stuck (reader : Reader σ α) (state : σ) : List Token → Prop
  | [] => reader.finish? state = none
  | token :: _ => reader.step state token = none

/-- The names under which the tokens are known that may come next. -/
def Admits (reader : Reader σ α) (state : σ) (name : String) : Prop :=
  ∃ token : Token, (reader.step state token).isSome = true ∧ token.toClass.name = name

/-- The classes of tokens that may come next. One token stands for its class. -/
def admitted (reader : Reader σ α) (state : σ) : List TokenClass :=
  TokenClass.all.filter fun tokenClass => (reader.step state tokenClass.specimen).isSome

/-- The names of all that can stand after the tokens read so far. -/
def expected (reader : Reader σ α) (state : σ) : List String :=
  (if (reader.finish? state).isSome then ["EOF"] else [])
    ++ (reader.admitted state).map TokenClass.name

theorem mem_expected_iff {name : String} :
    name ∈ reader.expected state ↔
      ((reader.finish? state).isSome = true ∧ name = "EOF") ∨ reader.Admits state name := by
  have ending : name ∈ (if (reader.finish? state).isSome then ["EOF"] else []) ↔
      (reader.finish? state).isSome = true ∧ name = "EOF" := by
    split <;> simp_all
  rw [expected, List.mem_append, ending, List.mem_map]
  refine or_congr_right ?_
  constructor
  · rintro ⟨tokenClass, listed, rfl⟩
    have stepped := (List.mem_filter.mp listed).2
    exact ⟨tokenClass.specimen, stepped, by rw [TokenClass.toClass_specimen]⟩
  · rintro ⟨token, stepped, rfl⟩
    have alike := reader.alike state (TokenClass.toClass_specimen token.toClass)
    refine ⟨token.toClass, List.mem_filter.mpr ⟨TokenClass.mem_all _, ?_⟩, rfl⟩
    rw [alike, stepped]

/-- The names stand in their order, each of them once. -/
theorem pairwise_expected (reader : Reader σ α) (state : σ) :
    (reader.expected state).Pairwise (· < ·) := by
  have all : ("EOF" :: TokenClass.all.map TokenClass.name).Pairwise (· < ·) := by decide +kernel
  have tokens : ((reader.admitted state).map TokenClass.name).Sublist
      (TokenClass.all.map TokenClass.name) := List.filter_sublist.map TokenClass.name
  refine all.sublist ?_
  rw [expected]
  split
  · exact tokens.cons_cons "EOF"
  · exact tokens.cons "EOF"

/-- What a reader says where it is stuck. -/
def refusal (reader : Reader σ α) (state : σ) (front : List Token) : ParseError where
  line := Token.lineAfter front
  expected := reader.expected state

/-- The answer to a list of tokens. -/
inductive Answers (reader : Reader σ α) (tokens : List Token) : Except ParseError α → Prop
  | ok {state : σ} {result : α} : reader.after reader.start tokens = some state →
      reader.finish? state = some result → Answers reader tokens (.ok result)
  | error {front rest : List Token} {state : σ} : tokens = front ++ rest →
      reader.after reader.start front = some state → reader.Stuck state rest →
      Answers reader tokens (.error (reader.refusal state front))

/-- A reader gives the answers of a function that reads tokens. -/
def Tracks (reader : Reader σ α) (read : List Token → Except ParseError α) : Prop :=
  ∀ tokens, reader.Answers tokens (read tokens)

/-- A reader that is stuck does not get to a result. -/
theorem Stuck.finish?_eq_none (stuck : reader.Stuck state rest)
    (taken : reader.after state rest = some next) : reader.finish? next = none := by
  cases rest with
  | nil =>
      cases taken
      exact stuck
  | cons token rest =>
      have refused : reader.step state token = none := stuck
      rw [after_cons, refused] at taken
      cases taken

/-- Of two ways to divide a list where the reader is stuck, none is further. -/
theorem Stuck.eq_of_prefix {back : List Token} (begins : front <+: tokens)
    (taken : reader.after reader.start front = some state) (stuck : reader.Stuck state rest)
    (divided : front ++ rest = tokens ++ back)
    (further : reader.after reader.start tokens = some next) : front = tokens := by
  obtain ⟨more, rfl⟩ := begins
  rw [List.append_assoc, List.append_cancel_left_eq] at divided
  rw [after_append, taken, Option.bind_some] at further
  subst divided
  cases more with
  | nil => exact (List.append_nil front).symm
  | cons token more =>
      have refused : reader.step state token = none := stuck
      rw [after_cons, refused] at further
      cases further

/-- A list that can be read does not divide where the reader is stuck. -/
theorem Stuck.not_complete {result : α} (taken : reader.after reader.start front = some state)
    (stuck : reader.Stuck state rest)
    (whole : reader.after reader.start (front ++ rest) = some next) :
    reader.finish? next ≠ some result := by
  rw [after_append, taken, Option.bind_some] at whole
  rw [stuck.finish?_eq_none whole]
  exact Option.some_ne_none result |>.symm

/-- The answer is determined. -/
theorem Answers.unique {one other : Except ParseError α} (first : reader.Answers tokens one)
    (second : reader.Answers tokens other) : one = other := by
  cases first with
  | ok taken complete =>
      cases second with
      | ok again finished =>
          cases taken.symm.trans again
          exact congrArg Except.ok (Option.some.inj (complete.symm.trans finished))
      | error divided again stuck =>
          subst divided
          exact absurd complete (stuck.not_complete again taken)
  | @error front rest state divided taken stuck =>
      subst divided
      cases second with
      | ok again finished => exact absurd finished (stuck.not_complete taken again)
      | @error before back place parted again halted =>
          have same : front = before := by
            have begins : before <+: front ++ rest := parted ▸ List.prefix_append before back
            rcases List.prefix_or_prefix_of_prefix (List.prefix_append front rest) begins with
              shorter | longer
            · exact stuck.eq_of_prefix shorter taken parted again
            · exact (halted.eq_of_prefix longer again parted.symm taken).symm
          subst same
          cases taken.symm.trans again
          rfl

namespace Tracks

variable {read : List Token → Except ParseError α}

theorem of_after (tracks : reader.Tracks read) {result : α}
    (taken : reader.after reader.start tokens = some state)
    (complete : reader.finish? state = some result) : read tokens = .ok result :=
  (tracks tokens).unique (.ok taken complete)

theorem of_stuck (tracks : reader.Tracks read)
    (taken : reader.after reader.start front = some state) (stuck : reader.Stuck state rest) :
    read (front ++ rest) = .error (reader.refusal state front) :=
  (tracks (front ++ rest)).unique (.error rfl taken stuck)

theorem eq_ok_iff (tracks : reader.Tracks read) {result : α} :
    read tokens = .ok result ↔
      ∃ state, reader.after reader.start tokens = some state ∧
        reader.finish? state = some result := by
  constructor
  · intro ok
    have answers := tracks tokens
    rw [ok] at answers
    cases answers with
    | ok taken complete => exact ⟨_, taken, complete⟩
  · rintro ⟨state, taken, complete⟩
    exact tracks.of_after taken complete

theorem eq_error_iff (tracks : reader.Tracks read) {error : ParseError} :
    read tokens = .error error ↔
      ∃ front rest state, tokens = front ++ rest ∧
        reader.after reader.start front = some state ∧ reader.Stuck state rest ∧
        error = reader.refusal state front := by
  constructor
  · intro refused
    have answers := tracks tokens
    rw [refused] at answers
    cases answers with
    | error divided taken stuck => exact ⟨_, _, _, divided, taken, stuck, rfl⟩
  · rintro ⟨front, rest, state, rfl, taken, stuck, rfl⟩
    exact tracks.of_stuck taken stuck

end Tracks

end Reader

end ProofScript
