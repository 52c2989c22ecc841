import ProofScript.ParseError
import ProofScript.Token

/-!
# Parsing expressions

A parsing expression looks at the tokens from some position on. It matches, and returns
a value together with the input behind the match, or it fails. Choice is ordered: the
second alternative is tried if the first one fails, at the same position, and not if
what comes later fails. So an option is taken whenever it can be, and a repetition goes
on as long as it can.

Every token that is looked for in vain is recorded as an attempt, with its position and
the name of what was looked for, and stays in the record whatever becomes of the
expression that made it. `quiet` keeps the attempts of an expression out of the record,
and `expected` fails under a name of its own choice. If a list of tokens is not matched
to its end, the error is made up of the attempts that got furthest (`parseError`).

Expressions refer to themselves through `fix`. It unrolls an expression as often as there
are tokens left, and once more. That is all there is to unroll if the expression takes a
token before it comes back to itself.
-/

namespace ProofScript

/-- The tokens from some position on. -/
structure Input where
  position : Nat := 0
  rest : List Token

/-- A token that was looked for in vain: where, and under which name. -/
structure Attempt where
  position : Nat
  name : String
deriving DecidableEq

/-- What comes of a parsing expression: the attempts it made, and its value with the
input behind the match, unless it failed. -/
structure Outcome (α : Type) where
  attempts : List Attempt
  result : Option (α × Input)

namespace Outcome

variable {α β : Type}

/-- Go on behind a match. The attempts add up. -/
def andThen (outcome : Outcome α) (next : α → Input → Outcome β) : Outcome β :=
  match outcome with
  | ⟨attempts, none⟩ => ⟨attempts, none⟩
  | ⟨attempts, some (value, behind)⟩ =>
      let later := next value behind
      ⟨attempts ++ later.attempts, later.result⟩

/-- Do something else after a failure. The attempts add up. -/
def orElse (outcome : Outcome α) (other : Unit → Outcome α) : Outcome α :=
  match outcome with
  | ⟨attempts, none⟩ =>
      let later := other ()
      ⟨attempts ++ later.attempts, later.result⟩
  | ⟨attempts, some found⟩ => ⟨attempts, some found⟩

end Outcome

/-- A parsing expression with values in `α`. -/
structure Peg (α : Type) where
  run : Input → Outcome α
  /-- It only moves forward: what lies behind a match is the end of the input. -/
  forward : ∀ {input value next}, (run input).result = some (value, next) →
    next.rest <:+ input.rest

namespace Peg

variable {α β : Type}

/-- Match without taking a token. -/
protected def pure (value : α) : Peg α where
  run input := ⟨[], some (value, input)⟩
  forward found := by
    cases found
    exact List.suffix_refl _

/-- One expression after the other. -/
protected def bind (first : Peg α) (second : α → Peg β) : Peg β where
  run input := (first.run input).andThen fun value next => (second value).run next
  forward {input value next} found := by
    rcases ran : first.run input with ⟨attempts, _ | ⟨middle, between⟩⟩
    · rw [ran] at found
      cases found
    · rw [ran] at found
      exact ((second middle).forward found).trans (first.forward (by rw [ran]))

instance : Monad Peg where
  pure := Peg.pure
  bind := Peg.bind

/-- Ordered choice. -/
protected def orElse (first : Peg α) (second : Unit → Peg α) : Peg α where
  run input := (first.run input).orElse fun _ => (second ()).run input
  forward {input value next} found := by
    rcases ran : first.run input with ⟨attempts, _ | ⟨middle, between⟩⟩
    · rw [ran] at found
      exact (second ()).forward found
    · rw [ran] at found
      cases found
      exact first.forward (by rw [ran])

instance : OrElse (Peg α) where
  orElse := Peg.orElse

/-- Fail, and record what was looked for. -/
def expected (name : String) : Peg α where
  run input := ⟨[⟨input.position, name⟩], none⟩
  forward found := by cases found

/-- A token of some sort. The pattern describes the sort in the record. -/
def token (pattern : String) (accept : Token → Option α) : Peg α where
  run input :=
    match input.rest with
    | [] => (expected pattern).run input
    | token :: rest =>
        match accept token with
        | none => (expected pattern).run input
        | some value => ⟨[], some (value, { position := input.position + 1, rest })⟩
  forward {input value next} found := by
    split at found
    · cases found
    · next token rest shape =>
        split at found
        · cases found
        · cases found
          rw [shape]
          exact List.suffix_cons token rest

/-- Keep the attempts out of the record. -/
def quiet (inner : Peg α) : Peg α where
  run input := { inner.run input with attempts := [] }
  forward := inner.forward

/-- Look for something under a name of its own. -/
def named (name : String) (inner : Peg α) : Peg α := inner.quiet <|> expected name

/-- The expression if it matches. -/
def optional (inner : Peg α) : Peg (Option α) := (some <$> inner) <|> pure none

/-! ## Recursion -/

/-- An expression that refers to itself, with a bound on how often it does so. -/
def unrolled (body : Peg α → Peg α) : Nat → Peg α
  | 0 =>
      { run := fun _ => ⟨[], none⟩
        forward := by
          intro input value next found
          cases found }
  | depth + 1 =>
      { run := fun input => (body (unrolled body depth)).run input
        forward := (body (unrolled body depth)).forward }

/-- An expression that refers to itself. -/
def fix (body : Peg α → Peg α) : Peg α where
  run input := (unrolled body (input.rest.length + 1)).run input
  forward := (unrolled body _).forward

/-- One item or more, with a separator between neighbours. A separator that no item
follows is not taken. -/
def sepBy1 (item : Peg α) (separator : Peg Unit) : Peg (List α) :=
  fix fun items => do
    let first ← item
    let more ← (do separator; items) <|> pure []
    return first :: more

/-- Items with a separator between neighbours, or none. -/
def sepBy (item : Peg α) (separator : Peg Unit) : Peg (List α) :=
  sepBy1 item separator <|> pure []

/-! ## Whole lists of tokens -/

/-- The end of the input. -/
def ending : Peg Unit where
  run input :=
    match input.rest with
    | [] => ⟨[], some ((), input)⟩
    | _ :: _ => (expected "EOF").run input
  forward {input value next} found := by
    split at found
    · cases found
      exact List.suffix_refl _
    · cases found

/-- The furthest position of an attempt. -/
def furthest (attempts : List Attempt) : Nat :=
  attempts.foldl (fun most attempt => max most attempt.position) 0

/-- Put a name in its place in an ordered list, unless it is there already. -/
def insertName (name : String) : List String → List String
  | [] => [name]
  | first :: rest =>
      if name < first then name :: first :: rest
      else if name = first then first :: rest
      else first :: insertName name rest

/-- The names of the attempts at a position, each of them once and in order. -/
def namesAt (position : Nat) (attempts : List Attempt) : List String :=
  ((attempts.filter (·.position = position)).map Attempt.name).foldr insertName []

/-- The error that a record of attempts amounts to. -/
def parseError (tokens : List Token) (attempts : List Attempt) : ParseError where
  line := Token.lineAfter (tokens.take (furthest attempts))
  expected := namesAt (furthest attempts) attempts

/-- Match a whole list of tokens. -/
def read (rule : Peg α) (tokens : List Token) : Except ParseError α :=
  match Peg.run (do let value ← rule; ending; return value) { rest := tokens } with
  | ⟨_, some (value, _)⟩ => .ok value
  | ⟨attempts, none⟩ => .error (parseError tokens attempts)

end Peg

end ProofScript
