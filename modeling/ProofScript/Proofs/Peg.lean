import Mathlib.Data.List.Sort
import Mathlib.Data.String.Basic
import ProofScript.Peg
import ProofScript.Proofs.Reading

/-!
# What parsing expressions do

Three things about parsing expressions do not depend on the rules they are used for.

* `Peg.fix_eq`: an expression that takes a token before it refers to itself is what its
  definition says, so that the bound in `fix` is never met. `Peg.Agree` is the means: two
  expressions that do the same on short inputs.
* `Marks` sums up a record of attempts by its furthest position and the names there.
  `Marks.parseError_eq` says which error such a record amounts to.
* `Reader.Run` compares the outcome of an expression with a reader: they are at the same
  place, and the record names what the reader would take in there. A rule whose runs
  compare in this way reads as the reader does (`Reader.answers_of_run`).
-/

namespace ProofScript

namespace Peg

variable {α β : Type} {p q : Peg α} {input : Input} {bound : Nat}

theorem ext (same : ∀ input, p.run input = q.run input) : p = q := by
  obtain ⟨first, _⟩ := p
  obtain ⟨second, _⟩ := q
  have run : first = second := funext same
  subst run
  rfl

/-! ## One expression at a time -/

theorem run_pure (value : α) : (pure value : Peg α).run input = ⟨[], some (value, input)⟩ := rfl

theorem run_bind (later : α → Peg β) :
    (p >>= later).run input =
      (p.run input).andThen fun value next => (later value).run next := rfl

theorem run_orElse : (p <|> q).run input = (p.run input).orElse fun _ => q.run input := rfl

theorem run_bind_of_match {attempts : List Attempt} {value : α} {next : Input}
    (ran : p.run input = ⟨attempts, some (value, next)⟩) (later : α → Peg β) :
    (p >>= later).run input =
      ⟨attempts ++ ((later value).run next).attempts, ((later value).run next).result⟩ := by
  rw [run_bind, ran]
  rfl

theorem run_bind_of_fail {attempts : List Attempt} (ran : p.run input = ⟨attempts, none⟩)
    (later : α → Peg β) : (p >>= later).run input = ⟨attempts, none⟩ := by
  rw [run_bind, ran]
  rfl

theorem run_orElse_of_match {attempts : List Attempt} {found : α × Input}
    (ran : p.run input = ⟨attempts, some found⟩) :
    (p <|> q).run input = ⟨attempts, some found⟩ := by
  rw [run_orElse, ran]
  rfl

theorem run_orElse_of_fail {attempts : List Attempt} (ran : p.run input = ⟨attempts, none⟩) :
    (p <|> q).run input = ⟨attempts ++ (q.run input).attempts, (q.run input).result⟩ := by
  rw [run_orElse, ran]
  rfl

theorem run_map_of_match {attempts : List Attempt} {value : α} {next : Input}
    (ran : p.run input = ⟨attempts, some (value, next)⟩) (f : α → β) :
    (f <$> p).run input = ⟨attempts, some (f value, next)⟩ := by
  have step := run_bind_of_match ran fun value => (pure (f value) : Peg β)
  simp only [run_pure, List.append_nil] at step
  exact step

theorem run_map_of_fail {attempts : List Attempt} (ran : p.run input = ⟨attempts, none⟩)
    (f : α → β) : (f <$> p).run input = ⟨attempts, none⟩ :=
  run_bind_of_fail ran fun value => pure (f value)

theorem run_optional_of_match {attempts : List Attempt} {value : α} {next : Input}
    (ran : p.run input = ⟨attempts, some (value, next)⟩) :
    p.optional.run input = ⟨attempts, some (some value, next)⟩ :=
  run_orElse_of_match (run_map_of_match ran some)

theorem run_optional_of_fail {attempts : List Attempt} (ran : p.run input = ⟨attempts, none⟩) :
    p.optional.run input = ⟨attempts, some (none, input)⟩ := by
  rw [optional, run_orElse_of_fail (run_map_of_fail ran some)]
  simp only [run_pure, List.append_nil]

/-! ## Tokens -/

section Token

variable {name pattern : String} {accept : Token → Option α} {position : Nat}
  {rest : List Token}

theorem run_token_of_some {found : Token} {value : α} (accepted : accept found = some value) :
    (token name accept).run ⟨position, found :: rest⟩ =
      ⟨[], some (value, ⟨position + 1, rest⟩)⟩ := by
  simp only [token, accepted]

theorem run_token_of_none (rejected : ∀ found ∈ rest.head?, accept found = none) :
    (token name accept).run ⟨position, rest⟩ = ⟨[⟨position, name⟩], none⟩ := by
  cases rest with
  | nil => rfl
  | cons found rest =>
      have rejected := rejected found rfl
      simp only [token, rejected]
      rfl

/-- A token under a name of its own goes into the record by that name. -/
theorem named_token : named name (token pattern accept) = token name accept := by
  refine ext fun input => ?_
  obtain ⟨position, rest⟩ := input
  by_cases rejected : ∀ found ∈ rest.head?, accept found = none
  · have quiet : (token pattern accept).quiet.run ⟨position, rest⟩ = ⟨[], none⟩ := by
      simp only [quiet, run_token_of_none rejected]
    rw [named, run_orElse_of_fail quiet, run_token_of_none rejected]
    rfl
  · push Not at rejected
    obtain ⟨found, first, accepted⟩ := rejected
    obtain ⟨rest, rfl⟩ := List.head?_eq_some_iff.mp first
    obtain ⟨value, accepted⟩ := Option.ne_none_iff_exists'.mp accepted
    have quiet : (token pattern accept).quiet.run ⟨position, found :: rest⟩ =
        ⟨[], some (value, ⟨position + 1, rest⟩)⟩ := by
      simp only [quiet, run_token_of_some accepted]
    rw [named, run_orElse_of_match quiet, run_token_of_some accepted]

end Token

/-! ## Recursion -/

/-- Two expressions do the same on inputs of fewer than `bound` tokens. -/
def Agree (bound : Nat) (p q : Peg α) : Prop :=
  ∀ input, input.rest.length < bound → p.run input = q.run input

/-- An expression takes at least one token when it matches. -/
def Consumes (p : Peg α) : Prop :=
  ∀ input value next, (p.run input).result = some (value, next) →
    next.rest.length < input.rest.length

namespace Agree

theorem refl (bound : Nat) (p : Peg α) : Agree bound p p := fun _ _ => rfl

theorem bind {first second : α → Peg β} (before : Agree bound p q)
    (behind : ∀ value, Agree bound (first value) (second value)) :
    Agree bound (p >>= first) (q >>= second) := by
  intro input short
  rw [run_bind, run_bind, before input short]
  rcases ran : q.run input with ⟨attempts, _ | ⟨value, next⟩⟩
  · rfl
  · have shorter := (q.forward (by rw [ran])).length_le
    simp only [Outcome.andThen, behind value next (by omega)]

/-- Behind a token it is enough to agree on shorter inputs. -/
theorem bind_of_consumes {first second : α → Peg β} (consumes : Consumes p)
    (behind : ∀ value, Agree bound (first value) (second value)) :
    Agree (bound + 1) (p >>= first) (p >>= second) := by
  intro input short
  rw [run_bind, run_bind]
  rcases ran : p.run input with ⟨attempts, _ | ⟨value, next⟩⟩
  · rfl
  · have shorter := consumes input value next (by rw [ran])
    simp only [Outcome.andThen, behind value next (by omega)]

theorem orElse {first second : Peg α} (before : Agree bound p q)
    (behind : Agree bound first second) : Agree bound (p <|> first) (q <|> second) := by
  intro input short
  rw [run_orElse, run_orElse, before input short, behind input short]

theorem optional (inner : Agree bound p q) : Agree bound p.optional q.optional :=
  orElse (bind inner fun _ => refl bound _) (refl bound _)

theorem fix {body other : Peg α → Peg α}
    (bodies : ∀ {p q}, Agree bound p q → Agree bound (body p) (other q)) :
    Agree bound (fix body) (fix other) := by
  have bounded (depth : Nat) : Agree bound (unrolled body depth) (unrolled other depth) := by
    induction depth with
    | zero => exact fun _ _ => rfl
    | succ depth ih => exact bodies ih
  intro input short
  exact bounded (input.rest.length + 1) input short

theorem sepBy1 {item other : Peg α} {separator : Peg Unit} (items : Agree bound item other) :
    Agree bound (sepBy1 item separator) (sepBy1 other separator) := by
  refine fix fun more => bind items fun first => ?_
  exact bind (orElse (bind (refl bound separator) fun _ => more) (refl bound _)) fun _ =>
    refl bound _

end Agree

/-- An expression takes a token before it refers to itself. -/
def Guarded (body : Peg α → Peg α) : Prop :=
  ∀ {bound : Nat} {p q : Peg α}, Agree bound p q → Agree (bound + 1) (body p) (body q)

theorem Guarded.agree_unrolled {body : Peg α → Peg α} (guarded : Guarded body)
    (depth more : Nat) : Agree depth (unrolled body depth) (unrolled body (depth + more)) := by
  induction depth with
  | zero =>
      intro input short
      cases short
  | succ depth ih =>
      rw [Nat.add_right_comm]
      exact guarded ih

/-- A guarded expression is what its definition says. -/
theorem fix_eq {body : Peg α → Peg α} (guarded : Guarded body) : fix body = body (fix body) := by
  refine ext fun input => ?_
  have inner : Agree input.rest.length (unrolled body input.rest.length) (fix body) := by
    intro other shorter
    obtain ⟨more, length⟩ := Nat.exists_eq_add_of_lt shorter
    rw [length, Nat.add_right_comm]
    exact (guarded.agree_unrolled (other.rest.length + 1) more other (Nat.lt_succ_self _)).symm
  exact guarded inner input (Nat.lt_succ_self _)

theorem sepBy1_eq (item : Peg α) {separator : Peg Unit} (consumes : Consumes separator) :
    sepBy1 item separator = do
      let first ← item
      let more ← (do separator; sepBy1 item separator) <|> pure []
      return first :: more := by
  refine fix_eq fun {bound p q} agree => .bind (.refl _ item) fun first => ?_
  exact .bind (.orElse (.bind_of_consumes consumes fun _ => agree) (.refl _ _)) fun _ =>
    .refl _ _

section Series

variable {item : Peg α} {separator : Peg Unit} {input next behind final : Input}
  {attempts others : List Attempt} {value : α} {values : List α}

theorem run_sepBy1_of_fail (consumes : Consumes separator)
    (ran : item.run input = ⟨attempts, none⟩) :
    (sepBy1 item separator).run input = ⟨attempts, none⟩ := by
  rw [sepBy1_eq item consumes, run_bind_of_fail ran]

/-- What would be behind the item fails, and the item is alone. -/
theorem run_sepBy1_of_alone (consumes : Consumes separator)
    (ran : item.run input = ⟨attempts, some (value, next)⟩)
    (failed : (do separator; sepBy1 item separator).run next = ⟨others, none⟩) :
    (sepBy1 item separator).run input = ⟨attempts ++ others, some ([value], next)⟩ := by
  have more : ((do separator; sepBy1 item separator) <|> pure []).run next =
      ⟨others ++ [], some ([], next)⟩ := run_orElse_of_fail failed
  rw [sepBy1_eq item consumes, run_bind_of_match ran, run_bind_of_match more]
  simp only [run_pure, List.append_nil]

/-- Nothing separates the item from another one. -/
theorem run_sepBy1_of_end (consumes : Consumes separator)
    (ran : item.run input = ⟨attempts, some (value, next)⟩)
    (ends : separator.run next = ⟨others, none⟩) :
    (sepBy1 item separator).run input = ⟨attempts ++ others, some ([value], next)⟩ :=
  run_sepBy1_of_alone consumes ran (run_bind_of_fail ends _)

theorem run_sepBy1_of_more (consumes : Consumes separator)
    (ran : item.run input = ⟨attempts, some (value, next)⟩)
    (separated : separator.run next = ⟨[], some ((), behind)⟩)
    (later : (sepBy1 item separator).run behind = ⟨others, some (values, final)⟩) :
    (sepBy1 item separator).run input =
      ⟨attempts ++ others, some (value :: values, final)⟩ := by
  have more : (do separator; sepBy1 item separator).run next =
      ⟨others, some (values, final)⟩ := by
    rw [run_bind_of_match separated, later]
    rfl
  rw [sepBy1_eq item consumes, run_bind_of_match ran,
    run_bind_of_match (run_orElse_of_match more)]
  simp only [run_pure, List.append_nil]

/-- A separator that no item follows is not taken. -/
theorem run_sepBy1_of_retreat (consumes : Consumes separator)
    (ran : item.run input = ⟨attempts, some (value, next)⟩)
    (separated : separator.run next = ⟨[], some ((), behind)⟩)
    (later : (sepBy1 item separator).run behind = ⟨others, none⟩) :
    (sepBy1 item separator).run input = ⟨attempts ++ others, some ([value], next)⟩ := by
  refine run_sepBy1_of_alone consumes ran ?_
  rw [run_bind_of_match separated, later]
  rfl

end Series

theorem consumes_token (name : String) (accept : Token → Option α) :
    Consumes (token name accept) := by
  rintro ⟨position, rest⟩ value next found
  cases rest with
  | nil => cases found
  | cons first rest =>
      cases accepted : accept first with
      | none =>
          simp only [token, accepted] at found
          cases found
      | some other =>
          rw [run_token_of_some accepted] at found
          cases found
          exact Nat.lt_succ_self _

end Peg

/-! ## Records of attempts -/

/-- All attempts were made before a position. -/
def Before (attempts : List Attempt) (position : Nat) : Prop :=
  ∀ attempt ∈ attempts, attempt.position < position

/-- The attempts go up to a position, and these are the names there. -/
structure Marks (attempts : List Attempt) (most : Nat) (names : String → Prop) : Prop where
  position_le : ∀ attempt ∈ attempts, attempt.position ≤ most
  mem_iff : ∀ name, ⟨most, name⟩ ∈ attempts ↔ names name

section Records

variable {attempts others : List Attempt} {position most : Nat} {names more : String → Prop}

theorem Before.append (first : Before attempts most) (second : Before others most) :
    Before (attempts ++ others) most :=
  List.forall_mem_append.mpr ⟨first, second⟩

theorem Before.mono (before : Before attempts position) (le : position ≤ most) :
    Before attempts most := by
  intro attempt present
  have lt := before attempt present
  omega

theorem before_nil (most : Nat) : Before [] most := List.forall_mem_nil _

theorem before_singleton (name : String) (lt : position < most) :
    Before [⟨position, name⟩] most := by
  intro attempt present
  rw [List.mem_singleton.mp present]
  exact lt

namespace Marks

theorem before (marks : Marks attempts position names) (lt : position < most) :
    Before attempts most := by
  intro attempt present
  have le := marks.position_le attempt present
  omega

theorem congr (marks : Marks attempts most names) (same : ∀ name, names name ↔ more name) :
    Marks attempts most more where
  position_le := marks.position_le
  mem_iff name := (marks.mem_iff name).trans (same name)

theorem append (first : Marks attempts most names) (second : Marks others most more) :
    Marks (attempts ++ others) most fun name => names name ∨ more name where
  position_le := List.forall_mem_append.mpr ⟨first.position_le, second.position_le⟩
  mem_iff name := by rw [List.mem_append, first.mem_iff, second.mem_iff]

theorem of_before (before : Before attempts most) : Marks attempts most fun _ => False where
  position_le attempt present := (before attempt present).le
  mem_iff name := by
    rw [iff_false]
    intro present
    exact Nat.lt_irrefl most (before _ present)

theorem append_before (marks : Marks attempts most names) (before : Before others most) :
    Marks (attempts ++ others) most names :=
  (marks.append (of_before before)).congr fun name => by rw [or_false]

theorem before_append (before : Before attempts most) (marks : Marks others most names) :
    Marks (attempts ++ others) most names :=
  ((of_before before).append marks).congr fun name => by rw [false_or]

theorem singleton (most : Nat) (name : String) : Marks [⟨most, name⟩] most (· = name) where
  position_le attempt present := by rw [List.mem_singleton.mp present]
  mem_iff other := by simp

end Marks

/-! ## The error of a record -/

theorem Peg.foldl_position_le_iff {start : Nat} :
    attempts.foldl (fun most attempt => max most attempt.position) start ≤ most ↔
      start ≤ most ∧ ∀ attempt ∈ attempts, attempt.position ≤ most := by
  induction attempts generalizing start with
  | nil => simp
  | cons attempt attempts ih =>
      rw [List.foldl_cons, ih, List.forall_mem_cons, Nat.max_le, and_assoc]

theorem Marks.furthest_eq {name : String} (marks : Marks attempts most names)
    (present : names name) : Peg.furthest attempts = most := by
  refine Nat.le_antisymm ?_ ?_
  · exact Peg.foldl_position_le_iff.mpr ⟨Nat.zero_le _, marks.position_le⟩
  · have bound := Peg.foldl_position_le_iff.mp (Nat.le_refl (Peg.furthest attempts))
    exact bound.2 _ ((marks.mem_iff name).mpr present)

theorem Peg.mem_insertName {name other : String} {list : List String} :
    other ∈ insertName name list ↔ other = name ∨ other ∈ list := by
  induction list with
  | nil => exact List.mem_cons
  | cons first rest ih =>
      rw [insertName]
      split
      · exact List.mem_cons
      · split
        · next same => simp [same]
        · rw [List.mem_cons, ih, List.mem_cons, or_left_comm]

theorem Peg.pairwise_insertName {name : String} {list : List String}
    (ordered : list.Pairwise (· < ·)) : (insertName name list).Pairwise (· < ·) := by
  induction list with
  | nil => exact List.pairwise_singleton _ _
  | cons first rest ih =>
      have later := List.pairwise_cons.mp ordered
      rw [insertName]
      split
      · next less =>
          refine List.pairwise_cons.mpr ⟨List.forall_mem_cons.mpr ⟨less, ?_⟩, ordered⟩
          exact fun other present => less.trans (later.1 other present)
      · next notLess =>
          split
          · exact ordered
          · next different =>
              have more : first < name := lt_of_le_of_ne (not_lt.mp notLess) (Ne.symm different)
              refine List.pairwise_cons.mpr ⟨fun other present => ?_, ih later.2⟩
              rcases mem_insertName.mp present with rfl | present
              · exact more
              · exact later.1 other present

theorem Peg.mem_foldr_insertName {name : String} {list : List String} :
    name ∈ list.foldr insertName [] ↔ name ∈ list := by
  induction list with
  | nil => rfl
  | cons first rest ih => rw [List.foldr_cons, mem_insertName, ih, List.mem_cons]

theorem Peg.pairwise_foldr_insertName (list : List String) :
    (list.foldr insertName []).Pairwise (· < ·) := by
  induction list with
  | nil => exact List.Pairwise.nil
  | cons first rest ih => exact pairwise_insertName ih

theorem Peg.mem_namesAt {name : String} :
    name ∈ namesAt position attempts ↔ ⟨position, name⟩ ∈ attempts := by
  rw [namesAt, mem_foldr_insertName, List.mem_map]
  constructor
  · rintro ⟨⟨place, _⟩, listed, rfl⟩
    obtain ⟨present, here⟩ := List.mem_filter.mp listed
    have same : place = position := of_decide_eq_true here
    rwa [← same]
  · intro present
    exact ⟨_, List.mem_filter.mpr ⟨present, decide_eq_true rfl⟩, rfl⟩

variable {σ α : Type} {reader : Reader σ α} {state : σ} {front rest : List Token}

/-- A record that names what a reader expects at some place is its refusal there. -/
theorem Marks.parseError_eq (marks : Marks attempts front.length (· ∈ reader.expected state))
    (listed : reader.expected state ≠ []) :
    Peg.parseError (front ++ rest) attempts = reader.refusal state front := by
  obtain ⟨name, others, shape⟩ := List.exists_cons_of_ne_nil listed
  have furthest := marks.furthest_eq (show name ∈ reader.expected state by simp [shape])
  have expected : Peg.namesAt front.length attempts = reader.expected state := by
    refine List.Pairwise.eq_of_mem_iff (Peg.pairwise_foldr_insertName _)
      (reader.pairwise_expected state) fun name => ?_
    rw [Peg.mem_namesAt, marks.mem_iff]
  rw [Peg.parseError, furthest, expected, List.take_left, Reader.refusal]

end Records

/-! ## Runs next to a reader -/

/-- A match, if there is one, ends before a position, and neither a closing parenthesis nor a
line break nor the end of the input comes next. -/
def EndsEarly {α : Type} (result : Option (α × Input)) (most : Nat) : Prop :=
  ∀ value next, result = some (value, next) → next.position < most ∧
    ∃ token rest, next.rest = token :: rest ∧ token ≠ .rparen ∧ token ≠ .newline

/-- The reader cannot take in the next token, if there is one. -/
def Reader.Halts {σ α : Type} (reader : Reader σ α) (state : σ) (rest : List Token) : Prop :=
  ∀ token ∈ rest.head?, reader.step state token = none

/-- The reader gets to a place where it can neither end nor go on, and the record goes up to
there and names what the reader would take in. -/
def Reader.Breaks {σ α : Type} (reader : Reader σ α) (start : σ) (front back : List Token)
    (most : Nat) (attempts : List Attempt) : Prop :=
  ∃ state, reader.after start front = some state ∧ reader.finish? state = none ∧
    reader.Halts state back ∧ Marks attempts most (reader.Admits state)

/-- What an expression makes of its input, next to a reader that is in some state before
it and to a grammar. -/
inductive Reader.Run {σ α : Type} (reader : Reader σ α) (derives : List Token → α → Prop)
    (start : σ) : Input → Outcome α → Prop
  /-- The match is as far as the reader gets, and complete. -/
  | complete {position : Nat} {front back : List Token} {state : σ} {value : α}
      {attempts : List Attempt} : derives front value →
      reader.after start front = some state → reader.finish? state = some value →
      reader.Halts state back →
      Marks attempts (position + front.length) (reader.Admits state) →
      Run reader derives start ⟨position, front ++ back⟩
        ⟨attempts, some (value, ⟨position + front.length, back⟩)⟩
  /-- The reader breaks off. The expression fails, or its match is not as far as that. -/
  | broken {position : Nat} {front back : List Token} {attempts : List Attempt}
      {result : Option (α × Input)} :
      reader.Breaks start front back (position + front.length) attempts →
      EndsEarly result (position + front.length) →
      Run reader derives start ⟨position, front ++ back⟩ ⟨attempts, result⟩

section Breaks

variable {σ α : Type} {reader : Reader σ α} {start middle : σ} {front back : List Token}
  {most : Nat} {attempts others : List Attempt}

theorem Reader.Breaks.prepend {before : List Token}
    (breaks : reader.Breaks middle front back most attempts)
    (taken : reader.after start before = some middle) :
    reader.Breaks start (before ++ front) back most attempts := by
  obtain ⟨state, further, incomplete, halts, marks⟩ := breaks
  refine ⟨state, ?_, incomplete, halts, marks⟩
  rw [after_append, taken]
  exact further

theorem Reader.Breaks.cons {token : Token}
    (breaks : reader.Breaks middle front back most attempts)
    (stepped : reader.step start token = some middle) :
    reader.Breaks start (token :: front) back most attempts :=
  breaks.prepend ((after_singleton token).trans stepped)

theorem Reader.Breaks.append_before (breaks : reader.Breaks start front back most attempts)
    (before : Before others most) :
    reader.Breaks start front back most (attempts ++ others) := by
  obtain ⟨state, taken, incomplete, halts, marks⟩ := breaks
  exact ⟨state, taken, incomplete, halts, marks.append_before before⟩

theorem Reader.Breaks.before_append (breaks : reader.Breaks start front back most attempts)
    (before : Before others most) :
    reader.Breaks start front back most (others ++ attempts) := by
  obtain ⟨state, taken, incomplete, halts, marks⟩ := breaks
  exact ⟨state, taken, incomplete, halts, .before_append before marks⟩

/-- A run behind some tokens that the reader takes in. -/
theorem Reader.Run.prepend {derives : List Token → α → Prop} {before rest : List Token}
    {position : Nat} {outcome : Outcome α} (taken : reader.after start before = some middle)
    (run : reader.Run (fun front => derives (before ++ front)) middle
      ⟨position + before.length, rest⟩ outcome) :
    reader.Run derives start ⟨position, before ++ rest⟩ outcome := by
  generalize shape : Input.mk (position + before.length) rest = input at run
  cases run with
  | @complete _ front back state value attempts derived further finished halts marks =>
      cases shape
      have length : position + (before ++ front).length =
          position + before.length + front.length := by
        rw [List.length_append, Nat.add_assoc]
      rw [← length] at marks ⊢
      rw [← List.append_assoc]
      refine .complete derived ?_ finished halts marks
      rw [after_append, taken]
      exact further
  | @broken _ front back attempts result breaks early =>
      cases shape
      have length : position + (before ++ front).length =
          position + before.length + front.length := by
        rw [List.length_append, Nat.add_assoc]
      rw [← length] at breaks early
      rw [← List.append_assoc]
      exact .broken (breaks.prepend taken) early

/-- Attempts before the place where a run starts make no difference to it. -/
theorem Reader.Run.before_append {derives : List Token → α → Prop} {input : Input}
    {result : Option (α × Input)} (run : reader.Run derives start input ⟨attempts, result⟩)
    (before : Before others input.position) :
    reader.Run derives start input ⟨others ++ attempts, result⟩ := by
  generalize shape : Outcome.mk attempts result = outcome at run
  cases run with
  | complete derived taken finished halts marks =>
      cases shape
      exact .complete derived taken finished halts
        (.before_append (before.mono (Nat.le_add_right _ _)) marks)
  | broken breaks early =>
      cases shape
      exact .broken (breaks.before_append (before.mono (Nat.le_add_right _ _))) early

theorem Reader.Run.imp {derives weaker : List Token → α → Prop} {input : Input}
    {outcome : Outcome α} (run : reader.Run derives start input outcome)
    (implies : ∀ front value, derives front value → weaker front value) :
    reader.Run weaker start input outcome := by
  cases run with
  | complete derived taken finished halts marks =>
      exact .complete (implies _ _ derived) taken finished halts marks
  | broken breaks early => exact .broken breaks early

theorem endsEarly_none (most : Nat) : EndsEarly (none : Option (α × Input)) most := by
  intro value next found
  cases found

theorem endsEarly_some {value : α} {position : Nat} {token : Token} {rest : List Token}
    (short : position < most) (unclosed : token ≠ .rparen) (within : token ≠ .newline) :
    EndsEarly (some (value, ⟨position, token :: rest⟩)) most := by
  intro other next found
  cases found
  exact ⟨short, token, rest, rfl, unclosed, within⟩

theorem EndsEarly.of_some {β : Type} {value : α} {other : β} {next : Input}
    (early : EndsEarly (some (value, next)) most) : EndsEarly (some (other, next)) most := by
  intro _ _ found
  cases found
  exact early value next rfl

end Breaks

section Tracking

variable {σ α : Type} {reader : Reader σ α} {rule : Peg α}

theorem Peg.read_of_fail {tokens : List Token} {attempts : List Attempt}
    (ran : rule.run ⟨0, tokens⟩ = ⟨attempts, none⟩) :
    rule.read tokens = .error (parseError tokens attempts) := by
  rw [read, run_bind_of_fail ran]

theorem Peg.read_of_match {tokens : List Token} {attempts : List Attempt} {value : α}
    {position : Nat} (ran : rule.run ⟨0, tokens⟩ = ⟨attempts, some (value, ⟨position, []⟩)⟩) :
    rule.read tokens = .ok value := by
  rw [read, run_bind_of_match ran]
  rfl

/-- A match that ends before the input does fails at the end that is not there. -/
theorem Peg.read_of_early_match {tokens rest : List Token} {attempts : List Attempt} {value : α}
    {position : Nat} {token : Token}
    (ran : rule.run ⟨0, tokens⟩ = ⟨attempts, some (value, ⟨position, token :: rest⟩)⟩) :
    rule.read tokens = .error (parseError tokens (attempts ++ [⟨position, "EOF"⟩])) := by
  rw [read, run_bind_of_match ran]
  rfl

theorem Reader.expected_ne_nil_of_admits {state : σ} {name : String}
    (admits : reader.Admits state name) : reader.expected state ≠ [] :=
  List.ne_nil_of_mem (mem_expected_iff.mpr (.inr admits))

/-- What a reader expects where it is not complete are the tokens it admits. -/
theorem Marks.expected_of_finish?_eq_none {attempts : List Attempt} {most : Nat} {state : σ}
    (marks : Marks attempts most (reader.Admits state)) (incomplete : reader.finish? state = none) :
    Marks attempts most (· ∈ reader.expected state) := by
  refine marks.congr fun name => ?_
  rw [Reader.mem_expected_iff, incomplete]
  simp

/-- A rule whose runs compare with a reader and a grammar gives the reader's answers, and what
it reads is what the grammar derives. -/
theorem Reader.answers_of_run {derives : List Token → α → Prop} {tokens : List Token}
    (goesOn : ∀ state, reader.finish? state = none → ∃ name, reader.Admits state name)
    (run : reader.Run derives reader.start ⟨0, tokens⟩ (rule.run ⟨0, tokens⟩)) :
    reader.Answers tokens (rule.read tokens) ∧
      ∀ value, rule.read tokens = .ok value → derives tokens value := by
  generalize initial : Input.mk 0 tokens = input at run
  generalize ran : rule.run input = outcome at run
  cases run with
  | @complete position front back state value attempts derived taken finished halts marks =>
      cases initial
      rw [Nat.zero_add] at marks ran
      cases back with
      | nil =>
          have read := Peg.read_of_match ran
          rw [List.append_nil] at read ⊢
          rw [read]
          refine ⟨.ok taken finished, fun other same => ?_⟩
          cases same
          exact derived
      | cons token rest =>
          have record := marks.append (.singleton front.length "EOF")
          have expected : Marks (attempts ++ [⟨front.length, "EOF"⟩]) front.length
              (· ∈ reader.expected state) := by
            refine record.congr fun name => ?_
            rw [mem_expected_iff, finished, or_comm]
            simp
          have listed : reader.expected state ≠ [] :=
            List.ne_nil_of_mem (mem_expected_iff.mpr (.inl ⟨by rw [finished]; rfl, rfl⟩))
          rw [Peg.read_of_early_match ran, expected.parseError_eq listed]
          refine ⟨.error rfl taken (halts token rfl), fun other same => ?_⟩
          cases same
  | @broken position front back attempts result breaks early =>
      cases initial
      rw [Nat.zero_add] at breaks early
      obtain ⟨state, taken, incomplete, halts, marks⟩ := breaks
      obtain ⟨name, admits⟩ := goesOn state incomplete
      have listed := expected_ne_nil_of_admits admits
      have stuck : reader.Stuck state back := by
        cases back with
        | nil => exact incomplete
        | cons token rest => exact halts token rfl
      have expected := marks.expected_of_finish?_eq_none incomplete
      have refused : rule.read (front ++ back) = .error (reader.refusal state front) := by
        cases result with
        | none => rw [Peg.read_of_fail ran, expected.parseError_eq listed]
        | some found =>
            obtain ⟨value, place, remaining⟩ := found
            obtain ⟨short, token, rest, shape, _⟩ := early value _ rfl
            cases shape
            have record := expected.append_before (before_singleton "EOF" short)
            rw [Peg.read_of_early_match ran, record.parseError_eq listed]
      rw [refused]
      refine ⟨.error rfl taken stuck, fun other same => ?_⟩
      cases same

end Tracking

end ProofScript
