import Mathlib.Data.List.Forall2
import ProofScript.Proofs.Runs
import ProofScript.Proofs.ScriptParser
import ProofScript.Unicode.LineBreak

/-!
# Scripts are read line by line

The rule for scripts goes through all lines in one run, goes back within it, and keeps one
record of attempts for all of it. Still nothing crosses a line break. A script is what its
lines are on their own: it can be read if each of them can, it has one step for each, and it
is refused for the first line that is refused on its own, with the same expectations
(`ReadByLines`). The run answers as `Script.reader` does, which goes from token to token
(`Script.reader_tracks`), so that the lines before an error only count.

The same holds of texts, because line breaks also divide what the normal form and the
lexer do. So a step stands on the line that its place in the script says, and a refusal
names that line (`script_read_by_lines`).
-/

namespace ProofScript

open List (Forall₂ forall₂_cons_left_iff forall₂_cons_right_iff forall₂_nil_left_iff)

/-! ## Lists divided into lines -/

section Lines

variable {α : Type} {separator : α} {line rest : List α}

/-- A list around one of its lines: each line before it is followed by a separator, and
each line behind it comes after one. -/
theorem intercalate_append_cons (before behind : List (List α)) :
    [separator].intercalate (before ++ line :: behind) =
      before.flatMap (· ++ [separator]) ++ (line ++ behind.flatMap (separator :: ·)) := by
  induction before with
  | nil =>
      induction behind generalizing line with
      | nil => simp
      | cons next behind ih =>
          rw [List.nil_append, List.intercalate_cons_cons, ← List.nil_append (next :: behind), ih]
          simp
  | cons first before ih =>
      obtain ⟨second, more, shape⟩ : ∃ second more, before ++ line :: behind = second :: more :=
        List.exists_cons_of_ne_nil (by simp)
      rw [List.cons_append, shape, List.intercalate_cons_cons, ← shape, ih]
      simp

theorem exists_forall₂_iff {β : Type} {related : α → β → Prop} {list : List α} :
    (∃ others, Forall₂ related list others) ↔ ∀ one ∈ list, ∃ other, related one other := by
  induction list with
  | nil => simp [forall₂_nil_left_iff]
  | cons first rest ih =>
      rw [List.forall_mem_cons, ← ih]
      constructor
      · rintro ⟨others, matched⟩
        obtain ⟨other, more, head, tail, rfl⟩ := forall₂_cons_left_iff.mp matched
        exact ⟨⟨other, head⟩, more, tail⟩
      · rintro ⟨⟨other, head⟩, more, tail⟩
        exact ⟨other :: more, .cons head tail⟩

theorem forall₂_singleton_left_iff {β : Type} {related : α → β → Prop} {one : α}
    {list : List β} : Forall₂ related [one] list ↔ ∃ other, list = [other] ∧ related one other := by
  rw [forall₂_cons_left_iff]
  constructor
  · rintro ⟨other, more, head, tail, rfl⟩
    cases tail
    exact ⟨other, rfl, head⟩
  · rintro ⟨other, rfl, head⟩
    exact ⟨other, [], head, .nil, rfl⟩

theorem forall₂_append_left_iff {β : Type} {related : α → β → Prop} {front back : List α}
    {list : List β} :
    Forall₂ related (front ++ back) list ↔
      ∃ before behind, Forall₂ related front before ∧ Forall₂ related back behind ∧
        list = before ++ behind := by
  constructor
  · intro matched
    induction front generalizing list with
    | nil => exact ⟨[], list, .nil, matched, rfl⟩
    | cons one front ih =>
        obtain ⟨other, more, head, tail, rfl⟩ := forall₂_cons_left_iff.mp matched
        obtain ⟨before, behind, first, second, rfl⟩ := ih tail
        exact ⟨other :: before, behind, .cons head first, second, rfl⟩
  · rintro ⟨before, behind, first, second, rfl⟩
    exact List.rel_append first second

theorem exists_related_of_append {β : Type} {related : α → β → Prop} {list : List α}
    {done later : List β} {step : β} (matched : Forall₂ related list (done ++ step :: later)) :
    ∃ before one behind, list = before ++ one :: behind ∧ before.length = done.length ∧
      related one step := by
  have front := List.forall₂_take_append list done (step :: later) matched
  have back := List.forall₂_drop_append list done (step :: later) matched
  obtain ⟨one, behind, here, _, rest⟩ := forall₂_cons_right_iff.mp back
  refine ⟨list.take done.length, one, behind, ?_, front.length_eq, here⟩
  rw [← rest, List.take_append_drop]

variable [DecidableEq α]

theorem splitOn_append (front back : List α) :
    (front ++ separator :: back).splitOn separator =
      front.splitOn separator ++ back.splitOn separator := by
  simp only [List.splitOn_eq_splitOnP]
  exact List.splitOnP_append_cons front back (beq_self_eq_true separator)

theorem splitOn_append_cons (free : separator ∉ line) (rest : List α) :
    (line ++ separator :: rest).splitOn separator = line :: rest.splitOn separator := by
  rw [splitOn_append, List.splitOn_eq_singleton free]
  rfl

/-- A list is a single line, or a line, a separator and further lines. -/
theorem lines_induction (separator : α) {motive : List α → Prop}
    (last : ∀ line, separator ∉ line → motive line)
    (cons : ∀ line rest, separator ∉ line → motive rest → motive (line ++ separator :: rest))
    (list : List α) : motive list := by
  by_cases present : separator ∈ list
  · obtain ⟨line, rest, rfl, free⟩ := List.eq_append_cons_of_mem present
    exact cons line rest free (lines_induction separator last cons rest)
  · exact last list present
termination_by list.length
decreasing_by
  subst_vars
  simp only [List.length_append, List.length_cons]
  omega

theorem length_splitOn (separator : α) (list : List α) :
    (list.splitOn separator).length = 1 + list.count separator := by
  induction list using lines_induction separator with
  | last line free =>
      rw [List.splitOn_eq_singleton free, List.count_eq_zero.mpr free]
      rfl
  | cons line rest free ih =>
      rw [splitOn_append_cons free, List.length_cons, ih, List.count_append,
        List.count_eq_zero.mpr free, List.count_cons_self]
      omega

theorem not_mem_of_mem_splitOn {list : List α} (listed : line ∈ list.splitOn separator) :
    separator ∉ line := by
  induction list using lines_induction separator with
  | last only free =>
      rw [List.splitOn_eq_singleton free, List.mem_singleton] at listed
      rwa [listed]
  | cons first rest free ih =>
      rw [splitOn_append_cons free] at listed
      rcases List.mem_cons.mp listed with rfl | later
      · exact free
      · exact ih later

end Lines

/-! ## The lines of a script -/

variable {tokens line : List Token} {script : Script} {step : Step}

theorem isScript_iff_forall₂ :
    IsScript tokens script ↔ Forall₂ IsLine (tokens.splitOn .newline) script := by
  constructor
  · intro derived
    induction derived with
    | last derived =>
        rw [List.splitOn_eq_singleton derived.newline_not_mem]
        exact .cons derived .nil
    | cons derived _ ih =>
        rw [splitOn_append_cons derived.newline_not_mem]
        exact .cons derived ih
  · intro matched
    induction tokens using lines_induction Token.newline generalizing script with
    | last line free =>
        rw [List.splitOn_eq_singleton free] at matched
        obtain ⟨step, rfl, derived⟩ := forall₂_singleton_left_iff.mp matched
        exact .last derived
    | cons line rest free ih =>
        rw [splitOn_append_cons free] at matched
        obtain ⟨step, more, derived, tail, rfl⟩ := forall₂_cons_left_iff.mp matched
        exact .cons derived (ih tail)

theorem IsScript.exists_singleton (derived : IsScript line script)
    (free : Token.newline ∉ line) : ∃ step, script = [step] ∧ IsLine line step := by
  rw [isScript_iff_forall₂, List.splitOn_eq_singleton free] at derived
  exact forall₂_singleton_left_iff.mp derived

/-- A script of one step is a line. -/
theorem Script.read_eq_singleton_iff :
    Script.read line = .ok [step] ↔ IsLine line step := by
  rw [Script.read_eq_ok_iff]
  constructor
  · intro derived
    cases derived with
    | last derived => exact derived
    | cons _ more => cases more
  · exact IsScript.last

theorem Script.read_eq_ok_iff_forall₂ :
    Script.read tokens = .ok script ↔
      Forall₂ (fun line step => Script.read line = .ok [step])
        (tokens.splitOn .newline) script := by
  simp only [Script.read_eq_singleton_iff]
  rw [Script.read_eq_ok_iff, isScript_iff_forall₂]

theorem Script.exists_read_iff_exists_isLine (free : Token.newline ∉ line) :
    (∃ script, Script.read line = .ok script) ↔ ∃ step, IsLine line step := by
  constructor
  · rintro ⟨script, ok⟩
    obtain ⟨step, _, derived⟩ := (Script.read_eq_ok_iff.mp ok).exists_singleton free
    exact ⟨step, derived⟩
  · rintro ⟨step, derived⟩
    exact ⟨[step], Script.read_eq_singleton_iff.mpr derived⟩

/-- A script can be read exactly if each of its lines can. -/
theorem Script.exists_read_iff_forall_lines :
    (∃ script, Script.read tokens = .ok script) ↔
      ∀ line ∈ tokens.splitOn .newline, ∃ script, Script.read line = .ok script := by
  have whole : (∃ script, Script.read tokens = .ok script) ↔
      ∃ script, Forall₂ IsLine (tokens.splitOn .newline) script := by
    simp only [Script.read_eq_ok_iff, isScript_iff_forall₂]
  rw [whole, exists_forall₂_iff]
  refine forall₂_congr fun line listed => ?_
  rw [Script.exists_read_iff_exists_isLine (not_mem_of_mem_splitOn listed)]

/-! ## The first line that is refused -/

theorem Script.after_lines {lines : List (List Token)}
    (derived : ∀ line ∈ lines, ∃ step, IsLine line step) (done : Array Step) :
    ∃ more : Array Step,
      Script.reader.after { done } (lines.flatMap (· ++ [.newline])) = some { done := more } := by
  induction lines generalizing done with
  | nil => exact ⟨done, rfl⟩
  | cons line lines ih =>
      obtain ⟨⟨step, first⟩, later⟩ := List.forall_mem_cons.mp derived
      obtain ⟨more, taken⟩ := ih later (done.push step)
      refine ⟨more, ?_⟩
      rw [List.flatMap_cons, Reader.after_append, Script.after_line_break done first]
      exact taken

theorem count_newline_lines {lines : List (List Token)}
    (free : ∀ line ∈ lines, Token.newline ∉ line) :
    (lines.flatMap (· ++ [Token.newline])).count .newline = lines.length := by
  induction lines with
  | nil => rfl
  | cons line lines ih =>
      obtain ⟨first, later⟩ := List.forall_mem_cons.mp free
      rw [List.flatMap_cons, List.count_append, List.count_append, ih later,
        List.count_eq_zero.mpr first, List.count_cons_self, List.length_cons]
      simp only [List.count_nil]
      omega

/-- What can come next does not depend on the lines before. -/
theorem Script.expected_eq (done : Array Step) (line : LinePlace) :
    Script.reader.expected { done, line } = Script.reader.expected { line } := by
  have step (token : Token) : (Script.reader.step { done, line } token).isSome =
      (Script.reader.step { line } token).isSome := by
    cases token <;> simp [Script.reader, ScriptPlace.step]
  have finish : (Script.reader.finish? { done, line }).isSome =
      (Script.reader.finish? { line }).isSome := by
    simp [Script.reader, ScriptPlace.finish?]
  simp only [Reader.expected, Reader.admitted, step, finish]

/-- A line that is refused on its own is refused after other lines and before a line
break, too. -/
theorem Script.stuck_within {place : LinePlace} {rest behind : List Token} (done : Array Step)
    (stuck : Script.reader.Stuck { line := place } rest) (free : Token.newline ∉ rest)
    (breaks : ∀ token ∈ behind.head?, token = Token.newline) :
    Script.reader.Stuck { done, line := place } (rest ++ behind) := by
  cases rest with
  | nil =>
      have unfinished : place.finish? = none := Option.map_eq_none_iff.mp stuck
      cases behind with
      | nil => exact Option.map_eq_none_iff.mpr unfinished
      | cons token behind =>
          cases breaks token rfl
          exact Option.map_eq_none_iff.mpr unfinished
  | cons token rest =>
      have other : token ≠ .newline := fun same => free (same ▸ List.mem_cons_self)
      have refused : ScriptPlace.step { line := place } token = none := stuck
      rw [ScriptPlace.step_of_ne_newline #[] place other, Option.map_eq_none_iff] at refused
      have stepped := ScriptPlace.step_of_ne_newline done place other
      rw [refused] at stepped
      exact stepped

/-- A line that is refused on its own divides where the reader of lines is stuck. -/
theorem Script.exists_stuck_of_line {error : ParseError} (free : Token.newline ∉ line)
    (refused : Script.read line = .error error) :
    ∃ front rest place, line = front ++ rest ∧ Step.reader.after {} front = some place ∧
      Script.reader.Stuck { line := place } rest ∧
      error = { line := 1, expected := Script.reader.expected { line := place } } := by
  obtain ⟨front, rest, ⟨_, place⟩, rfl, taken, stuck, rfl⟩ :=
    Script.reader_tracks.eq_error_iff.mp refused
  rw [List.mem_append, not_or] at free
  rw [show Script.reader.start = {} from rfl, Script.after_line #[] {} free.1] at taken
  obtain ⟨under, taken, same⟩ := Option.map_eq_some_iff.mp taken
  cases same
  refine ⟨front, rest, place, rfl, taken, stuck, ?_⟩
  rw [Reader.refusal, Token.lineAfter, List.count_eq_zero.mpr free.1]

/-- Behind other lines the reader of scripts is stuck where the reader of lines is. -/
theorem Script.read_of_stuck_line {before : List (List Token)} {front rest back : List Token}
    {place : LinePlace} (derived : ∀ line ∈ before, ∃ step, IsLine line step)
    (free : Token.newline ∉ front ++ rest) (taken : Step.reader.after {} front = some place)
    (stuck : Script.reader.Stuck { line := place } rest)
    (breaks : ∀ token ∈ back.head?, token = Token.newline) :
    Script.read (before.flatMap (· ++ [.newline]) ++ (front ++ rest ++ back)) =
      .error
        { line := before.length + 1, expected := Script.reader.expected { line := place } } := by
  rw [List.mem_append, not_or] at free
  obtain ⟨done, passed⟩ := Script.after_lines derived #[]
  have reached : Script.reader.after Script.reader.start
      (before.flatMap (· ++ [.newline]) ++ front) = some { done, line := place } := by
    rw [Reader.after_append, show Script.reader.start = {} from rfl, passed, Option.bind_some,
      Script.after_line done {} free.1, taken]
    rfl
  have count : (before.flatMap (· ++ [Token.newline])).count .newline = before.length := by
    refine count_newline_lines fun line listed => ?_
    obtain ⟨step, derived⟩ := derived line listed
    exact derived.newline_not_mem
  rw [List.append_assoc front, ← List.append_assoc,
    Script.reader_tracks.of_stuck reached (Script.stuck_within done stuck free.2 breaks),
    Reader.refusal, Token.lineAfter, List.count_append, count, List.count_eq_zero.mpr free.1,
    Script.expected_eq, Nat.add_zero, Nat.add_comm]

/-- A script is refused for its first line that is refused on its own. -/
theorem Script.read_of_refused_line {before behind : List (List Token)} {error : ParseError}
    (divided : tokens.splitOn .newline = before ++ line :: behind)
    (earlier : ∀ other ∈ before, ∃ script, Script.read other = .ok script)
    (refused : Script.read line = .error error) :
    error.line = 1 ∧ Script.read tokens =
      .error { line := before.length + 1, expected := error.expected } := by
  have clear : ∀ other ∈ before ++ line :: behind, Token.newline ∉ other := by
    intro other listed
    rw [← divided] at listed
    exact not_mem_of_mem_splitOn listed
  have derived : ∀ other ∈ before, ∃ step, IsLine other step := by
    intro other listed
    have free := clear other (List.mem_append_left _ listed)
    exact (Script.exists_read_iff_exists_isLine free).mp (earlier other listed)
  have free : Token.newline ∉ line := clear line (by simp)
  obtain ⟨front, rest, place, rfl, taken, stuck, rfl⟩ := Script.exists_stuck_of_line free refused
  have breaks : ∀ token ∈ (behind.flatMap (Token.newline :: ·)).head?, token = Token.newline := by
    cases behind <;> simp
  have joined : [Token.newline].intercalate (tokens.splitOn .newline) = tokens :=
    List.intercalate_splitOn Token.newline
  rw [divided, intercalate_append_cons] at joined
  refine ⟨rfl, ?_⟩
  rw [← joined, Script.read_of_stuck_line derived free taken stuck breaks]

/-- Not all lines can be read, so there is a first one that cannot. -/
theorem exists_refused_line {lines : List (List Token)}
    (unread : ¬∀ line ∈ lines, ∃ script, Script.read line = .ok script) :
    ∃ before line behind error, lines = before ++ line :: behind ∧
      (∀ other ∈ before, ∃ script, Script.read other = .ok script) ∧
      Script.read line = .error error := by
  induction lines with
  | nil => exact absurd nofun unread
  | cons first lines ih =>
      cases answer : Script.read first with
      | error error => exact ⟨[], first, lines, error, rfl, nofun, answer⟩
      | ok script =>
          rw [List.forall_mem_cons, not_and] at unread
          obtain ⟨before, line, behind, error, rfl, earlier, refused⟩ := ih (unread ⟨_, answer⟩)
          refine ⟨first :: before, line, behind, error, rfl, ?_, refused⟩
          exact List.forall_mem_cons.mpr ⟨⟨script, answer⟩, earlier⟩

theorem Script.read_eq_error_iff_line {error : ParseError} :
    Script.read tokens = .error error ↔
      ∃ (before : List (List Token)) (line : List Token) (behind : List (List Token)),
        tokens.splitOn .newline = before ++ line :: behind ∧
        (∀ other ∈ before, ∃ script, Script.read other = .ok script) ∧
        Script.read line = .error { line := 1, expected := error.expected } ∧
        error.line = before.length + 1 := by
  constructor
  · intro refused
    have unread : ¬∃ script, Script.read tokens = .ok script := by
      rintro ⟨script, ok⟩
      cases refused.symm.trans ok
    rw [Script.exists_read_iff_forall_lines] at unread
    obtain ⟨before, line, behind, refusal, divided, earlier, failed⟩ := exists_refused_line unread
    obtain ⟨one, whole⟩ := Script.read_of_refused_line divided earlier failed
    cases refused.symm.trans whole
    refine ⟨before, line, behind, divided, earlier, ?_, rfl⟩
    rw [failed, ← one]
  · rintro ⟨before, line, behind, divided, earlier, failed, number⟩
    rw [(Script.read_of_refused_line divided earlier failed).2, ← number]

/-- The reading of a list of tokens is that of its lines. -/
structure ReadByLines (tokens : List Token) (lines : List (List Token)) : Prop where
  /-- There is one line more than line breaks. -/
  length : lines.length = 1 + tokens.count .newline
  /-- A line contains no line break. -/
  free : ∀ line ∈ lines, .newline ∉ line
  /-- With line breaks between them the lines are the whole list. -/
  whole : [.newline].intercalate lines = tokens
  /-- A list can be read exactly if each line can be read on its own. -/
  exists_iff : (∃ script, Script.read tokens = .ok script) ↔
    ∀ line ∈ lines, ∃ script, Script.read line = .ok script
  /-- A line that can be read on its own is one step. -/
  single : ∀ line ∈ lines, ∀ script, Script.read line = .ok script →
    ∃ step, script = [step]
  /-- The steps are those of the lines, one for each and in the same order. -/
  ok_iff : ∀ script, Script.read tokens = .ok script ↔
    Forall₂ (fun line step => Script.read line = .ok [step]) lines script
  /-- The error is that of the first line that is refused on its own, which counts itself
  as the first line. -/
  error_iff : ∀ error, Script.read tokens = .error error ↔
    ∃ (before : List (List Token)) (line : List Token) (behind : List (List Token)),
      lines = before ++ line :: behind ∧
      (∀ other ∈ before, ∃ script, Script.read other = .ok script) ∧
      Script.read line = .error { line := 1, expected := error.expected } ∧
      error.line = before.length + 1

theorem readByLines (tokens : List Token) : ReadByLines tokens (tokens.splitOn .newline) where
  length := length_splitOn .newline tokens
  free _ := not_mem_of_mem_splitOn
  whole := List.intercalate_splitOn Token.newline
  exists_iff := Script.exists_read_iff_forall_lines
  single line listed script ok := by
    have free := not_mem_of_mem_splitOn listed
    obtain ⟨step, same, _⟩ := (Script.read_eq_ok_iff.mp ok).exists_singleton free
    exact ⟨step, same⟩
  ok_iff _ := Script.read_eq_ok_iff_forall₂
  error_iff _ := Script.read_eq_error_iff_line

/-! ## The lines of a text -/

/-- A text in normal form is cut into the tokens of a script. -/
def Spells (text : List Char) (script : Script) : Prop :=
  ∃ tokens, lex? text = some tokens ∧ IsScript tokens script

theorem Script.parse_eq_ok_iff {text : String} :
    Script.parse text = .ok script ↔ Spells (Unicode.nfkc text.toList) script := by
  simp only [Script.parse, parseWith_eq_ok_iff, Script.read_eq_ok_iff, Spells]

theorem Spells.exists_singleton {line : List Char} (spells : Spells line script)
    (free : '\n' ∉ line) : ∃ step, script = [step] := by
  obtain ⟨tokens, cut, derived⟩ := spells
  obtain ⟨step, same, _⟩ := derived.exists_singleton (newline_not_mem_of_lex? free cut)
  exact ⟨step, same⟩

theorem spells_append_newline {line rest : List Char} (free : '\n' ∉ line) :
    Spells (line ++ '\n' :: rest) script ↔
      ∃ step steps, Spells line [step] ∧ Spells rest steps ∧ script = step :: steps := by
  constructor
  · rintro ⟨tokens, whole, derived⟩
    rw [lex?_append_newline] at whole
    obtain ⟨front, cut, others⟩ := Option.bind_eq_some_iff.mp whole
    obtain ⟨more, later, rfl⟩ := Option.map_eq_some_iff.mp others
    rw [isScript_iff_forall₂, splitOn_append_cons (newline_not_mem_of_lex? free cut)] at derived
    obtain ⟨step, steps, first, tail, rfl⟩ := forall₂_cons_left_iff.mp derived
    exact ⟨step, steps, ⟨front, cut, .last first⟩, ⟨more, later, isScript_iff_forall₂.mpr tail⟩,
      rfl⟩
  · rintro ⟨step, steps, ⟨front, cut, first⟩, ⟨more, later, derived⟩, rfl⟩
    refine ⟨front ++ .newline :: more, ?_, ?_⟩
    · rw [lex?_append_newline, cut, later]
      rfl
    · exact .cons (Script.read_eq_singleton_iff.mp (Script.read_eq_ok_iff.mpr first)) derived

section Normaliser

variable {normalise : List Char → List Char} (normaliser : Unicode.IsNormaliser normalise)

include normaliser

theorem splitOn_normalise (text : List Char) :
    (normalise text).splitOn '\n' = (text.splitOn '\n').map normalise := by
  induction text using lines_induction '\n' with
  | last line free =>
      rw [List.splitOn_eq_singleton free,
        List.splitOn_eq_singleton (normaliser.newline_not_mem free)]
      rfl
  | cons line rest free ih =>
      rw [normaliser.append_newline, splitOn_append_cons (normaliser.newline_not_mem free),
        splitOn_append_cons free, ih]
      rfl

theorem spells_iff_forall₂ (text : List Char) :
    Spells (normalise text) script ↔
      Forall₂ (fun line step => Spells (normalise line) [step]) (text.splitOn '\n') script := by
  induction text using lines_induction '\n' generalizing script with
  | last line free =>
      rw [List.splitOn_eq_singleton free, forall₂_singleton_left_iff]
      constructor
      · intro spells
        obtain ⟨step, rfl⟩ := spells.exists_singleton (normaliser.newline_not_mem free)
        exact ⟨step, rfl, spells⟩
      · rintro ⟨step, rfl, spells⟩
        exact spells
  | cons line rest free ih =>
      rw [normaliser.append_newline, spells_append_newline (normaliser.newline_not_mem free),
        splitOn_append_cons free, forall₂_cons_left_iff]
      simp only [ih]

end Normaliser

theorem Script.parse_eq_ok_iff_forall₂ {text : String} :
    Script.parse text = .ok script ↔
      Forall₂ (fun line step => Script.parse (String.ofList line) = .ok [step])
        (text.toList.splitOn '\n') script := by
  simp only [Script.parse_eq_ok_iff, String.toList_ofList]
  exact spells_iff_forall₂ Unicode.isNormaliser_nfkc text.toList

/-- Scripts are read line by line, as tokens and as texts. The lines of a text in normal
form are those of the text, each in normal form, and the steps of a script are written
on them in order. So a refused step is refused by the number of its line. -/
theorem script_read_by_lines :
    (∀ tokens : List Token, ReadByLines tokens (tokens.splitOn .newline)) ∧
    ∀ text : String,
      (Unicode.nfkc text.toList).splitOn '\n' = (text.toList.splitOn '\n').map Unicode.nfkc ∧
      (∀ script, Script.parse text = .ok script ↔
        Forall₂ (fun line step => Script.parse (String.ofList line) = .ok [step])
          (text.toList.splitOn '\n') script) ∧
      ∀ failure, Script.run text = .error (.refused failure) ↔
        ∃ (before : List (List Char)) (line : List Char) (behind : List (List Char))
          (done : Script) (step : Step) (later : Script) (reached : State),
          text.toList.splitOn '\n' = before ++ line :: behind ∧
          Script.parse text = .ok (done ++ step :: later) ∧
          before.length = done.length ∧
          Script.parse (String.ofList line) = .ok [step] ∧
          State.empty.run done = .ok reached ∧
          reached.apply step = .error failure.cause ∧
          failure.line = before.length + 1 := by
  refine ⟨readByLines, fun text =>
    ⟨splitOn_normalise Unicode.isNormaliser_nfkc text.toList, ?_, ?_⟩⟩
  · exact fun script => Script.parse_eq_ok_iff_forall₂
  · intro failure
    rw [Script.run_eq_refused_iff]
    constructor
    · rintro ⟨script, parsed, failed⟩
      obtain ⟨done, step, later, reached, rfl, ran, refused, number⟩ :=
        State.run_eq_error_iff.mp failed
      obtain ⟨before, line, behind, divided, even, written⟩ :=
        exists_related_of_append (Script.parse_eq_ok_iff_forall₂.mp parsed)
      refine ⟨before, line, behind, done, step, later, reached, divided, parsed, even, written,
        ran, refused, ?_⟩
      rw [even, number]
    · rintro ⟨before, line, behind, done, step, later, reached, _, parsed, even, _, ran, refused,
        number⟩
      refine ⟨_, parsed, State.run_eq_error_iff.mpr ?_⟩
      refine ⟨done, step, later, reached, rfl, ran, refused, ?_⟩
      rw [← even, number]

end ProofScript
