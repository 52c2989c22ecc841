import ProofScript.Command
import ProofScript.Proofs.JoinedScripts

/-!
# What the command line reports

The response to an invocation is that of the run of its script: `Invocation.respond_ok` and
`Invocation.respond_error` say with which code the program ends, what it prints and what it
writes to the standard error output. None of this depends on the log filter but the lines of
the log.

Three counters meet in the log: that of the lexer for lines, that of the steps which were read,
and the numbers of the steps which were applied. They agree (`lex_of_tokenize`,
`Script.length_eq_lineAfter`, `State.exists_applied`), so that the log at the level `debug` is a
faithful account of the check (`FaithfulLog`). The lines of that log are written out in
`tokenizedLine`, `parsedLine` and `appliedLine`.
-/

namespace ProofScript

/-! ## The arguments -/

namespace Invocation

variable {invocation final : Invocation} {name : String} {names arguments : List String}

theorem complete_setScript? (set : invocation.setScript? name = some final) :
    final.complete = invocation.complete := by
  unfold setScript? at set
  split at set
  · cases set
  · cases set
    rfl

theorem complete_of_names (set : names.foldlM setScript? invocation = some final) :
    final.complete = invocation.complete := by
  induction names generalizing invocation with
  | nil =>
      cases set
      rfl
  | cons name names ih =>
      rw [List.foldlM_cons] at set
      obtain ⟨next, first, later⟩ := Option.bind_eq_some_iff.mp set
      rw [ih later, complete_setScript? first]

theorem complete_setComplete? (set : invocation.setComplete? = some final) :
    final.complete = true := by
  unfold setComplete? at set
  split at set
  · cases set
  · cases set
    rfl

/-- A complete proof is asked for by the option, which has to stand before the names of
files. -/
theorem complete_of_readArgs? (read : readArgs? invocation arguments = some final) :
    final.complete = true ↔
      invocation.complete = true ∨ "--complete" ∈ arguments.takeWhile (· ≠ "--") := by
  induction arguments generalizing invocation with
  | nil =>
      cases read
      simp
  | cons argument rest ih =>
      unfold readArgs? at read
      split at read
      · next separator =>
          rw [complete_of_names read, separator, List.takeWhile_cons_of_neg (by simp)]
          simp
      · next other =>
          rw [List.takeWhile_cons_of_pos (by simpa using other), List.mem_cons]
          split at read
          · next option =>
              obtain ⟨next, set, later⟩ := Option.bind_eq_some_iff.mp read
              simp [ih later, complete_setComplete? set, option]
          · next different =>
              split at read
              · cases read
              · obtain ⟨next, set, later⟩ := Option.bind_eq_some_iff.mp read
                rw [ih later, complete_setScript? set]
                simp [Ne.symm different]

end Invocation

/-- Every text is read from its bytes. -/
theorem decodeScript_toUTF8 (text : String) : decodeScript text.toUTF8 = .ok text := by
  have valid : text.toUTF8.IsValidUTF8 := text.isValidUTF8
  rw [decodeScript, String.fromUTF8?, dif_pos valid]
  rfl

/-! ## The response -/

namespace Invocation

variable (invocation : Invocation) (filter : LogFilter) {text : String}

theorem respond_error {error : ScriptError} (failed : Script.run text = .error error) :
    invocation.respond filter (.ok text) =
      { exit := 1
        messages := filter.render (Report.ofText text).events ++ [error.located] } := by
  simp only [respond, Report.outcome_ofText, failed]

theorem respond_ok {state : State} (ran : Script.run text = .ok state) :
    invocation.respond filter (.ok text) =
      if invocation.complete && !state.isComplete then
        { exit := 1
          output := state.display ++ "\n"
          messages := filter.render
            ((Report.ofText text).events ++ [.incomplete state.openGoals]) }
      else
        { exit := 0
          output := state.display ++ "\n"
          messages := filter.render (Report.ofText text).events } := by
  simp only [respond, Report.outcome_ofText, ran]

theorem exit_eq_zero_iff :
    (invocation.respond filter (.ok text)).exit = 0 ↔
      ∃ state, Script.run text = .ok state ∧
        (invocation.complete = false ∨ state.isComplete = true) := by
  cases ran : Script.run text with
  | error error => simp [invocation.respond_error filter ran]
  | ok state =>
      rw [invocation.respond_ok filter ran]
      cases invocation.complete <;> cases closed : state.isComplete <;> simp [closed]

theorem output_of_ok {state : State} (ran : Script.run text = .ok state) :
    (invocation.respond filter (.ok text)).output = state.display ++ "\n" := by
  rw [invocation.respond_ok filter ran]
  split <;> rfl

/-- The log has no influence on the code that the program ends with and on what it prints. -/
theorem respond_congr (filter other : LogFilter) (text : String) :
    (invocation.respond filter (.ok text)).exit = (invocation.respond other (.ok text)).exit ∧
      (invocation.respond filter (.ok text)).output =
        (invocation.respond other (.ok text)).output := by
  cases ran : Script.run text with
  | error error =>
      rw [invocation.respond_error filter ran, invocation.respond_error other ran]
      exact ⟨rfl, rfl⟩
  | ok state =>
      rw [invocation.respond_ok filter ran, invocation.respond_ok other ran]
      split <;> exact ⟨rfl, rfl⟩

theorem output_of_error {error : ScriptError} (failed : Script.run text = .error error) :
    (invocation.respond filter (.ok text)).output = "" := by
  rw [invocation.respond_error filter failed]

end Invocation

/-! ## The counters -/

section Counters

variable {tokens : List Token} {script : Script}

/-- A text has as many tokens for line breaks as it has line breaks. -/
theorem count_newline_of_lex? {text : List Char} (cut : lex? text = some tokens) :
    tokens.count .newline = text.count '\n' := by
  induction text using lines_induction '\n' generalizing tokens with
  | last line free =>
      rw [List.count_eq_zero.mpr free, List.count_eq_zero]
      exact newline_not_mem_of_lex? free cut
  | cons line rest free ih =>
      rw [lex?_append_newline] at cut
      obtain ⟨front, first, others⟩ := Option.bind_eq_some_iff.mp cut
      obtain ⟨back, later, rfl⟩ := Option.map_eq_some_iff.mp others
      have none := List.count_eq_zero.mpr (newline_not_mem_of_lex? free first)
      rw [List.count_append, List.count_append, List.count_cons_self, List.count_cons_self,
        List.count_eq_zero.mpr free, none, ih later]

theorem lineAfter_eq_lineCount {text : String} (cut : tokenize text = .ok tokens) :
    Token.lineAfter tokens = lineCount text := by
  rw [Token.lineAfter, lineCount, count_newline_of_lex? (tokenize_eq_ok_iff.mp cut),
    Unicode.isNormaliser_nfkc.count_newline]

/-- The line counter of the lexer ends at the number of lines. -/
theorem lex_of_tokenize {text : String} (cut : tokenize text = .ok tokens) :
    lex text = .ok { tokens, lines := lineCount text } := by
  refine eq_ok_of_toOption ?_
  rw [lex, toOption_scan, tokenize_eq_ok_iff.mp cut, ← lineAfter_eq_lineCount cut]
  rfl

theorem lex_of_tokenize_error {text : String} {error : LexError}
    (uncut : tokenize text = .error error) : lex text = .error error := by
  cases answer : lex text with
  | error other =>
      rw [tokenize, answer] at uncut
      cases uncut
      rfl
  | ok lexed =>
      rw [tokenize, answer] at uncut
      cases uncut

theorem Script.length_eq_lineAfter (read : Script.read tokens = .ok script) :
    script.length = Token.lineAfter tokens := by
  rw [← (Script.read_eq_ok_iff_forall₂.mp read).length_eq, length_splitOn, Token.lineAfter]

/-- The steps that a run applies, numbered from its first line: all of them, or those before the
one that is refused. -/
theorem State.exists_applied (state : State) (line : Nat) (script : Script) :
    ∃ done, done <+: script ∧
      (state.history line script).map (fun applied => (applied.step, applied.line)) =
        done.zipIdx line ∧
      (∀ final, state.runFrom line script = .ok final → done = script) ∧
      ∀ failure, state.runFrom line script = .error failure →
        failure.line = line + done.length := by
  induction script generalizing state line with
  | nil =>
      refine ⟨[], List.prefix_refl [], rfl, fun _ _ => rfl, fun failure refused => ?_⟩
      cases refused
  | cons step rest ih =>
      unfold State.history State.runFrom
      cases state.apply step with
      | error cause =>
          refine ⟨[], List.nil_prefix, rfl, fun final ran => ?_, fun failure refused => ?_⟩
          · cases ran
          · cases refused
            rfl
      | ok next =>
          obtain ⟨done, front, numbered, finished, refused⟩ := ih next (line + 1)
          refine ⟨step :: done, ?_, ?_, ?_, ?_⟩
          · exact List.cons_prefix_cons.mpr ⟨rfl, front⟩
          · simp [numbered, List.zipIdx_cons]
          · intro final ran
            rw [finished final ran]
          · intro failure failed
            rw [refused failure failed, List.length_cons]
            omega

end Counters

/-! ## The log -/

/-- The line of the log for a text that was cut. -/
def tokenizedLine (tokens lines : Nat) : String :=
  "DEBUG natural_deduction_rs::lexer: "
    ++ ("tokenized script tokens=" ++ toString tokens ++ " lines=" ++ toString lines)

/-- The line of the log for a script that was read. -/
def parsedLine (rules : Nat) : String :=
  "DEBUG natural_deduction_rs::parser: " ++ ("parsed script rules=" ++ toString rules)

/-- The line of the log for a step that was applied. -/
def appliedLine (line : Nat) (step : Step) : String :=
  "DEBUG natural_deduction_rs::engine: "
    ++ ("applied rule line=" ++ toString line
      ++ " rule=" ++ (step.rule.elim "None" fun rule => "Some(" ++ rule.label ++ ")")
      ++ " pop=" ++ (if step.pop then "true" else "false"))

/-- The lines of the log for steps that were applied, counted from one. -/
def appliedLines (steps : Script) : List String :=
  (steps.zipIdx 1).map fun (step, line) => appliedLine line step

theorem render_tokenized (tokens lines : Nat) :
    (Event.tokenized tokens lines).render = tokenizedLine tokens lines := by
  have front : "DEBUG" ++ " " ++ "natural_deduction_rs::lexer" ++ ": " =
      "DEBUG natural_deduction_rs::lexer: " := by decide +kernel
  exact congrArg (· ++ _) front

theorem render_parsed (rules : Nat) : (Event.parsed rules).render = parsedLine rules := by
  have front : "DEBUG" ++ " " ++ "natural_deduction_rs::parser" ++ ": " =
      "DEBUG natural_deduction_rs::parser: " := by decide +kernel
  exact congrArg (· ++ _) front

theorem render_applied (line : Nat) (step : Step) :
    (Event.applied line step).render = appliedLine line step := by
  have front : "DEBUG" ++ " " ++ "natural_deduction_rs::engine" ++ ": " =
      "DEBUG natural_deduction_rs::engine: " := by decide +kernel
  obtain ⟨pop, _ | rule, argument⟩ := step
  · exact congrArg (· ++ _) front
  · exact congrArg (· ++ _) front

theorem LogFilter.render_append (filter : LogFilter) (events others : List Event) :
    filter.render (events ++ others) = filter.render events ++ filter.render others := by
  rw [render, render, render, List.filter_append, List.map_append]

/-- At the level `debug` the log shows the steps and not the states that they reach. -/
theorem render_ofHistory (history : List Applied) :
    (LogFilter.upTo .debug).render (Event.ofHistory history) =
      history.map fun applied => appliedLine applied.line applied.step := by
  induction history with
  | nil => rfl
  | cons applied history ih =>
      rw [List.map_cons, ← ih, ← render_applied]
      rfl

/-- What the program says at the end: why the script has failed, or that its proof is to be
complete and is not. -/
def Invocation.closing (invocation : Invocation) (filter : LogFilter) (text : String) :
    List String :=
  match Script.run text with
  | .error error => [error.located]
  | .ok state =>
      if invocation.complete && !state.isComplete then
        filter.render [.incomplete state.openGoals]
      else []

theorem Invocation.messages_eq (invocation : Invocation) (filter : LogFilter) (text : String) :
    (invocation.respond filter (.ok text)).messages =
      filter.render (Report.ofText text).events ++ invocation.closing filter text := by
  cases ran : Script.run text with
  | error error => simp only [invocation.respond_error _ ran, closing, ran]
  | ok state =>
      rw [invocation.respond_ok _ ran]
      simp only [closing, ran]
      split
      · exact LogFilter.render_append _ _ _
      · exact (List.append_nil _).symm

theorem Invocation.cases_of_mem_closing {invocation : Invocation} {filter : LogFilter}
    {text message : String} (said : message ∈ invocation.closing filter text) :
    (∃ error, message = ScriptError.located error) ∨
      ∃ state, Script.run text = .ok state ∧ invocation.complete = true ∧
        state.isComplete = false ∧ message = (Event.incomplete state.openGoals).render := by
  unfold closing at said
  split at said
  · next error _ => exact .inl ⟨error, List.mem_singleton.mp said⟩
  · next state ran =>
      split at said
      · next unfinished =>
          obtain ⟨event, listed, same⟩ := List.mem_map.mp said
          cases List.mem_singleton.mp (List.mem_filter.mp listed).1
          simp only [Bool.and_eq_true, Bool.not_eq_true'] at unfinished
          exact .inr ⟨state, ran, unfinished.1, unfinished.2, same.symm⟩
      · cases said

/-- The log of a check at the level `debug`, followed by what is said at the end. -/
structure FaithfulLog (text : String) (ending messages : List String) : Prop where
  /-- Nothing is logged of a text that cannot be cut. -/
  uncut : ∀ error, tokenize text = .error error → messages = ending
  /-- A text that is cut and not read is logged with the number of its lines. -/
  unread : ∀ tokens error, tokenize text = .ok tokens → Script.parse text = .error error →
    messages = tokenizedLine tokens.length (lineCount text) :: ending
  /-- A script that is read has a step on every line. All of its steps are applied and logged
  in order, or those before the line of the one that is refused. -/
  read : ∀ tokens script, tokenize text = .ok tokens → Script.parse text = .ok script →
    script.length = lineCount text ∧
    ∃ done : Script,
      messages =
        tokenizedLine tokens.length (lineCount text) :: parsedLine script.length ::
          (appliedLines done ++ ending) ∧
      done <+: script ∧
      (∀ state, Script.run text = .ok state → done.length = script.length) ∧
      ∀ failure, Script.run text = .error (.refused failure) →
        done.length + 1 = failure.line
  /-- What is said at the end is no line of that level. -/
  apart : ∀ message ∈ ending, ¬"DEBUG".toList <+: message.toList

section Log

variable {text : String} {tokens : List Token} {script : Script}

theorem Report.events_of_uncut {error : LexError} (uncut : tokenize text = .error error) :
    (Report.ofText text).events = [] := by
  simp only [Report.ofText, lex_of_tokenize_error uncut]

theorem Report.events_of_unread {error : ParseError} (cut : tokenize text = .ok tokens)
    (unread : Script.read tokens = .error error) :
    (Report.ofText text).events = [.tokenized tokens.length (lineCount text)] := by
  simp only [Report.ofText, lex_of_tokenize cut, unread]

theorem Report.events_of_read (cut : tokenize text = .ok tokens)
    (read : Script.read tokens = .ok script) :
    (Report.ofText text).events =
      .tokenized tokens.length (lineCount text) :: .parsed script.length ::
        Event.ofHistory (State.empty.history 1 script) := by
  simp only [Report.ofText, lex_of_tokenize cut, read]

/-- The log of a script that is read. -/
theorem exists_appliedLines (cut : tokenize text = .ok tokens)
    (read : Script.read tokens = .ok script) :
    ∃ done : Script,
      (LogFilter.upTo .debug).render (Report.ofText text).events =
        tokenizedLine tokens.length (lineCount text) :: parsedLine script.length ::
          appliedLines done ∧
      done <+: script ∧
      (∀ final, State.empty.run script = .ok final → done.length = script.length) ∧
      ∀ failure, State.empty.run script = .error failure → done.length + 1 = failure.line := by
  obtain ⟨done, front, numbered, finished, refused⟩ := State.empty.exists_applied 1 script
  have logged : (LogFilter.upTo .debug).render
      (Event.ofHistory (State.empty.history 1 script)) = appliedLines done := by
    rw [render_ofHistory, appliedLines, ← numbered, List.map_map]
    rfl
  refine ⟨done, ?_, front, ?_, ?_⟩
  · rw [Report.events_of_read cut read, ← logged, ← render_tokenized, ← render_parsed]
    rfl
  · intro final ran
    rw [finished final ran]
  · intro failure failed
    rw [refused failure failed, Nat.add_comm]

end Log

/-! ## Lines that cannot be confused -/

theorem head?_append {front : String} {c : Char} (first : front.toList.head? = some c)
    (back : String) : (front ++ back).toList.head? = some c := by
  rw [String.toList_append, List.head?_append, first]
  rfl

/-- A line of the log starts with its level. -/
theorem Event.head?_render (event : Event) :
    event.render.toList.head? = event.level.tag.toList.head? := by
  obtain ⟨c, first⟩ : ∃ c, event.level.tag.toList.head? = some c := by
    cases event.level <;> exact ⟨_, rfl⟩
  rw [first, Event.render]
  exact head?_append (head?_append (head?_append (head?_append first _) _) _) _

theorem Event.head?_render_incomplete (openGoals : Nat) :
    (Event.incomplete openGoals).render.toList.head? = some ' ' := by
  have first : Level.warn.tag.toList.head? = some ' ' := by decide
  rw [Event.head?_render]
  exact first

theorem ScriptError.head?_located (error : ScriptError) :
    error.located.toList.head? = some 'L' ∨ error.located.toList.head? = some 'l' := by
  cases error with
  | lex error => exact .inl (head?_append rfl _)
  | parse error => exact .inl (head?_append rfl _)
  | refused failure => exact .inr (head?_append (head?_append (head?_append rfl _) _) _)

theorem Invocation.closing_apart (invocation : Invocation) (filter : LogFilter) (text : String) :
    ∀ message ∈ invocation.closing filter text, ¬"DEBUG".toList <+: message.toList := by
  rintro message said ⟨more, starts⟩
  have first : message.toList.head? = some 'D' := by
    rw [← starts]
    rfl
  rcases cases_of_mem_closing said with ⟨error, rfl⟩ | ⟨state, _, _, _, rfl⟩
  · rcases error.head?_located with other | other
    · cases first.symm.trans other
    · cases first.symm.trans other
  · cases first.symm.trans (Event.head?_render_incomplete state.openGoals)

/-- At the level `debug` the log is a faithful account of the check. -/
theorem Invocation.faithfulLog (invocation : Invocation) (text : String) :
    FaithfulLog text (invocation.closing (.upTo .debug) text)
      (invocation.respond (.upTo .debug) (.ok text)).messages where
  uncut error uncut := by
    rw [messages_eq, Report.events_of_uncut uncut]
    rfl
  unread tokens error cut failed := by
    rcases parseWith_cases Script.read text with
      ⟨_, uncut, _⟩ | ⟨again, refusal, same, refused, _⟩ | ⟨_, _, _, _, parsed⟩
    · cases cut.symm.trans uncut
    · cases cut.symm.trans same
      rw [messages_eq, Report.events_of_unread cut refused, ← render_tokenized]
      rfl
    · cases failed.symm.trans parsed
  read tokens script cut parsed := by
    have read : Script.read tokens = .ok script := by
      obtain ⟨again, same, read⟩ := parseWith_eq_ok_iff.mp parsed
      rw [← tokenize_eq_ok_iff, cut] at same
      cases same
      exact read
    obtain ⟨done, logged, front, finished, refused⟩ := exists_appliedLines cut read
    refine ⟨?_, done, ?_, front, ?_, ?_⟩
    · rw [Script.length_eq_lineAfter read, lineAfter_eq_lineCount cut]
    · rw [messages_eq, logged]
      rfl
    · intro state ran
      obtain ⟨_, again, ran⟩ := Script.run_eq_ok_iff.mp ran
      cases parsed.symm.trans again
      exact finished state ran
    · intro failure failed
      obtain ⟨_, again, failed⟩ := Script.run_eq_refused_iff.mp failed
      cases parsed.symm.trans again
      exact refused failure failed
  apart := invocation.closing_apart (.upTo .debug) text

/-- The command line reports faithfully. Whatever the log shows, the program ends with zero
exactly if the script runs and, should a complete proof be asked for, leaves no goal open; and
it prints the state that the script reaches, or nothing. At the level `debug` the log counts the
lines of the text, the steps that were read, which are as many, and the steps that were
applied. -/
theorem command_line_reports_run {arguments : List String} {invocation : Invocation}
    {bytes : ByteArray} {text : String}
    (accepted : Invocation.ofArgs? arguments = some invocation)
    (readable : decodeScript bytes = .ok text) :
    (∀ filter : LogFilter,
      ((invocation.respond filter (decodeScript bytes)).exit = 0 ↔
        ∃ state, Script.run text = .ok state ∧
          ("--complete" ∉ arguments.takeWhile (· ≠ "--") ∨ state.isComplete = true)) ∧
      (∀ state, Script.run text = .ok state →
        (invocation.respond filter (decodeScript bytes)).output = state.display ++ "\n") ∧
      (∀ error, Script.run text = .error error →
        (invocation.respond filter (decodeScript bytes)).output = "") ∧
      ∀ other : LogFilter,
        (invocation.respond filter (decodeScript bytes)).exit =
          (invocation.respond other (decodeScript bytes)).exit ∧
        (invocation.respond filter (decodeScript bytes)).output =
          (invocation.respond other (decodeScript bytes)).output) ∧
    FaithfulLog text (invocation.closing (.upTo .debug) text)
      (invocation.respond (.upTo .debug) (decodeScript bytes)).messages := by
  have asked : invocation.complete = false ↔
      "--complete" ∉ arguments.takeWhile (· ≠ "--") := by
    have either := Invocation.complete_of_readArgs? accepted
    rw [← Bool.not_eq_true, either]
    simp
  rw [readable]
  refine ⟨fun filter => ⟨?_, ?_, ?_, ?_⟩, invocation.faithfulLog text⟩
  · rw [invocation.exit_eq_zero_iff filter, asked]
  · intro state ran
    exact invocation.output_of_ok filter ran
  · intro error failed
    exact invocation.output_of_error filter failed
  · intro other
    exact invocation.respond_congr filter other text

/-- A complete proof, with an empty line at its end. -/
def excludedMiddleText : String := "goal ~a or a\nlem\n"

/-- All three of its lines are counted by the lexer, by the reader and by the run. -/
theorem excludedMiddle_reported :
    Invocation.ofArgs? ["--complete", "proof"] =
      some { script := some "proof", complete := true } ∧
    (Invocation.respond { script := some "proof", complete := true } .off
      (decodeScript excludedMiddleText.toUTF8)).exit = 0 ∧
    (Invocation.respond { script := some "proof", complete := true } (.upTo .debug)
      (decodeScript excludedMiddleText.toUTF8)).messages =
      ["DEBUG natural_deduction_rs::lexer: tokenized script tokens=8 lines=3",
        "DEBUG natural_deduction_rs::parser: parsed script rules=3",
        "DEBUG natural_deduction_rs::engine: applied rule line=1 rule=Some(Goal) pop=false",
        "DEBUG natural_deduction_rs::engine: applied rule line=2 rule=Some(Lem) pop=false",
        "DEBUG natural_deduction_rs::engine: applied rule line=3 rule=None pop=false"] := by
  have accepted : Invocation.ofArgs? ["--complete", "proof"] =
      some { script := some "proof", complete := true } := by decide
  have readable := decodeScript_toUTF8 excludedMiddleText
  have cut : tokenize excludedMiddleText =
      .ok [.rule .goal, .not, .ident "a", .op .or, .ident "a", .newline, .rule (.infer .lem),
        .newline] := eq_ok_of_toOption (by decide +kernel)
  have parsed : Script.parse excludedMiddleText =
      .ok [Step.opening (.or (.not (.var "a")) (.var "a")), { rule := some (.infer .lem) }, {}] :=
    eq_ok_of_toOption (by decide +kernel)
  have ran := Script.run_eq_ok_iff.mpr ⟨_, parsed, rfl⟩
  obtain ⟨report, log⟩ := command_line_reports_run accepted readable
  obtain ⟨_, done, messages, front, finished, _⟩ := log.read _ _ cut parsed
  have silent : Invocation.closing { script := some "proof", complete := true } (.upTo .debug)
      excludedMiddleText = [] := by
    rw [Invocation.closing, ran]
    rfl
  refine ⟨accepted, (report .off).1.mpr ⟨_, ran, .inr rfl⟩, ?_⟩
  rw [messages, silent, List.append_nil, front.eq_of_length (finished _ ran)]
  decide +kernel

end ProofScript
