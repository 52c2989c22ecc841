import ProofScript.Script

/-!
# The log of a check

While a script is checked, events are logged: that it was cut into tokens and
read, every step that was applied with the state after it, and that a complete
proof was asked for and is not there. Every event has a level. A filter shows the
events up to a level, or none at all.
-/

namespace ProofScript

/-- How important an event is. -/
inductive Level where
  | error
  | warn
  | info
  | debug
  | trace
deriving DecidableEq

namespace Level

/-- The place of a level, the most important first. -/
def rank : Level → Nat
  | error => 1
  | warn => 2
  | info => 3
  | debug => 4
  | trace => 5

/-- The mark of a level in the log, five characters wide. -/
def tag : Level → String
  | error => "ERROR"
  | warn => " WARN"
  | info => " INFO"
  | debug => "DEBUG"
  | trace => "TRACE"

end Level

/-- Which events a log shows: those up to a level, or none. -/
inductive LogFilter where
  | off
  | upTo (finest : Level)
deriving DecidableEq

namespace LogFilter

/-- Unless something else is asked for, the log shows warnings. -/
def standard : LogFilter := upTo .warn

/-- Whether events of a level are shown. -/
def shows (level : Level) : LogFilter → Bool
  | off => false
  | upTo finest => level.rank ≤ finest.rank

/-- The filter with a name. -/
def ofName? (name : String) : Option LogFilter :=
  match name with
  | "off" => some off
  | "error" => some (upTo .error)
  | "warn" => some (upTo .warn)
  | "info" => some (upTo .info)
  | "debug" => some (upTo .debug)
  | "trace" => some (upTo .trace)
  | _ => none

end LogFilter

/-- What is logged. -/
inductive Event where
  /-- The script was cut into so many tokens on so many lines. -/
  | tokenized (tokens lines : Nat)
  /-- So many steps were read. -/
  | parsed (steps : Nat)
  /-- The step on a line was applied. -/
  | applied (line : Nat) (step : Step)
  /-- The state that the last step led to. -/
  | reached (state : State)
  /-- The proof was to be complete, and goals are open. -/
  | incomplete (openGoals : Nat)

namespace Event

/-- The level of an event. -/
def level : Event → Level
  | tokenized .. | parsed .. | applied .. => .debug
  | reached .. => .trace
  | incomplete .. => .warn

/-- The part of the program that logs an event. -/
def source : Event → String
  | tokenized .. => "natural_deduction_rs::lexer"
  | parsed .. => "natural_deduction_rs::parser"
  | applied .. | reached .. => "natural_deduction_rs::engine"
  | incomplete .. => "natural_deduction_rs"

/-- The wording of an event. -/
def message : Event → String
  | tokenized tokens lines =>
      "tokenized script tokens=" ++ toString tokens ++ " lines=" ++ toString lines
  | parsed steps => "parsed script rules=" ++ toString steps
  | applied line step =>
      let rule := match step.rule with
        | some rule => "Some(" ++ rule.label ++ ")"
        | none => "None"
      let pop := if step.pop then "true" else "false"
      "applied rule line=" ++ toString line ++ " rule=" ++ rule ++ " pop=" ++ pop
  | reached state => state.display
  | incomplete openGoals => "proof is not complete open_goals=" ++ toString openGoals

/-- The text of an event in the log. -/
def render (event : Event) : String :=
  event.level.tag ++ " " ++ event.source ++ ": " ++ event.message

end Event

/-- What came of the check of a script, and the events on the way. -/
structure Report where
  events : List Event
  outcome : Except ScriptError State

/-- The events of a run: every step that was applied, and the state after it. -/
def Event.ofHistory (history : List Applied) : List Event :=
  history.flatMap fun applied => [.applied applied.line applied.step, .reached applied.after]

/-- Check a script and keep track of the events. -/
def Report.ofText (text : String) : Report :=
  match lex text with
  | .error error => { events := [], outcome := .error (.lex error) }
  | .ok lexed =>
      let tokenized := Event.tokenized lexed.tokens.length lexed.lines
      match Script.read lexed.tokens with
      | .error error => { events := [tokenized], outcome := .error (.parse error) }
      | .ok script =>
          { events :=
              tokenized :: .parsed script.length
                :: Event.ofHistory (State.empty.history 1 script)
            outcome := (State.empty.run script).mapError .refused }

/-- Keeping track of the events does not change what comes of the check. -/
theorem Report.outcome_ofText (text : String) : (Report.ofText text).outcome = Script.run text := by
  simp only [Report.ofText, Script.run, Script.parse, parseWith, tokenize, bind, Except.bind]
  cases lex text with
  | error error => rfl
  | ok lexed =>
      have cut : ((Except.ok lexed).map Lexed.tokens).mapError ScriptError.lex =
          .ok lexed.tokens := rfl
      cases read : Script.read lexed.tokens with
      | error error =>
          simp only [cut, read]
          rfl
      | ok script =>
          simp only [cut, read]
          rfl

end ProofScript
