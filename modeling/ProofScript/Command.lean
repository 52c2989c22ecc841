import ProofScript.Log

/-!
# The command line

The program checks one script, from a file or from the standard input, and
prints the state it reaches. With `--complete` it also fails if goals are left
open. Here the command line is a function: `Invocation.ofArgs?` reads the
arguments, and `Invocation.respond` says what is written where and with which exit
code the program ends, once the script has been fetched.
-/

namespace ProofScript

/-- What the arguments ask for. -/
structure Invocation where
  /-- The file to check; the standard input if there is none. -/
  script : Option String := none
  /-- Whether open goals are a failure. -/
  complete : Bool := false
deriving DecidableEq

namespace Invocation

/-- Set the file to check. Its name must not be empty, and there can be but
one. -/
def setScript? (invocation : Invocation) (name : String) : Option Invocation :=
  if name = "" || invocation.script.isSome then none
  else some { invocation with script := some name }

/-- Ask for a complete proof, which may be asked for once. -/
def setComplete? (invocation : Invocation) : Option Invocation :=
  if invocation.complete then none else some { invocation with complete := true }

/-- Whether an argument is an option. A dash alone is the name of a file. -/
def isOption (argument : String) : Bool :=
  argument.toList.head? = some '-' && argument ≠ "-"

/-- Read arguments on top of those already read. After `--` all of them are
names of files. -/
def readArgs? (invocation : Invocation) : List String → Option Invocation
  | [] => some invocation
  | argument :: rest =>
      if argument = "--" then rest.foldlM setScript? invocation
      else if argument = "--complete" then invocation.setComplete?.bind (readArgs? · rest)
      else if isOption argument then none
      else (invocation.setScript? argument).bind (readArgs? · rest)

/-- What a list of arguments asks for; none if it makes no sense. -/
def ofArgs? (arguments : List String) : Option Invocation := readArgs? {} arguments

end Invocation

/-- Why a script could not be fetched. -/
inductive FetchError where
  | notFound
  | isDirectory
  | notUtf8
  /-- Any other failure, in the words of the system. -/
  | other (description : String)
deriving DecidableEq

/-- The wording of a failure to fetch a script. -/
def FetchError.message : FetchError → String
  | notFound => "No such file or directory (os error 2)"
  | isDirectory => "Is a directory (os error 21)"
  | notUtf8 => "stream did not contain valid UTF-8"
  | other description => description

/-- The text of a script that was fetched as bytes. -/
def decodeScript (bytes : ByteArray) : Except FetchError String :=
  match String.fromUTF8? bytes with
  | some text => .ok text
  | none => .error .notUtf8

/-- What the program writes, and the code it ends with. -/
structure Response where
  exit : Nat
  /-- The text on the standard output. -/
  output : String := ""
  /-- The messages on the standard error output, each followed by a line
  break. -/
  messages : List String := []
deriving DecidableEq

/-- The wording of a failure on the command line, which gives the line of a
refused step. -/
def ScriptError.located : ScriptError → String
  | refused failure => "line " ++ toString failure.line ++ ": " ++ failure.cause.message
  | error => error.message

/-- The lines of a log. -/
def LogFilter.render (filter : LogFilter) (events : List Event) : List String :=
  (events.filter (filter.shows ·.level)).map Event.render

/-- What the program does with the script that was fetched for an invocation. -/
def Invocation.respond (invocation : Invocation) (filter : LogFilter)
    (fetched : Except FetchError String) : Response :=
  match fetched with
  | .error error => { exit := 1, messages := ["cannot read script: " ++ error.message] }
  | .ok text =>
      let report := Report.ofText text
      match report.outcome with
      | .error error => { exit := 1, messages := filter.render report.events ++ [error.located] }
      | .ok state =>
          if invocation.complete && !state.isComplete then
            { exit := 1
              output := state.display ++ "\n"
              messages := filter.render (report.events ++ [.incomplete state.openGoals]) }
          else
            { exit := 0
              output := state.display ++ "\n"
              messages := filter.render report.events }

end ProofScript
