import StackLanguage.Directory
import StackLanguage.Interactive
import StackLanguage.Text.DecimalDigit
import StackLanguage.Token.Highlight

namespace StackLanguage

/-! The command line: what arguments ask for, where the file is looked for, and what is
done with it. -/

namespace CommandLine

inductive Command where
  | run (target : String)
  | check (target : String)
  | tokens (target : String)
  | interact
deriving DecidableEq, Repr

namespace Command

def target? : Command → Option String
  | run target | check target | tokens target => some target
  | interact => none

def readsInput : Command → Bool
  | run _ | interact => true
  | check _ | tokens _ => false

end Command

structure Invocation where
  verbose : Bool
  bench : Bool
  command : Command
deriving DecidableEq, Repr

inductive Refusal where
  | help
  | usage
deriving DecidableEq, Repr

/-! ## Arguments -/

structure OptionForm (Meaning : Type) where
  short : Option Char
  long : String
  meaning : Meaning

inductive Argument (Meaning : Type) where
  | operand
  | separator
  | options (meanings : List Meaning)
  | unknown
  | misused

def separatorText : String := "--"

def looksNegative (characters : List Char) : Bool :=
  let isDecimalDigit (character : Char) : Bool := (decimalDigit? character).isSome
  match if characters.getLast? = some '\n' then characters.dropLast else characters with
  | '-' :: rest =>
      match rest.dropWhile isDecimalDigit with
      | [] => !rest.isEmpty
      | '.' :: places => !places.isEmpty && places.all isDecimalDigit
      | _ => false
  | _ => false

def shortOption? {Meaning : Type} (forms : List (OptionForm Meaning)) (letter : Char) :
    Option Meaning :=
  (forms.find? (·.short = some letter)).map (·.meaning)

def followingLetters? : List Char → Option (List Char)
  | ['='] => none
  | '=' :: letters => some letters
  | letters => some letters

def longOptions {Meaning : Type} (forms : List (OptionForm Meaning)) (text : String) :
    List (OptionForm Meaning) :=
  match forms.find? (·.long = text) with
  | some form => [form]
  | none => forms.filter fun form => text.toList.isPrefixOf form.long.toList

def optionName (text : String) : String := String.ofList (text.toList.takeWhile (· ≠ '='))

def spacedOperand {Meaning : Type} (characters : List Char) : Argument Meaning :=
  if characters.contains ' ' then .operand else .unknown

def classifyArgument {Meaning : Type} (forms : List (OptionForm Meaning))
    (text : String) : Argument Meaning :=
  if text = separatorText then .separator
  else
    match text.toList with
    | '-' :: '-' :: _ =>
        match longOptions forms text, longOptions forms (optionName text) with
        | [form], _ => .options [form.meaning]
        | _, [] => spacedOperand text.toList
        | _, _ => .misused
    | '-' :: letter :: rest =>
        match shortOption? forms letter with
        | some first =>
            match (followingLetters? rest).bind (·.mapM (shortOption? forms)) with
            | some others => .options (first :: others)
            | none => .misused
        | none =>
            if looksNegative text.toList then .operand else spacedOperand text.toList
    | _ => .operand

def hasAmbiguous {Meaning : Type} (forms : List (OptionForm Meaning))
    (arguments : List String) : Bool :=
  (arguments.takeWhile (· ≠ separatorText)).any fun text =>
    text.startsWith separatorText &&
      decide (1 < (longOptions forms (optionName text)).length)

inductive MainOption where
  | help
  | verbose
deriving DecidableEq

def mainForms : List (OptionForm MainOption) :=
  [⟨some 'h', "--help", .help⟩, ⟨some 'v', "--verbose", .verbose⟩]

inductive CommandOption where
  | help
  | bench
deriving DecidableEq

def helpForm : OptionForm CommandOption := ⟨some 'h', "--help", .help⟩

def benchForm : OptionForm CommandOption := ⟨none, "--bench", .bench⟩

structure CommandArguments where
  operands : List String
  bench : Bool
  afterOperand : Bool
  understood : Bool

namespace CommandArguments

def start : CommandArguments := ⟨[], false, false, true⟩

/-- Reads the arguments after a command. After a separator all arguments are operands; a
separator without an operand beside it belongs to nothing. -/
def read (forms : List (OptionForm CommandOption)) (arguments : CommandArguments) :
    List String → Except Refusal CommandArguments
  | [] => .ok arguments
  | argument :: rest =>
      match classifyArgument forms argument with
      | .operand =>
          read forms
            { arguments with
              operands := argument :: arguments.operands, afterOperand := true } rest
      | .separator =>
          if rest.isEmpty && !arguments.afterOperand then .error .usage
          else .ok { arguments with operands := rest.reverse ++ arguments.operands }
      | .options meanings =>
          if meanings.contains .help then .error .help
          else
            read forms
              { arguments with
                bench := arguments.bench || meanings.contains .bench,
                  afterOperand := false } rest
      | .unknown =>
          read forms { arguments with understood := false, afterOperand := false } rest
      | .misused => .error .usage

end CommandArguments

def commandInvocation (verbose : Bool) (name : String) (arguments : List String) :
    Except Refusal Invocation := do
  let withTarget (command : String → Command)
      (forms : List (OptionForm CommandOption)) := do
    let read ← CommandArguments.start.read forms arguments
    match read.operands, read.understood with
    | [target], true => pure { verbose, bench := read.bench, command := command target }
    | _, _ => .error .usage
  match name with
  | "run" => withTarget .run [helpForm, benchForm]
  | "check" => withTarget .check [helpForm]
  | "tokens" => withTarget .tokens [helpForm]
  | "repl" => do
      let read ← CommandArguments.start.read [helpForm] arguments
      match read.operands, read.understood with
      | [], true => pure { verbose, bench := false, command := .interact }
      | _, _ => .error .usage
  | _ => .error .usage

def interactiveInvocation (verbose : Bool) : Invocation :=
  { verbose, bench := false, command := .interact }

def laterInvocation (verbose understood : Bool) : List String → Except Refusal Invocation
  | [] => if understood then .ok (interactiveInvocation verbose) else .error .usage
  | argument :: rest =>
      match classifyArgument mainForms argument with
      | .operand => do
          let invocation ← commandInvocation verbose argument rest
          if understood then pure invocation else .error .usage
      | .options meanings =>
          if meanings.contains .help then .error .help
          else laterInvocation true understood rest
      | .unknown => laterInvocation verbose false rest
      | .separator | .misused => .error .usage

/-- What arguments ask for. One that may mean several options is refused before any is
obeyed. -/
def invocation (arguments : List String) : Except Refusal Invocation :=
  if hasAmbiguous mainForms arguments then .error .usage
  else laterInvocation false true arguments

/-! ## Files -/

def candidates (target : String) : List String :=
  let withEnding := target ++ ".alice"
  [ FilePath.normal target, FilePath.normal withEnding, FilePath.inside "examples" target,
    FilePath.inside "examples" withEnding ]

def plainLines : List Char → List Char
  | '\r' :: '\n' :: rest => '\n' :: plainLines rest
  | '\r' :: rest => '\n' :: plainLines rest
  | character :: rest => character :: plainLines rest
  | [] => []

def findSource? (directory : Directory) (target : String) : Option (String × String) :=
  (candidates target).findSome? fun path =>
    (directory.read? path).map fun text => (path, String.ofList (plainLines text.toList))

/-! ## Carrying out -/

/-- What is seen of a command: what it writes, what it tells besides, and its exit code,
or why it is given up. -/
structure Report where
  result : Except Fault Int
  output : String
  notices : List Notice

def logThreshold (settings : Settings) (verbose : Bool) : LogLevel :=
  if verbose then .debug else if settings.bench then .info else settings.logLevel

def shown (threshold : LogLevel) (notices : List Notice) : List Notice :=
  notices.filter fun
    | .log level _ => threshold.severity ≤ level.severity
    | .report _ => true

def perform (settings : Settings) (threshold : LogLevel) (input : String)
    (step : Step Int) : Report :=
  match step (Session.initial settings input) with
  | .ok code after => ⟨.ok code, after.machine.output, shown threshold after.notices⟩
  | .error failure after =>
      let report (result : Except Fault Int) (message : String) : Report :=
        ⟨result, after.machine.output ++ message, shown threshold after.notices⟩
      match failure with
      | .exit code => report (.ok code) ""
      | .fault fault => report (.error fault) ""
      | failure => report (.ok 1) ("Error: " ++ failure.text?.getD "" ++ "\n")

def tokenLines (pieces : List HighlightedPiece) : String :=
  String.join (pieces.filterMap fun piece =>
    piece.group.map fun group => group.name ++ "\t" ++ piece.text ++ "\n")

open Step in
def sourceStep (command : Command) (path text : String) : Step Int :=
  match command with
  | .run _ => do
      runSource path text
      pure 0
  | .check _ => do
      load path text
      Interactive.say (path ++ ": ok\n")
      pure 0
  | .tokens _ => do
      let pieces ← ofResult ((HighlightedPiece.classify path text).mapError .source)
      Interactive.say (tokenLines pieces)
      pure 0
  | .interact => Interactive.loop

def notFoundMessage (target : String) : String :=
  "Error: Could not find alice file for '" ++ target ++ "'\nChecked: " ++
    ", ".intercalate (candidates target) ++ "\n"

def invalidSettings : String := "invalid configuration"

def execute (directory : Directory) (environment : List (String × String))
    (input : String) (invocation : Invocation) : Report :=
  let overrides := if invocation.bench then [(Settings.benchField, Datum.boolean true)]
  else []
  match Settings.ofEnvironment environment overrides with
  | .error _ => ⟨.ok 1, "Error: " ++ invalidSettings ++ ":", []⟩
  | .ok settings =>
      let threshold := logThreshold settings invocation.verbose
      match invocation.command.target? with
      | none => perform settings threshold input Interactive.loop
      | some target =>
          match findSource? directory target with
          | none => ⟨.ok 1, notFoundMessage target, []⟩
          | some (path, text) =>
              perform settings threshold input (sourceStep invocation.command path text)

def usageCode : Int := 2

def noticeLine : Notice → String
  | .report line => line ++ "\n"
  | .log level message =>
      "TIME | " ++ level.name ++
        String.ofList (List.replicate (8 - level.name.length) ' ') ++
        " | " ++ message ++ "\n"

def usage : String :=
  "usage: alice [-h] [-v] [run [--bench] | check | repl | tokens] [name]"

def runMain (directory : Directory) (environment : List (String × String))
    (input : String) (arguments : List String) : Except Refusal Report :=
  (invocation arguments).map (execute directory environment input)

end CommandLine

end StackLanguage
