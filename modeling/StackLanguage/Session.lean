import StackLanguage.Evaluation.Run
import StackLanguage.Program.Elaboration
import StackLanguage.Settings
import StackLanguage.Typing.Checking

namespace StackLanguage

/-! A session: a machine, what the checker believes of it, and the program that was loaded
last. Sources are read, checked and run on it, whole programs from a clean machine and
single chunks on what earlier chunks left. -/

inductive Notice where
  | log (level : LogLevel) (message : String)
  | report (line : String)
deriving DecidableEq, Repr

inductive Failure where
  | source (error : Located SyntaxError)
  | typing (error : Located TypeError)
  | runtime (error : Located RuntimeError)
  | exit (code : Int)
  | fault (fault : Fault)
deriving DecidableEq

namespace Failure

def text? : Failure → Option String
  | source error => some (error.text SyntaxError.message)
  | typing error => some (error.text TypeError.message)
  | runtime error => some (error.text RuntimeError.message)
  | exit _ => none
  | fault _ => none

def ofSource : SourceFailure → Failure
  | .error error => source error
  | .fault reason => fault reason

def ofStop : Stop → Failure
  | .error error => runtime error
  | .exit code => exit code
  | .fault reason => fault reason

end Failure

structure Session where
  settings : Settings
  machine : Machine
  checker : Typing.State
  program : Option Program
  console : List String
  notices : List Notice

/-- A step of a session. A step that fails keeps what it has done. -/
abbrev Step := EStateM Failure Session

namespace Session

def initial (settings : Settings) (input : String) : Session where
  settings := settings
  machine := .initial input.toList
  checker := .initial
  program := none
  console := []
  notices := []

end Session

namespace Step

/-- Durations are not measured: a mark stands for the number. -/
def duration : String := "# ms"

def notify (notice : Notice) : Step Unit :=
  modify fun session => { session with notices := session.notices ++ [notice] }

def logDebug (message : String) : Step Unit := notify (.log .debug message)

def measured (label : String) : Step Unit := do
  if (← get).settings.bench then
    let line := "[bench] " ++ label ++ duration
    modify fun session => { session with console := session.console ++ [line] }
    notify (.log .info line)

def attempt {Result : Type} (step : Step Result) :
    Step (Except Failure Result) := fun session =>
  match step session with
  | .ok result after => .ok (.ok result) after
  | .error failure after => .ok (.error failure) after

def ofResult {Result : Type} : Except Failure Result → Step Result
  | .ok result => pure result
  | .error failure => throw failure

def readProgram (sourceName source : String) : Step Program := do
  let program ← ofResult ((Program.ofText sourceName source).mapError .ofSource)
  logDebug ("parsed " ++ toString program.statements.length ++ " top-level items from " ++
    program.sourceName)
  pure program

def execute (statements : List Statement) : Step Unit := fun session =>
  match Run.whole session.settings.maxCallDepth statements session.machine with
  | .ok _ machine => .ok () { session with machine }
  | .error stop machine => .error (.ofStop stop) { session with machine }

def resync : Step Unit := do
  modify fun session =>
    let globals := session.machine.scope
    { session with
      checker :=
        { stack := session.machine.stack.map Value.type
          scopes :=
            [{ types := globals.bindings.map (·.type)
               signatures := globals.functions.map fun function =>
                 .of function.parameters function.result }] } }
  logDebug ("type stack rebuilt from " ++ toString (← get).machine.stack.length ++
    " runtime values")

def check (statements : List Statement) : Step Unit := do
  let (result, checker) := Typing.checkMore statements (← get).checker
  modify ({ · with checker })
  ofResult (result.mapError .typing)

/-- Checks a program of its own, from an empty stack, over what the checker has declared;
what it declares stays declared. -/
def checkProgram (program : Program) : Step Unit := do
  let (result, scopes) := Typing.checkProgram (← get).checker.scopes program
  modify fun session => { session with checker := { session.checker with scopes } }
  ofResult (result.mapError .typing)

/-- Reads, checks and runs a chunk on what earlier chunks left. After an error at run time
the checker is made to agree with the machine again. -/
def evaluate (source : String) : Step Unit := do
  let program ← readProgram "<interactive>" source
  check program.statements
  match ← attempt (execute program.statements) with
  | .ok _ => pure ()
  | .error (.runtime error) =>
      resync
      throw (.runtime error)
  | .error failure => throw failure

def load (sourceName source : String) : Step Unit := do
  let program ← readProgram sourceName source
  ofResult ((Typing.checkProgram [.empty] program).1.mapError .typing)
  logDebug ("type check of " ++ program.sourceName ++ " passed")
  modify ({ · with program := some program })
  logDebug
    ("loaded " ++ program.sourceName ++ " (" ++ toString program.statements.length ++
      " items)")
  measured "reading, parsing:\t"
  measured "type checking:\t\t"

def run : Step Unit := do
  match (← get).program with
  | none => throw (.runtime ⟨.noProgram, .nowhere⟩)
  | some program =>
      modify fun session =>
        { session with
          machine := { session.machine with stack := [], scopes := [.empty] } }
      let result ← attempt (execute program.statements)
      logDebug ("ran " ++ program.sourceName ++ " in " ++ duration ++ " (" ++
        toString (← get).machine.calls ++ " calls)")
      measured "executing program:\t"
      measured "total elapsed:\t\t"
      ofResult result

def runSource (sourceName source : String) : Step Unit := do
  load sourceName source
  run

end Step

end StackLanguage
