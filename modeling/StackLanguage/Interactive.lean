import StackLanguage.Session

namespace StackLanguage

/-! The interactive loop: a prompt, a line, and what it does. Lines are gathered as long
as they end inside an unfinished construct. Programs read from the same input as the
loop. -/

namespace Interactive

def banner : String := "interactive alice\n"

def continuationPrompt : String := "...    "

open Step

def say (text : String) : Step Unit :=
  modify fun session => { session with machine := session.machine.write text }

def nextLine? : Step (Option String) := do
  let session ← get
  let input := session.machine.input
  if input.isEmpty then pure none
  else
    let (line, machine) := session.machine.readLine
    set { session with machine }
    pure (some (if line.length < input.length then line ++ "\n" else line))

def report (heading : String) (failure : Failure) : Step Unit :=
  match failure.text? with
  | some text => notify (.report (heading ++ ": " ++ text))
  | none => throw failure

def feed (source : String) : Step Unit := do
  match ← attempt (evaluate source) with
  | .ok _ => pure ()
  | .error failure => report "error" failure

/-- Reads and evaluates up to `rounds` lines; `pending` are the lines of an unfinished
chunk. The result is the code of the exit that ended the loop, or zero at the end of the
input. -/
def rounds : (rounds : Nat) → (pending : String) → Step Int
  | 0, _ => pure 0
  | left + 1, pending => do
      let prompt := (← get).settings.prompt
      say (if pending = "" then prompt else continuationPrompt)
      match ← nextLine? with
      | none =>
          if pending ≠ "" then feed pending
          say "\n"
          pure 0
      | some line =>
          let source := pending ++ line
          if source.toList.all isBlank then rounds left pending
          else
            match ← attempt (evaluate source) with
            | .ok _ => rounds left ""
            | .error (.source error) =>
                if error.cause.isIncomplete then rounds left source
                else
                  report "error parsing input" (.source error)
                  rounds left ""
            | .error (.exit code) =>
                logDebug ("interactive session ended with exit code " ++ toString code)
                pure code
            | .error failure =>
                report "error" failure
                rounds left ""

/-- The whole loop. Each round but the last one reads at least a character, so one more
round than there are characters is enough. -/
def loop : Step Int := do
  say banner
  rounds ((← get).machine.input.length + 1) ""

end Interactive

end StackLanguage
