import StackLanguage.Number.Numeral
import StackLanguage.Text.Quoted

namespace StackLanguage

/-! Settings of a session. They come as texts from the environment or as data of any form,
and each one is brought to its type or refused with the reason. -/

inductive LogLevel where
  | trace
  | debug
  | info
  | success
  | warning
  | error
  | critical
deriving DecidableEq, Repr

namespace LogLevel

def all : List LogLevel := [trace, debug, info, success, warning, error, critical]

def name : LogLevel → String
  | trace => "TRACE"
  | debug => "DEBUG"
  | info => "INFO"
  | success => "SUCCESS"
  | warning => "WARNING"
  | error => "ERROR"
  | critical => "CRITICAL"

def severity (level : LogLevel) : Nat := all.idxOf level

def ofName? (name : String) : Option LogLevel := all.find? (·.name = name)

theorem ofName?_name (level : LogLevel) : ofName? level.name = some level := by
  cases level <;> rfl

end LogLevel

structure Settings where
  maxCallDepth : Nat
  bench : Bool
  logLevel : LogLevel
  prompt : String
deriving DecidableEq, Repr

inductive Datum where
  | null
  | boolean (value : Bool)
  | integer (value : Int)
  | real (value : Float)
  | text (value : String)
  | sequence (items : List Datum)
  | mapping (entries : List (String × Datum))
deriving Inhabited

namespace Datum

def positional (point : Int) : Bool := -4 < point && point ≤ 16

/-- A double as data show it: positional near one, with a point and at least one place,
and with an exponent of at least two digits elsewhere. -/
def realText (number : Float) : String :=
  match Double.shape number with
  | .notANumber => "nan"
  | .infinite negative => if negative then "-inf" else "inf"
  | .finite negative significand exponent =>
      let sign := if negative then "-" else ""
      if significand = 0 then sign ++ "0.0"
      else
        let decimal := Decimal.shortest significand exponent
        let digits := Nat.toDigits 10 decimal.digits
        let point := decimal.exponent + digits.length
        if positional point then
          let whole := if 0 < point then digits.take point.toNat else ['0']
          let fraction :=
            if 0 < point then digits.drop point.toNat
            else List.replicate (-point).toNat '0' ++ digits
          sign ++ String.ofList
            (whole ++ List.replicate (point.toNat - whole.length) '0' ++ '.' ::
              (if fraction.isEmpty then ['0'] else fraction))
        else
          let power := point - 1
          let magnitude := Nat.toDigits 10 power.natAbs
          let tail := digits.drop 1
          sign ++ String.ofList
            (digits.take 1 ++ (if tail.isEmpty then [] else '.' :: tail) ++
              ['e', if power < 0 then '-' else '+'] ++
              List.replicate (2 - magnitude.length) '0' ++ magnitude)

mutual

def literal : Datum → String
  | text value => quoted value
  | null => "None"
  | boolean true => "True"
  | boolean false => "False"
  | integer value => toString value
  | real value => realText value
  | sequence items => "[" ++ ", ".intercalate (literals items) ++ "]"
  | mapping entries => "\x7b" ++ ", ".intercalate (entryLiterals entries) ++ "\x7d"

def literals : List Datum → List String
  | [] => []
  | item :: rest => item.literal :: literals rest

def entryLiterals : List (String × Datum) → List String
  | [] => []
  | (key, item) :: rest => (quoted key ++ ": " ++ item.literal) :: entryLiterals rest

end

def display : Datum → String
  | text value => value
  | datum => datum.literal

end Datum

inductive SettingError where
  | notAnInteger
  | malformedInteger
  | integerTooLarge
  | notWhole
  | notFinite
  | belowMinimum
  | notABoolean
  | malformedBoolean
  | notAText
  | unknownLogLevel (shown : String)
deriving DecidableEq, Repr

namespace SettingError

def code : SettingError → String
  | notAnInteger => "int_type"
  | malformedInteger => "int_parsing"
  | integerTooLarge => "int_parsing_size"
  | notWhole => "int_from_float"
  | notFinite => "finite_number"
  | belowMinimum => "greater_than_equal"
  | notABoolean => "bool_type"
  | malformedBoolean => "bool_parsing"
  | notAText => "string_type"
  | unknownLogLevel _ => "value_error"

def message? : SettingError → Option String
  | unknownLogLevel shown =>
      some ("Value error, unknown log level '" ++ shown ++ "' (expected one of " ++
        ", ".intercalate (LogLevel.all.map LogLevel.name) ++ ")")
  | _ => none

end SettingError

namespace Settings

def initial : Settings := ⟨100, false, .warning, "alice>>"⟩

/-! ## Reading single settings -/

def startsNumber (character : Char) : Bool :=
  character = '-' || decide ('1' ≤ character) && decide (character ≤ '9')

/-- The number that follows zeros and underscores, of which `last` is the latest. If
nothing or a point follows, that one is kept. -/
def afterZeros? (last : Char) : List Char → Option (List Char)
  | [] => some [last]
  | character :: rest =>
      if character = '0' || character = '_' then afterZeros? character rest
      else if character = '.' then some (last :: character :: rest)
      else if startsNumber character then some (character :: rest)
      else none

def dropLeadingZeros? : List Char → Option (List Char)
  | [] => none
  | character :: rest =>
      if character = '0' then afterZeros? character rest
      else if startsNumber character then some (character :: rest)
      else none

def dropZeroFraction (characters : List Char) : List Char :=
  let fraction := (characters.dropWhile (· ≠ '.')).drop 1
  if !fraction.isEmpty && fraction.all (· = '0') then characters.takeWhile (· ≠ '.')
  else characters

/-- A number without what its text may hold besides: white space around it, a plus sign,
zeros in front, a fraction of zeros, and underscores, of which single ones may part its
characters. -/
def bareNumber? (text : List Char) : Option (List Char) := do
  let characters ←
    match trimEnds isWhiteSpace text with
    | '+' :: '-' :: _ => none
    | '+' :: rest => (dropLeadingZeros? rest).map dropZeroFraction
    | '-' :: rest => (dropLeadingZeros? rest).map fun rest => '-' :: dropZeroFraction rest
    | characters => (dropLeadingZeros? characters).map dropZeroFraction
  if Numeral.separated false characters then some (characters.filter (· ≠ '_')) else none

def plainInteger (characters : List Char) : Except SettingError Int :=
  let negative := characters.head? = some '-'
  let unsigned := if negative then characters.tail else characters
  let digits := unsigned.takeWhile Char.isDigit
  if digits.isEmpty || digits.head? = some '0' && 1 <
    digits.length then .error .malformedInteger
  else if Numeral.digitLimit < digits.length then .error .integerTooLarge
  else if digits.length < unsigned.length then .error .malformedInteger
  else .ok (Double.signed negative (Numeral.value 10 digits))

/-- A whole number in a text. Where the text cannot be read as it stands, it is read
without what it may hold besides the number, and counts as malformed if that fails for any
reason. -/
def integerOfText (text : String) : Except SettingError Int :=
  match plainInteger text.toList with
  | .error .malformedInteger =>
      match bareNumber? text.toList with
      | some characters => (plainInteger characters).mapError fun _ => .malformedInteger
      | none => .error .malformedInteger
  | result => result

def integerOfReal (number : Float) : Except SettingError Int :=
  match Double.truncate? number with
  | none => .error .notFinite
  | some whole =>
      if !Double.isWhole number then .error .notWhole
      else if whole.natAbs < Nat.pow 2 63 then .ok whole
      else .error .integerTooLarge

def toInteger : Datum → Except SettingError Int
  | .integer value => .ok value
  | .boolean value => .ok (if value then 1 else 0)
  | .real value => integerOfReal value
  | .text value => integerOfText value
  | _ => .error .notAnInteger

def toMaxCallDepth (datum : Datum) : Except SettingError Nat := do
  let depth ← toInteger datum
  if depth < 1 then .error .belowMinimum else pure depth.toNat

def trueWords : List String := ["1", "on", "t", "true", "y", "yes"]

def falseWords : List String := ["0", "off", "f", "false", "n", "no"]

def toBench : Datum → Except SettingError Bool
  | .boolean value => .ok value
  | .text value =>
      let word := String.ofList (value.toList.map Char.toLower)
      if trueWords.contains word then .ok true
      else if falseWords.contains word then .ok false
      else .error .malformedBoolean
  | .integer value =>
      if -Nat.pow 2 63 ≤ value ∧ value < Nat.pow 2 63 then ofInteger value
      else .error .notABoolean
  | .real value =>
      match integerOfReal value with
      | .ok whole => ofInteger whole
      | .error _ => .error .notABoolean
  | _ => .error .notABoolean
where
  ofInteger (value : Int) : Except SettingError Bool :=
    if value = 1 then .ok true else if value = 0 then .ok false
    else .error .malformedBoolean

def capitals (character : Char) : List Char :=
  match character with
  | 'ı' => ['I']
  | 'ſ' => ['S']
  | 'ß' => ['S', 'S']
  | 'ﬀ' => ['F', 'F']
  | 'ﬁ' => ['F', 'I']
  | 'ﬂ' => ['F', 'L']
  | 'ﬃ' => ['F', 'F', 'I']
  | 'ﬄ' => ['F', 'F', 'L']
  | 'ﬅ' | 'ﬆ' => ['S', 'T']
  | _ => [character.toUpper]

def toLogLevel (datum : Datum) : Except SettingError LogLevel :=
  let shown := datum.display
  match LogLevel.ofName? (String.ofList ((trimBlanks shown.toList).flatMap capitals)) with
  | some level => .ok level
  | none => .error (.unknownLogLevel shown)

def toPrompt : Datum → Except SettingError String
  | .text value => .ok value
  | _ => .error .notAText

/-! ## All settings together -/

abbrev Errors := List (String × SettingError)

def single {Result : Type} (given : List (String × Datum)) (field : String)
    (initial : Result) (convert : Datum → Except SettingError Result) : Result × Errors :=
  match given.lookup field with
  | none => (initial, [])
  | some datum =>
      match convert datum with
      | .ok result => (result, [])
      | .error reason => (initial, [(field, reason)])

def maxCallDepthField : String := "max_call_depth"
def benchField : String := "bench"
def logLevelField : String := "log_level"
def promptField : String := "prompt"

def ofData (given : List (String × Datum)) : Except Errors Settings :=
  let (maxCallDepth, depthErrors) :=
    single given maxCallDepthField initial.maxCallDepth toMaxCallDepth
  let (bench, benchErrors) := single given benchField initial.bench toBench
  let (logLevel, levelErrors) := single given logLevelField initial.logLevel toLogLevel
  let (prompt, promptErrors) := single given promptField initial.prompt toPrompt
  match depthErrors ++ benchErrors ++ levelErrors ++ promptErrors with
  | [] => .ok { maxCallDepth, bench, logLevel, prompt }
  | errors => .error errors

def environmentVariables : List (String × String) :=
  [ ("ALICE_MAX_CALL_DEPTH", maxCallDepthField), ("ALICE_BENCH", benchField),
    ("ALICE_LOG_LEVEL", logLevelField), ("ALICE_PROMPT", promptField) ]

def ofEnvironment (environment : List (String × String))
    (overrides : List (String × Datum)) : Except Errors Settings :=
  let present := overrides.filter fun (_, datum) =>
    match datum with
    | .null => false
    | _ => true
  let read := environmentVariables.filterMap fun (variableName, field) =>
    (environment.lookup variableName).map fun value => (field, Datum.text value)
  ofData (present ++ read)

end Settings

end StackLanguage
