/-
What a user can set, in the environment or when a service is started. What is
not set has its default. Unknown names are passed over; of a name set twice the
last one counts.
-/
import Calculator.Switch

namespace Calculator

/-- What a user can set. -/
structure Settings where
  appTitle : String
  appVersion : String
  logLevel : String
  prompt : String
  showSteps : Bool
  /-- nothing may follow an expression, and a group ends in the closing parenthesis only -/
  strict : Bool
  deriving DecidableEq, Repr

namespace Settings

/-- A setting whose value is not of its kind. -/
structure Fault where
  name : String
  deriving DecidableEq, Repr

/-- A setting that is a text. -/
def textSetting (given : String → Option Json) (name default : String) : Except Fault String :=
  match given name with
  | none => .ok default
  | some (.string text) => .ok text
  | some _ => .error ⟨name⟩

/-- A setting that is a switch. -/
def switchSetting (given : String → Option Json) (name : String) (default : Bool) :
    Except Fault Bool :=
  match given name with
  | none => .ok default
  | some value =>
    match Switch.ofJson value with
    | .ok position => .ok position
    | .error _ => .error ⟨name⟩

/-- The settings, where `given` says what is set. -/
def ofGiven (given : String → Option Json) : Except Fault Settings := do
  let appTitle ← textSetting given "app_title" "Arytmos"
  let appVersion ← textSetting given "app_version" "0.1.0"
  let logLevel ← textSetting given "log_level" "WARNING"
  let prompt ← textSetting given "prompt" "expr> "
  let showSteps ← switchSetting given "show_steps" false
  let strict ← switchSetting given "strict_trailing_input" false
  return ⟨appTitle, appVersion, logLevel, prompt, showSteps, strict⟩

/-- The key is this name; capitals do not matter. -/
def isKey (name key : String) : Bool := key.toList.map Char.toLower = name.toList

/-- The settings of a document that has them as members. -/
def ofDocument (doc : Json) : Except Fault Settings :=
  let members := doc.members?.getD []
  ofGiven fun name => (members.reverse.find? (isKey name ·.1)).map (·.2)

/-- What stands before the names of settings in an environment. -/
def environmentMark : String := "arytmos_"

/-- The settings of an environment. -/
def ofEnvironment (environment : List (String × String)) : Except Fault Settings :=
  ofGiven fun name =>
    (environment.reverse.find? (isKey (environmentMark ++ name) ·.1)).map (.string ·.2)

/-- The settings as a document. -/
def document (s : Settings) : Json :=
  .object [
    ("app_title", .string s.appTitle), ("app_version", .string s.appVersion),
    ("log_level", .string s.logLevel), ("prompt", .string s.prompt),
    ("show_steps", .bool s.showSteps), ("strict_trailing_input", .bool s.strict)]

end Settings

end Calculator
