import RStepper.Json.Value
import RStepper.Launch
import RStepper.Text.Quoted

/-!
Settings read from JSON: an object with the settings that are asked for, or an array that lists them
in order. What is not given keeps its standard value. The keys of an object are looked at in sorted
order, and the first fault ends the reading.
-/

namespace RStepper.Launch

/-- What is wrong with a value that settings are read from. -/
inductive Fault where
  /-- A value of the wrong type. -/
  | type (found : Json) (expected : String)
  /-- A number out of range. -/
  | range (found : Int) (expected : String)
  /-- Two keys for one setting. -/
  | twice (key : String)
  /-- More items than settings. -/
  | length (count : Nat)
  deriving Repr

/-- The name of a value's type, with the value if it is short. -/
def typeLabel : Json → String
  | .null => "null"
  | .bool value => "boolean \x60" ++ toString value ++ "\x60"
  | .int value => "integer \x60" ++ toString value ++ "\x60"
  | .real value => "floating point \x60" ++ value.render ++ "\x60"
  | .str value => "string " ++ Text.Quoted.encode value
  | .arr _ => "sequence"
  | .obj _ => "map"

def Fault.message : Fault → String
  | .type found expected => "invalid type: " ++ typeLabel found ++ ", expected " ++ expected
  | .range found expected =>
    "invalid value: integer \x60" ++ toString found ++ "\x60, expected " ++ expected
  | .twice key => "duplicate field \x60" ++ key ++ "\x60"
  | .length count =>
    "invalid length " ++ toString count ++ ", expected fewer elements in array"

def readText (expected : String) : Json → Except Fault String
  | .str value => .ok value
  | found => .error (.type found expected)

def readPath : Json → Except Fault String :=
  readText "path string"

def readPath? : Json → Except Fault (Option String)
  | .null => .ok none
  | value => (readPath value).map some

def readFlag : Json → Except Fault Bool
  | .bool value => .ok value
  | found => .error (.type found "a boolean")

def readCount : Json → Except Fault Nat
  | .int value =>
    if value < 0 then .error (.range value "u64") else .ok value.toNat
  | found => .error (.type found "u64")

def readTexts : Json → Except Fault (List String)
  | .arr items => items.mapM (readText "a string")
  | found => .error (.type found "a sequence")

def readVariables : Json → Except Fault (List (String × String))
  | .obj fields => fields.mapM fun (name, value) =>
      (readText "a string" value).map fun text => (name, text)
  | found => .error (.type found "a map")

/-- The settings one by one. -/
inductive Setting where
  | interpreter
  | script
  | arguments
  | directory
  | environment
  | inheritsEnvironment
  | opening
  | stopsOnEntry
  | settleTime
  deriving DecidableEq, Repr

namespace Setting

def all : List Setting :=
  [.interpreter, .script, .arguments, .directory, .environment, .inheritsEnvironment, .opening,
    .stopsOnEntry, .settleTime]

def key : Setting → String
  | .interpreter => "interpreterPath"
  | .script => "scriptPath"
  | .arguments => "scriptArgs"
  | .directory => "workingDirectory"
  | .environment => "envs"
  | .inheritsEnvironment => "passParentEnvs"
  | .opening => "initCommands"
  | .stopsOnEntry => "stopOnEntry"
  | .settleTime => "stderrSettleMs"

/-- A second key for the script. -/
def scriptAlias : String := "program"

def ofKey? (key : String) : Option Setting :=
  if key = scriptAlias then some .script else all.find? (·.key == key)

/-- Takes one setting from a value. -/
def read (setting : Setting) (value : Json) (launch : Launch) : Except Fault Launch :=
  match setting with
  | .interpreter => (readPath value).map fun interpreter => { launch with interpreter }
  | .script => (readPath value).map fun script => { launch with script }
  | .arguments => (readText "a string" value).map fun arguments => { launch with arguments }
  | .directory => (readPath? value).map fun directory => { launch with directory }
  | .environment => (readVariables value).map fun environment => { launch with environment }
  | .inheritsEnvironment =>
    (readFlag value).map fun inheritsEnvironment => { launch with inheritsEnvironment }
  | .opening => (readTexts value).map fun opening => { launch with opening }
  | .stopsOnEntry => (readFlag value).map fun stopsOnEntry => { launch with stopsOnEntry }
  | .settleTime => (readCount value).map fun settleTime => { launch with settleTime }

end Setting

/-- Takes settings from the fields of an object in their order; `seen` holds those already given. -/
def readFields (seen : List Setting) (launch : Launch) :
    List (String × Json) → Except Fault Launch
  | [] => .ok launch
  | (key, value) :: rest =>
    match Setting.ofKey? key with
    | none => readFields seen launch rest
    | some setting =>
      if setting ∈ seen then .error (.twice setting.key)
      else (setting.read value launch).bind (readFields (setting :: seen) · rest)

/-- Takes settings from the items of an array. -/
def readItems (launch : Launch) : List (Setting × Json) → Except Fault Launch
  | [] => .ok launch
  | (setting, value) :: rest => (setting.read value launch).bind (readItems · rest)

/-- The settings that a value in order asks for. -/
def ofJson (value : Json) : Except Fault Launch :=
  match value with
  | .obj fields => readFields [] standard fields
  | .arr items => do
    let launch ← readItems standard (Setting.all.zip items)
    if Setting.all.length < items.length then throw (.length items.length)
    return launch
  | found => .error (.type found "struct RunConfig")

end RStepper.Launch
