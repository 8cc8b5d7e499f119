import InvocationHost.Log.Filter

/-! # How the host logs

The platform names a level and a format. Without a level of the platform a filter may be given, and
without either the level is `info`.
-/
namespace InvocationHost.Log
open Text

def levelVariable : String := "AWS_LAMBDA_LOG_LEVEL"
def formatVariable : String := "AWS_LAMBDA_LOG_FORMAT"
def filterVariable : String := "RUST_LOG"

inductive Format
  | text
  | json
  deriving DecidableEq, Repr

/-- Only the exact word selects JSON. -/
def Format.ofVariable (raw : Option String) : Format := if raw = some "JSON" then .json else .text

def Format.name : Format → String
  | .text => "text"
  | .json => "json"

def platformLevels : List (String × String) :=
  [("trace", "trace"), ("debug", "debug"), ("warn", "warn"), ("error", "error"), ("fatal", "error")]

def defaultLevel : String := "info"

/-- The level for a platform level in any case; one that is not known is the default. -/
def levelName (raw : String) : String :=
  let word := String.ofList ((trim raw.toList).map Char.toLower)
  (platformLevels.lookup word).getD defaultLevel

structure Settings where
  filter : Filter
  format : Format
  deriving Repr

def Settings.read (lookup : String → Option String) : Settings where
  format := Format.ofVariable (lookup formatVariable)
  filter :=
    let default := Filter.ofThreshold 3
    match lookup levelVariable with
    | some raw => (Filter.parse? (levelName raw)).getD default
    | none => ((lookup filterVariable).bind Filter.parse?).getD default

end InvocationHost.Log
