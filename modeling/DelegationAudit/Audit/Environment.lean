import DelegationAudit.Audit.Settings
import DelegationAudit.Number.Reading

namespace DelegationAudit

def readIntText (s : String) : Except Failure Int :=
  match Number.readInteger s.toList with
  | .ok n => .ok n
  | .error e => .error (.plain .value (e.message s.toList))

def readFloatText (s : String) : Except Failure Float :=
  match Number.readFloat s.toList with
  | some x => .ok x
  | none => .error (.plain .value ("could not convert string to float: " ++ Text.quote s))

/-- The words for a switch that is off. -/
def offWords : List String := ["0", "false", "no", "off", ""]

def isOn (s : String) : Bool := !offWords.contains (lowerText (String.ofList (Text.trim s.toList)))

abbrev Environment := List (String × String)

def Environment.getD (env : Environment) (key default : String) : String :=
  (env.lookup key).getD default

namespace Settings

def fromEnvironment (env : Environment) (w : Network Float) : Except Failure (Settings Float) := do
  let port ← readIntText (env.getD "NSAUDIT_PORT" "53")
  let timeout ← readFloatText (env.getD "NSAUDIT_TIMEOUT" "2.0")
  let deadline ← readFloatText (env.getD "NSAUDIT_DEADLINE" "60")
  let lifetime ← readFloatText (env.getD "NSAUDIT_CACHE_TTL" "3600")
  return {
    resolver := w.resolveHost (env.getD "NSAUDIT_RESOLVER" defaultResolver)
    port := port
    timeout := timeout
    deadline := deadline
    enrich := isOn (env.getD "NSAUDIT_ENRICH" "1")
    probe := isOn (env.getD "NSAUDIT_PROBE" "1")
    lifetime := lifetime
    logLevel := env.getD "NSAUDIT_LOG_LEVEL" "info" }

end Settings

end DelegationAudit
