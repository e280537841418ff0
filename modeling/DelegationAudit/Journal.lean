import DelegationAudit.Network
import DelegationAudit.Json.Shape

namespace DelegationAudit.Journal

/-- The lowest level that is written. A word that is no level stands for `info`. -/
def threshold (word : String) : Int :=
  let w := lowerText word
  if w == "debug" then 10
  else if w == "info" then 20
  else if w == "warn" || w == "warning" then 30
  else if w == "error" then 40
  else 20

def levelTag (level : Int) : String :=
  if level == 0 then "notset"
  else if level == 10 then "debug"
  else if level == 20 then "info"
  else if level == 30 then "warn"
  else if level == 40 then "error"
  else if level == 50 then "critical"
  else "level " ++ Number.intString level

structure Date where
  year : Int
  month : Nat
  day : Nat
  deriving DecidableEq

/-- The date of a day counted from the first of 1970. Years start in March here, so that a leap day
comes last, and 400 years are a full turn. -/
def Date.ofDays (days : Int) : Date :=
  let z := days + 719468
  let era := Int.fdiv z 146097
  let doe := (z - era * 146097).toNat
  let yoe := (doe - doe / 1460 + doe / 36524 - doe / 146096) / 365
  let doy := doe - (365 * yoe + yoe / 4 - yoe / 100)
  let mp := (5 * doy + 2) / 153
  let month := if mp < 10 then mp + 3 else mp - 9
  let year : Int := yoe + era * 400
  ⟨if month ≤ 2 then year + 1 else year, month, doy - (153 * mp + 2) / 5 + 1⟩

def firstSecond : Int := -67768040609740800

def lastSecond : Int := 67767976233532799

def timeText (seconds : Int) : String :=
  let days := Int.fdiv seconds 86400
  let rest := (seconds - days * 86400).toNat
  let date := Date.ofDays days
  let two := Number.padded 2
  String.ofList (Number.intText date.year ++ '-' :: two date.month ++ '-' :: two date.day ++ 'T' ::
    two (rest / 3600) ++ ':' :: two (rest / 60 % 60) ++ ':' :: two (rest % 60) ++ ['Z'])

def body (level : Int) (source message : String) : String :=
  "[" ++ levelTag level ++ "] " ++ source ++ ": " ++ message

structure Record where
  level : Int
  source : String
  message : String
  /-- In whole seconds, where the clock gave a number. -/
  created : Option Int

/-- A record whose moment has no date is not written. -/
def Record.line? (r : Record) : Option String :=
  match r.created with
  | none => none
  | some t =>
    if firstSecond ≤ t && t ≤ lastSecond then
      some (timeText t ++ " " ++ body r.level r.source r.message)
    else none

def write (lowest : Int) (records : List Record) : String :=
  let written := records.filter (fun r => lowest ≤ r.level && 0 < r.level)
  String.join ((written.filterMap Record.line?).map (· ++ "\n"))

def bodies (lowest : Int) (log : List LogEntry) : List String :=
  (log.filter (fun e => lowest ≤ (e.level.number : Int))).map
    fun e => body e.level.number e.source e.message

end DelegationAudit.Journal
