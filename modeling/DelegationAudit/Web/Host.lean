import DelegationAudit.Dns.Name.Reader
import DelegationAudit.Net.Address.Reader
import DelegationAudit.Text.Case
import DelegationAudit.Web.Target

namespace DelegationAudit.Web

open Text

/-- Four runs of digits with one character between any two, which may be a digit itself: a run of `k`
digits holds up to `(k + 1) / 2` such runs. -/
def looksDotted (host : List Char) : Bool :=
  let runs := (fields (fun c => !c.isDigit) host).map List.length
  runs.length ≤ 4 && runs.all (1 ≤ ·) && 4 ≤ runs.foldl (fun n k => n + (k + 1) / 2) 0

def isBracketed (host : List Char) : Bool := host.head? == some '[' && host.getLast? == some ']'

def insideBrackets (host : List Char) : List Char := (host.drop 1).dropLast

def labelsOf (host : List Char) : List (List Char) :=
  let labels := fields Dns.isFullStop host
  if labels.getLast? == some [] then labels.dropLast else labels

def hasAsciiForm (host : List Char) : Bool :=
  if 254 < host.length then false
  else match (labelsOf host).mapM fun l => Idna.toAscii (l.map Char.toNat) with
    | .error _ => false
    | .ok labels => (joinWith ['.'] labels).length ≤ 253

def checkHost (host : List Char) : Except TargetFault Unit :=
  if looksDotted host then
    match Net.readIPv4 host with
    | .ok _ => .ok ()
    | .error _ => .error (.badIPv4 host)
  else if isBracketed host then
    if (Net.readIPv6 (insideBrackets host)).isSome then .ok () else .error (.badIPv6 host)
  else if isAscii host || hasAsciiForm (lower host) then .ok ()
  else .error (.badHost host)

def usualPort? (scheme : List Char) : Option Int :=
  [("http", 80), ("https", 443), ("ws", 80), ("wss", 443), ("ftp", 21)].lookup (String.ofList scheme)

/-- The usual port of a scheme counts as none. -/
def readPort (scheme port : List Char) : Except TargetFault (Option Int) :=
  if port.isEmpty then .ok none
  else match Number.readInteger port with
    | .error _ => .error (.badPort port)
    | .ok n => .ok (if usualPort? scheme == some n then none else some n)

end DelegationAudit.Web
