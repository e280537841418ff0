import DelegationAudit.Json.Basic

namespace DelegationAudit

inductive Severity
  | high
  | medium
  | low
  | info
  | other (text : String)
  deriving DecidableEq

namespace Severity

def text : Severity → String
  | high => "high"
  | medium => "medium"
  | low => "low"
  | info => "info"
  | other s => s

def ofText (s : String) : Severity :=
  if s == "high" then high
  else if s == "medium" then medium
  else if s == "low" then low
  else if s == "info" then info
  else other s

def label : Severity → String
  | high => "ERR"
  | medium | low => "WARN"
  | _ => "INFO"

end Severity

inductive Issue
  | noNameservers
  | singleNameserver
  | noAddress
  | privateAddress
  | sameSubnet
  | singleNetwork
  | checkFailed
  | inconsistent
  | deadline
  | other (text : String)
  deriving DecidableEq

namespace Issue

def text : Issue → String
  | noNameservers => "NO_NAMESERVERS"
  | singleNameserver => "SINGLE_NAMESERVER"
  | noAddress => "NS_NO_ADDRESS"
  | privateAddress => "PRIVATE_ADDRESS"
  | sameSubnet => "SAME_SUBNET"
  | singleNetwork => "SINGLE_ASN"
  | checkFailed => "CHECK_FAILED"
  | inconsistent => "NS_INCONSISTENT"
  | deadline => "SCAN_DEADLINE"
  | other s => s

def known : List Issue := [noNameservers, singleNameserver, noAddress, privateAddress, sameSubnet,
  singleNetwork, checkFailed, inconsistent, deadline]

def ofText (s : String) : Issue := (known.find? (fun i => i.text == s)).getD (other s)

end Issue

structure Finding where
  zone : String
  issue : Issue
  severity : Severity
  server : Option String
  detail : Option String
  data : List (String × Json)

namespace Finding

def between (opening closing : String) : Option String → String
  | none => ""
  | some s => if s.isEmpty then "" else opening ++ s ++ closing

def line (f : Finding) : String :=
  f.severity.label ++ " : " ++ f.issue.text ++ between " [" "]" f.server ++ between ": " "" f.detail

def toJson (f : Finding) : List (String × Json) := [
  ("zone", .str f.zone),
  ("issue", .str f.issue.text),
  ("severity", .str f.severity.text),
  ("server", .ofOption f.server),
  ("detail", .ofOption f.detail),
  ("data", .obj f.data)]

end Finding

end DelegationAudit
