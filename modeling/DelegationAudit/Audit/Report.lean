import DelegationAudit.Audit.Finding
import DelegationAudit.Discovery

namespace DelegationAudit

inductive Overall
  | ok
  | warning
  | broken
  | unknown
  | other (text : String)
  deriving DecidableEq

namespace Overall

def text : Overall → String
  | ok => "ok"
  | warning => "warning"
  | broken => "broken"
  | unknown => "unknown"
  | other s => s

def ofText (s : String) : Overall :=
  if s == "ok" then ok
  else if s == "warning" then warning
  else if s == "broken" then broken
  else if s == "unknown" then unknown
  else other s

def ofSeverities (ss : List Severity) : Overall :=
  if ss.contains .high then broken
  else if ss.contains .medium || ss.contains .low then warning
  else ok

end Overall

inductive Step
  | enrichment
  | probes
  deriving DecidableEq

def Step.text : Step → String
  | enrichment => "enrichment"
  | probes => "probes"

structure Probe where
  nameserver : String
  address : String
  soaOk : Bool
  nsOk : Bool
  served : List String
  deriving DecidableEq

inductive Observation
  | skipped (step : Step)
  | ipv4Addresses (addresses : List Net.IPv4)
  | asns (numbers : List Int)
  | probes (probes : List Probe)
  | servedNames (names : List String)
  | timing (millis : Int)
  | note (key : String) (value : Json)

def Probe.toJson (p : Probe) : Json := .obj [
  ("ns", .str p.nameserver),
  ("ip", .str p.address),
  ("soa_ok", .bool p.soaOk),
  ("ns_ok", .bool p.nsOk),
  ("child_ns", .strings p.served)]

namespace Observation

def key : Observation → String
  | skipped _ => "deadline_skipped"
  | ipv4Addresses _ => "ipv4_addresses"
  | asns _ => "asns"
  | probes _ => "probes"
  | servedNames _ => "served_ns"
  | timing _ => "timing_ms"
  | note k _ => k

def value : Observation → Json
  | skipped step => .str step.text
  | ipv4Addresses addresses => .strings (addresses.map Net.IPv4.text)
  | asns numbers => .arr (numbers.map .int)
  | probes ps => .arr (ps.map Probe.toJson)
  | servedNames names => .strings names
  | timing millis => .int millis
  | note _ v => v

end Observation

def Ownership.toJson (o : Ownership) : Json := .obj [
  ("country", .ofOption o.country),
  ("asn", match o.asn with
    | some n => .int n
    | none => .null),
  ("organization", .ofOption o.organization),
  ("prefix", .ofOption o.block)]

namespace Nameserver

def ownershipJson (ns : Nameserver) : Json := .obj (ns.ownership.map (fun o => (o.1, o.2.toJson)))

def toJson (ns : Nameserver) : Json := .obj [
  ("name", .str ns.name),
  ("addresses", .strings (ns.addresses.map Net.Address.text)),
  ("ownership", ns.ownershipJson)]

def ownerOf? (ns : Nameserver) (address : Net.Address) : Option Ownership :=
  ns.ownership.lookup address.text

end Nameserver

structure Report where
  zone : String
  resolver : String
  parent : String
  overall : Overall
  nameservers : List Nameserver
  observations : List Observation
  findings : List Finding

namespace Report

def start (zone resolver parent : String) : Report := ⟨zone, resolver, parent, .unknown, [], [], []⟩

def add (f : Finding) (r : Report) : Report := { r with findings := r.findings ++ [f] }

def addAll (fs : List Finding) (r : Report) : Report := { r with findings := r.findings ++ fs }

def observe (o : Observation) (r : Report) : Report := { r with observations := r.observations ++ [o] }

def lines (r : Report) : List String := r.findings.map Finding.line

def addresses (r : Report) : List Net.Address := r.nameservers.flatMap Nameserver.addresses

def finalize (r : Report) : Report :=
  { r with overall := Overall.ofSeverities (r.findings.map Finding.severity) }

def wasSkipped (r : Report) : Bool :=
  r.observations.any fun
    | .skipped _ => true
    | _ => false

def toJson (r : Report) : List (String × Json) := [
  ("zone", .str r.zone),
  ("resolver", .str r.resolver),
  ("parent", .str r.parent),
  ("overall", .str r.overall.text),
  ("nameservers", .arr (r.nameservers.map Nameserver.toJson)),
  ("observations", .obj (r.observations.map (fun o => (o.key, o.value)))),
  ("findings", .arr (r.findings.map (fun f => .obj f.toJson)))]

end Report

end DelegationAudit
