import DelegationAudit.Audit.Report
import DelegationAudit.Net.Block

namespace DelegationAudit.Topology

def noAddress (zone : String) (ns : Nameserver) : Finding where
  zone := zone
  issue := .noAddress
  severity := .medium
  server := some ns.name
  detail := some ("Nameserver " ++ ns.name ++ " did not resolve to any A/AAAA address.")
  data := [("nameserver", .str ns.name)]

def privateAddress (zone : String) (ns : Nameserver) (address : Net.Address) : Finding where
  zone := zone
  issue := .privateAddress
  severity := .high
  server := some ns.name
  detail := some ("Nameserver " ++ ns.name ++ " publishes RFC 1918 address " ++ address.text ++ ".")
  data := [("nameserver", .str ns.name), ("address", .str address.text)]

def addressFindings (zone : String) (ns : Nameserver) : List Finding :=
  if ns.addresses.isEmpty then [noAddress zone ns]
  else (ns.addresses.filter Net.Address.isPrivate).map (privateAddress zone ns)

def singleNameserver (zone : String) (nameservers : List Nameserver) : Finding where
  zone := zone
  issue := .singleNameserver
  severity := .high
  server := none
  detail := some ("Only " ++ Number.natString nameservers.length ++
    " nameserver is delegated; there is no redundancy.")
  data := [("nameservers", .strings (nameservers.map Nameserver.name))]

def oneSubnet (zone : String) (v4 : List Net.IPv4) : Finding where
  zone := zone
  issue := .sameSubnet
  severity := .high
  server := none
  detail := some "All nameserver IPv4 addresses are in the same /24."
  data := [("addresses", .strings (v4.map Net.IPv4.text))]

def oneNetwork (zone : String) (asn : Int) : Finding where
  zone := zone
  issue := .singleNetwork
  severity := .low
  server := none
  detail := some ("All nameserver addresses are announced by AS" ++ Number.intString asn ++ ".")
  data := [("asn", .int asn)]

def networks (nameservers : List Nameserver) : List (Option Int) :=
  nameservers.flatMap fun ns => ns.addresses.map fun a => (ns.ownerOf? a).bind Ownership.asn

def insertNumber (n : Int) : List Int → List Int
  | [] => [n]
  | m :: rest => if n < m then n :: m :: rest else if n == m then m :: rest else m :: insertNumber n rest

def knownNetworks (nameservers : List Nameserver) : List Int :=
  ((networks nameservers).filterMap id).foldr insertNumber []

def allKnown (nameservers : List Nameserver) : Bool :=
  !(networks nameservers).isEmpty && (networks nameservers).all Option.isSome

def subnetFindings (zone : String) (nameservers : List Nameserver) : List Finding :=
  let addresses := nameservers.flatMap Nameserver.addresses
  let v4 := Net.ipv4Only addresses
  if 2 ≤ v4.length && Net.sameSubnet addresses then [oneSubnet zone v4] else []

/-- Only conclusive when every address is attributed. -/
def networkFindings (zone : String) (nameservers : List Nameserver) : List Finding :=
  match knownNetworks nameservers with
  | [asn] => if allKnown nameservers then [oneNetwork zone asn] else []
  | _ => []

def checkAddresses (r : Report) : Report := r.addAll (r.nameservers.flatMap (addressFindings r.zone))

def checkTopology (r : Report) : Report :=
  if r.nameservers.length < 2 then r.add (singleNameserver r.zone r.nameservers)
  else
    let v4 := Net.ipv4Only r.addresses
    (((r.observe (.ipv4Addresses v4)).addAll (subnetFindings r.zone r.nameservers)).observe
      (.asns (knownNetworks r.nameservers))).addAll (networkFindings r.zone r.nameservers)

end DelegationAudit.Topology
