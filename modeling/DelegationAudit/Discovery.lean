import DelegationAudit.Lookup
import DelegationAudit.Ownership.Origin

namespace DelegationAudit

open Dns

/-- One delegated nameserver. Ownership is known of some of its addresses, under their texts. -/
structure Nameserver where
  name : String
  addresses : List Net.Address
  ownership : List (String × Ownership)
  deriving DecidableEq

namespace Discovery

variable {τ : Type} [Instant τ]

/-- The addresses of one kind; a host without any is nothing unusual. -/
def addresses (client : Client τ) (server host : String) (type : RecordType) (w : Network τ) :
    Except Failure (List Net.Address) × Network τ :=
  match client.resolve host type server false w with
  | (.ok (records, _), w') => (.ok (addressesOf records), w')
  | (.error e, w') =>
    if e.isResolution then
      (.ok [], w'.note .debug "nsaudit.discovery"
        ("no " ++ type.text ++ " for nameserver " ++ host ++ ": " ++ e.message))
    else (.error e, w')

def nameserver (client : Client τ) (server host : String) (w : Network τ) :
    Except Failure Nameserver × Network τ :=
  match addresses client server host .a w with
  | (.error e, w') => (.error e, w')
  | (.ok v4, w') =>
    match addresses client server host .aaaa w' with
    | (.error e, w'') => (.error e, w'')
    | (.ok v6, w'') => (.ok ⟨host, v4 ++ v6, []⟩, w'')

def nameservers (client : Client τ) (server : String) :
    List String → Network τ → Except Failure (List Nameserver) × Network τ
  | [], w => (.ok [], w)
  | host :: rest, w =>
    match nameserver client server host w with
    | (.error e, w') => (.error e, w')
    | (.ok ns, w') =>
      match nameservers client server rest w' with
      | (.error e, w'') => (.error e, w'')
      | (.ok more, w'') => (.ok (ns :: more), w'')

end Discovery

def discover {τ : Type} [Instant τ] (client : Client τ) (server domain : String) (w : Network τ) :
    Except Failure (List Nameserver) × Network τ :=
  match client.resolve domain .ns server false w with
  | (.error e, w') => (.error (if e.isResolution then .noNameservers domain e else e), w')
  | (.ok (records, _), w') =>
    match Discovery.nameservers client server (targetsOf records) w' with
    | (.error e, w'') => (.error e, w'')
    | (.ok [], w'') => (.error (.noNameservers domain .absent), w'')
    | (.ok (ns :: more), w'') => (.ok (ns :: more), w'')

end DelegationAudit
