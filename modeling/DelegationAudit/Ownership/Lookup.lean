import DelegationAudit.Lookup
import DelegationAudit.Ownership.Cache

namespace DelegationAudit

structure Session (τ : Type) where
  network : Network τ
  cache : Ownership.Cache τ

namespace Ownership

structure Source (τ : Type) where
  client : Client τ
  server : String
  lifetime : τ

namespace Source

variable {τ : Type} [Instant τ]

/-- The fields of the first text record. -/
def ask (source : Source τ) (name : String) (w : Network τ) :
    Except Failure (List (List Char)) × Network τ :=
  match source.client.resolve name .txt source.server false w with
  | (.error e, w') =>
    (.error (if e.isResolution then .plain .ownership (name ++ ": " ++ e.message) else e), w')
  | (.ok (records, _), w') =>
    match records.head?.map (·.data) with
    | some (Dns.Rdata.txt strings) => (.ok (fieldsOf (textOf strings)), w')
    | _ => (.ok (fieldsOf []), w')

def note (message : String) (w : Network τ) : Network τ := w.note .debug "nsaudit.ipinfo" message

/-- The fifth field; a network without a name is nothing unusual. -/
def organization (source : Source τ) (asn : Int) (w : Network τ) :
    Except Failure (Option String) × Network τ :=
  match source.ask (networkName asn) w with
  | (.ok parts, w') => (.ok ((parts[4]?).bind nonEmpty), w')
  | (.error e, w') =>
    if e.isOwnership then
      (.ok none, note ("no AS name for AS" ++ Number.intString asn ++ ": " ++ e.message) w')
    else (.error e, w')

def readOrigin (source : Source τ) (key : String) (parts : List (List Char)) (w : Network τ) :
    Except Failure Ownership × Network τ :=
  match parts with
  | networks :: block :: country :: _ =>
    match firstNumber networks with
    | none =>
      (.error (.plain .ownership ("bad ASN in origin answer for " ++ key ++ ": " ++ quotedList parts)), w)
    | some asn =>
      match source.organization asn w with
      | (.error e, w') => (.error e, w')
      | (.ok name, w') => (.ok ⟨nonEmpty country, some asn, name, nonEmpty block⟩, w')
  | _ =>
    (.error (.plain .ownership ("unexpected origin answer for " ++ key ++ ": " ++ quotedList parts)), w)

def remembered (source : Source τ) (key : String) (s : Session τ) : Option Ownership × Session τ :=
  match s.cache.find? key with
  | none => (none, s)
  | some entry =>
    if Instant.before source.lifetime (Instant.sub s.network.clock entry.stored) then
      (none, ⟨note ("ownership cache expired for " ++ key) s.network, s.cache.erase key⟩)
    else (some entry.info, s)

def fetch (source : Source τ) (address : Net.Address) (w : Network τ) :
    Except Failure Ownership × Network τ :=
  match originName address with
  | .error e => (.error e, w)
  | .ok name =>
    match source.ask name w with
    | (.error e, w') => (.error e, w')
    | (.ok parts, w') => source.readOrigin address.text parts w'

def lookup (source : Source τ) (address : Net.Address) (s : Session τ) :
    Except Failure Ownership × Session τ :=
  match source.remembered address.text s with
  | (some info, s') => (.ok info, s')
  | (none, s') =>
    match source.fetch address s'.network with
    | (.error e, w) => (.error e, ⟨w, s'.cache⟩)
    | (.ok info, w) => (.ok info, ⟨w, s'.cache.store address.text ⟨w.clock, info⟩⟩)

end Source

end Ownership

end DelegationAudit
