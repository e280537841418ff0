import DelegationAudit.Proofs.Isolation
import DelegationAudit.Proofs.Looks
import DelegationAudit.Proofs.Visits

namespace DelegationAudit

open Dns

variable {τ : Type}

namespace Scan

variable [Instant τ]

def probeCall (s : Scan τ) (zone : Name) (type : RecordType) (address : String) : Call τ :=
  ⟨address, 53, s.settings.timeout, ⟨zone, type, false⟩⟩

omit [Instant τ] in
theorem message_authoritative (s : Scan τ) (zone : Name) (type : RecordType) (address : String) :
    (s.client.withPort authoritativePort).message address zone type = s.probeCall zone type address :=
  rfl

/-- Both questions are about the zone. -/
def probeCalls (s : Scan τ) (zone : Name) (a : Net.Address) : List (Call τ) :=
  [s.probeCall zone .soa a.text, s.probeCall zone .ns a.text]

def firstCall (s : Scan τ) (zone : Name) : Call τ := s.client.message s.settings.resolver zone .ns

end Scan

variable [Instant τ]

/-- A resolver that answers on a port of its own. -/
def elsewhere : Settings Float := { endless with port := 5353 }

theorem twoAddresses_orderly : (twoAddresses []).Orderly :=
  Network.orderly_of_start (by simp)

end DelegationAudit
