import DelegationAudit.Proofs.Messages
import DelegationAudit.Proofs.OriginName

namespace DelegationAudit

open Dns

variable {τ : Type}

namespace Ownership

def partsOf (records : List Record) : List (List Char) :=
  match records.head?.map (·.data) with
  | some (Rdata.txt strings) => fieldsOf (textOf strings)
  | _ => fieldsOf []

/-- The number of a network: the first of the first field, if there are three fields. -/
def numberIn : List (List Char) → Option Int
  | networks :: _ :: _ :: _ => firstNumber networks
  | _ => none

/-- The number of the network that announces an address, by the answer about its origin. -/
def announced (records : List Record) : Option Int := numberIn (partsOf records)

theorem networkName_eq (asn : Int) :
    networkName asn = "AS" ++ Number.intString asn ++ ".asn.cymru.com." := by
  have hzone : '.' :: networkZone = ".asn.cymru.com.".toList := by decide +kernel
  rw [networkName, hzone, Number.intString, String.ofList_append, String.ofList_append,
    String.ofList_toList, String.ofList_toList]

namespace Source

def originCall (source : Source τ) (a : Net.Address) : Call τ :=
  source.client.message source.server (originOf a) .txt

/-- The question about the name of a network; one that has no name to be asked under is not asked. -/
def networkCalls (source : Source τ) (asn : Int) : List (Call τ) :=
  match Name.read ("AS" ++ Number.intString asn ++ ".asn.cymru.com.") with
  | .error _ => []
  | .ok name => [source.client.message source.server name .txt]

variable [Instant τ]

theorem ask_nameless (source : Source τ) {text : String} {fault : NameError}
    (h : Name.read text = .error fault) (v : Network τ) : source.ask text v =
      (.error (.plain .ownership
        (text ++ ": " ++ (Failure.invalidQuestion text (.ofNameError fault)).message)), v) := by
  rw [ask, source.client.resolve_nameless _ _ _ _ h]
  rfl

theorem remembered_cases (source : Source τ) (key : String) (s : Session τ) :
    (∃ entry, s.cache.find? key = some entry ∧
      Instant.before source.lifetime (Instant.sub s.network.clock entry.stored) = false ∧
      source.remembered key s = (some entry.info, s)) ∨
    ((∀ entry, s.cache.find? key = some entry →
        Instant.before source.lifetime (Instant.sub s.network.clock entry.stored) = true) ∧
      ∃ v, v.SameButLog s.network ∧ source.remembered key s = (none, ⟨v, s.cache.erase key⟩)) := by
  rw [remembered]
  cases hfind : s.cache.find? key with
  | none =>
    refine .inr ⟨?_, s.network, .refl _, ?_⟩
    · intro entry he
      cases he
    · rw [Cache.erase_of_find?_eq_none hfind]
  | some entry =>
    dsimp only
    cases hold : Instant.before source.lifetime (Instant.sub s.network.clock entry.stored) with
    | false => exact .inl ⟨entry, rfl, hold, rfl⟩
    | true =>
      refine .inr ⟨?_, _, Network.SameButLog.note (.refl _) _ _ _, rfl⟩
      intro entry' he
      cases he
      exact hold

end Source

end Ownership

end DelegationAudit
