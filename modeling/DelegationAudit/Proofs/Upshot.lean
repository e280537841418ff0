import DelegationAudit.Proofs.Bookkeeping
import Mathlib.Logic.ExistsUnique

namespace DelegationAudit

open Dns

/-- The records of one type in an answer, each with the owner and the time to live of its set. -/
def Answer.holding (answer : Answer) (type : RecordType) : List Record :=
  answer.sets.flatMap fun s => (s.data.filter fun d => d.type = type).map fun d => ⟨s.name, s.ttl, d⟩

namespace Answer

variable {answer : Answer} {type : RecordType}

theorem filterByType_recordsOf :
    filterByType [type] (recordsOf answer.sets) = answer.holding type := by
  have hset : ∀ s : RecordSet, s.records.filter (fun r => [type].contains r.type) =
      (s.data.filter fun d => d.type = type).map fun d => ⟨s.name, s.ttl, d⟩ := by
    intro s
    rw [RecordSet.records, List.filter_map]
    simp [Function.comp_def, Record.type]
  rw [filterByType, recordsOf, List.filter_flatMap, holding]
  exact List.flatMap_congr fun s _ => hset s

theorem holding_eq_nil_iff :
    answer.holding type = [] ↔ ∀ s ∈ answer.sets, ∀ d ∈ s.data, d.type ≠ type := by
  simp [holding]

end Answer

/-- What can come of a question. -/
inductive Upshot
  | nameless (cause : Failure)
  | unreached (cause : Failure)
  | refused (code : ResponseCode)
  | empty
  | answered (records : List Record)

namespace Upshot

/-- The failure that tells of an upshot, or the records. -/
def result (name : String) (type : RecordType) (server : String) :
    Upshot → Except Failure (List Record)
  | nameless cause => .error (.invalidQuestion name cause)
  | unreached cause => .error (.transport server cause)
  | refused code => .error (.rejected code)
  | empty => .error (.noRecords type)
  | answered records => .ok records

theorem result_injective (name : String) (type : RecordType) (server : String) :
    Function.Injective (result name type server) := by
  intro a b h
  cases a <;> cases b <;> cases h <;> rfl

/-- The upshot that a reply brings about. A code other than that of success decides alone, whatever
records come with it. -/
inductive OfReply (type : RecordType) : Except Failure Answer → Upshot → Prop
  | unreached {e : Failure} : OfReply type (.error e) (.unreached e)
  | refused {answer : Answer} (hcode : answer.code ≠ .noError) :
      OfReply type (.ok answer) (.refused answer.code)
  | empty {answer : Answer} (hcode : answer.code = .noError)
      (hnone : ∀ s ∈ answer.sets, ∀ d ∈ s.data, d.type ≠ type) : OfReply type (.ok answer) .empty
  | answered {answer : Answer} (hcode : answer.code = .noError) (hsome : answer.holding type ≠ []) :
      OfReply type (.ok answer) (.answered (answer.holding type))

theorem OfReply.unique {type : RecordType} {reply : Except Failure Answer} {a b : Upshot}
    (ha : OfReply type reply a) (hb : OfReply type reply b) : a = b := by
  cases ha with
  | unreached =>
    cases hb with
    | unreached => rfl
  | refused hcode =>
    cases hb with
    | refused => rfl
    | empty hok => exact absurd hok hcode
    | answered hok => exact absurd hok hcode
  | empty hcode hnone =>
    cases hb with
    | refused hcode' => exact absurd hcode hcode'
    | empty => rfl
    | answered _ hsome => exact absurd (Answer.holding_eq_nil_iff.mpr hnone) hsome
  | answered hcode hsome =>
    cases hb with
    | refused hcode' => exact absurd hcode hcode'
    | empty _ hnone => exact absurd (Answer.holding_eq_nil_iff.mpr hnone) hsome
    | answered => rfl

/-- The upshot of a question by the reading of its name and by what is said to the name that is read. -/
inductive Due (name : String) (type : RecordType) (said : Name → Except Failure Answer) :
    Upshot → Prop
  | nameless {fault : NameError} (hname : Name.read name = .error fault) :
      Due name type said (.nameless (.ofNameError fault))
  | replied {n : Name} {upshot : Upshot} (hname : Name.read name = .ok n)
      (hreply : OfReply type (said n) upshot) : Due name type said upshot

/-- Two questions about one name with the same reply have the same upshot. -/
theorem Due.unique {name : String} {type : RecordType} {said said' : Name → Except Failure Answer}
    (hsame : ∀ n, Name.read name = .ok n → said n = said' n) {a b : Upshot}
    (ha : a.Due name type said) (hb : b.Due name type said') : a = b := by
  cases ha with
  | nameless hname =>
    cases hb with
    | nameless hname' =>
      rw [hname, Except.error.injEq] at hname'
      rw [hname']
    | replied hname' =>
      rw [hname] at hname'
      cases hname'
  | replied hname hreply =>
    cases hb with
    | nameless hname' =>
      rw [hname] at hname'
      cases hname'
    | replied hname' hreply' =>
      rw [hname, Except.ok.injEq] at hname'
      subst hname'
      rw [hsame _ hname] at hreply
      exact hreply.unique hreply'

end Upshot

namespace Client

variable {τ : Type} [Instant τ]

def call (c : Client τ) (server : String) (type : RecordType) (secure : Bool) (n : Name) : Call τ :=
  ⟨server, c.port, c.timeout, ⟨n, type, secure⟩⟩

theorem resolve_replied (c : Client τ) {name : String} {n : Name} (hname : Name.read name = .ok n)
    (type : RecordType) (server : String) (secure : Bool) (w : Network τ)
    (habsorbed : ∀ e, w.answer (c.call server type secure n) = .error e → e.isAbsorbed = true) :
    (c.resolve name type server secure w).2.calls = w.calls ++ [c.call server type secure n] ∧
      ∃ upshot, Upshot.OfReply type (w.answer (c.call server type secure n)) upshot ∧
        (c.resolve name type server secure w).1.map Prod.fst = upshot.result name type server := by
  have hbuild : buildQuery name type secure = .ok ⟨n, type, secure⟩ := by rw [buildQuery, hname]
  have hcalls := Network.exchange_calls (c.call server type secure n) w
  unfold Network.answer at habsorbed ⊢
  unfold resolve ask
  rw [hbuild]
  dsimp only
  unfold call at *
  generalize w.exchange ⟨server, c.port, c.timeout, ⟨n, type, secure⟩⟩ = x at *
  obtain ⟨reply, u⟩ := x
  cases reply with
  | error e =>
    dsimp only
    rw [if_pos (habsorbed e rfl)]
    exact ⟨hcalls, .unreached e, .unreached, rfl⟩
  | ok answer =>
    dsimp only
    by_cases hcode : answer.code = .noError
    · rw [if_pos (beq_iff_eq.mpr hcode)]
      dsimp only
      rw [Answer.filterByType_recordsOf]
      cases hrecords : answer.holding type with
      | nil => exact ⟨hcalls, .empty, .empty hcode (Answer.holding_eq_nil_iff.mp hrecords), rfl⟩
      | cons record rest =>
        have hsome : answer.holding type ≠ [] := by simp [hrecords]
        exact ⟨hcalls, .answered (answer.holding type), .answered hcode hsome, by rw [hrecords]; rfl⟩
    · rw [if_neg (by simpa using hcode)]
      exact ⟨hcalls, .refused answer.code, .refused hcode, rfl⟩

theorem resolve_due (c : Client τ) (name : String) (type : RecordType) (server : String)
    (secure : Bool) (w : Network τ)
    (habsorbed : ∀ n, Name.read name = .ok n →
      ∀ e, w.answer (c.call server type secure n) = .error e → e.isAbsorbed = true) :
    ∃ upshot, Upshot.Due name type (fun n => w.answer (c.call server type secure n)) upshot ∧
      (c.resolve name type server secure w).1.map Prod.fst = upshot.result name type server := by
  cases hname : Name.read name with
  | error fault =>
    rw [c.resolve_nameless name type server secure hname]
    exact ⟨_, .nameless hname, rfl⟩
  | ok n =>
    obtain ⟨-, upshot, hreply, hresult⟩ :=
      c.resolve_replied hname type server secure w (habsorbed n hname)
    exact ⟨upshot, .replied hname hreply, hresult⟩

theorem resolve_congr (c : Client τ) (name : String) (type : RecordType) (server : String)
    (secure : Bool) {v w : Network τ} (hv : v.Orderly) (hw : w.Orderly)
    (hsame : ∀ n, Name.read name = .ok n →
      v.answer (c.call server type secure n) = w.answer (c.call server type secure n)) :
    (c.resolve name type server secure v).1.map Prod.fst =
      (c.resolve name type server secure w).1.map Prod.fst := by
  obtain ⟨a, ha, hv'⟩ := c.resolve_due name type server secure v fun n _ e he => hv v .refl _ e he
  obtain ⟨b, hb, hw'⟩ := c.resolve_due name type server secure w fun n _ e he => hw w .refl _ e he
  rw [hv', hw', ha.unique hsame hb]

/-- A question has one upshot of the five, the one that its name and the reply are due; nothing is sent
for what is no name, and one message otherwise. -/
theorem resolve_upshot (c : Client τ) (name : String) (type : RecordType) (server : String)
    (secure : Bool) {w : Network τ}
    (habsorbed : ∀ n, Name.read name = .ok n →
      ∀ e, w.answer (c.call server type secure n) = .error e → e.isAbsorbed = true) :
    (∃! upshot : Upshot,
      (c.resolve name type server secure w).1.map Prod.fst = upshot.result name type server) ∧
    (∀ upshot : Upshot,
      (c.resolve name type server secure w).1.map Prod.fst = upshot.result name type server ↔
        upshot.Due name type fun n => w.answer (c.call server type secure n)) ∧
    (∀ fault, Name.read name = .error fault → (c.resolve name type server secure w).2 = w) ∧
    ∀ n, Name.read name = .ok n →
      (c.resolve name type server secure w).2.calls = w.calls ++ [c.call server type secure n] := by
  obtain ⟨upshot, hdue, hresult⟩ := c.resolve_due name type server secure w habsorbed
  have honly : ∀ other : Upshot,
      (c.resolve name type server secure w).1.map Prod.fst = other.result name type server →
        other = upshot := by
    intro other hother
    exact Upshot.result_injective name type server (hother.symm.trans hresult)
  refine ⟨⟨upshot, hresult, honly⟩, ?_, ?_, ?_⟩
  · intro other
    constructor
    · intro hother
      rwa [honly other hother]
    · intro hother
      rwa [hother.unique (fun _ _ => rfl) hdue]
  · intro fault hname
    rw [c.resolve_nameless name type server secure hname]
  · intro n hname
    exact (c.resolve_replied hname type server secure w (habsorbed n hname)).1

/-- Data of a type that is known by its text only. -/
def service : PlainData := ⟨⟨33⟩, "0 5 5060 sip.example.com.".toList, by decide⟩

/-- A server that says that a name does not exist, and hands out an address of it all the same; of a
service it tells one next to that address. -/
def contrary : Network Float :=
  .start 0 1 [
    .always none "a." "A" (.ok ⟨.noSuchName, [⟨.single 97, 60, [.a (.ofNat 0xC0000201)]⟩]⟩),
    .always none "a." "SRV" (.ok ⟨.noError, [⟨.single 97, 60, [.a (.ofNat 0xC0000201)]⟩,
      ⟨.single 97, 30, [.plain service]⟩]⟩)] []

theorem contrary_orderly : contrary.Orderly :=
  Network.orderly_of_start (by simp)

/-- The address is not used, neither of the name nor of the service. -/
theorem resolve_upshot_contrary :
    (∀ type n, Name.read "A" = .ok n → ∀ e,
      contrary.answer ((⟨2, 53⟩ : Client Float).call "192.0.2.53" type true n) = .error e →
        e.isAbsorbed = true) ∧
    Name.read "A" = .ok (.single 65) ∧
    ((⟨2, 53⟩ : Client Float).resolve "A" .a "192.0.2.53" true contrary).1.map Prod.fst =
      .error (.rejected .noSuchName) ∧
    ((⟨2, 53⟩ : Client Float).resolve "A" .a "192.0.2.53" true contrary).2.calls =
      [(⟨2, 53⟩ : Client Float).call "192.0.2.53" .a true (.single 65)] ∧
    ((⟨2, 53⟩ : Client Float).resolve "A" ⟨33⟩ "192.0.2.53" true contrary).1.map Prod.fst =
      .ok [⟨.single 97, 30, .plain service⟩] := by
  have habsorbed : ∀ type n, Name.read "A" = .ok n → ∀ e,
      contrary.answer ((⟨2, 53⟩ : Client Float).call "192.0.2.53" type true n) = .error e →
        e.isAbsorbed = true := fun _ _ _ e he => contrary_orderly _ .refl _ e he
  have hname : Name.read "A" = .ok (.single 65) := by decide +kernel
  have hrefusal : contrary.answer ((⟨2, 53⟩ : Client Float).call "192.0.2.53" .a true (.single 65)) =
      .ok ⟨.noSuchName, [⟨.single 97, 60, [.a (.ofNat 0xC0000201)]⟩]⟩ := by rfl
  have hservice : contrary.answer
      ((⟨2, 53⟩ : Client Float).call "192.0.2.53" ⟨33⟩ true (.single 65)) =
      .ok ⟨.noError, [⟨.single 97, 60, [.a (.ofNat 0xC0000201)]⟩,
        ⟨.single 97, 30, [.plain service]⟩]⟩ := by rfl
  obtain ⟨-, hdue, -, hcalls⟩ :=
    resolve_upshot (⟨2, 53⟩ : Client Float) "A" .a "192.0.2.53" true (habsorbed .a)
  obtain ⟨-, hdue', -, -⟩ :=
    resolve_upshot (⟨2, 53⟩ : Client Float) "A" ⟨33⟩ "192.0.2.53" true (habsorbed ⟨33⟩)
  refine ⟨habsorbed, hname, (hdue (.refused .noSuchName)).mpr (.replied hname ?_), hcalls _ hname,
    (hdue' (.answered _)).mpr (.replied hname ?_)⟩
  · rw [hrefusal]
    exact .refused (by decide)
  · rw [hservice]
    exact .answered rfl (by decide)

end Client

end DelegationAudit
