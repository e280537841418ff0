import DelegationAudit.Proofs.Completion
import DelegationAudit.Proofs.NameText

namespace DelegationAudit

open Dns

variable {τ : Type}

/-- Server, port, name and type of a message. -/
def Call.line (call : Call τ) : String × Int × String × String :=
  (call.server, call.port, call.query.name.text, call.query.type.text)

namespace Network

/-- One network, whatever its log holds. -/
structure SameButLog (v w : Network τ) : Prop where
  clock : v.clock = w.clock
  cost : v.cost = w.cost
  rules : v.rules = w.rules
  hosts : v.hosts = w.hosts
  calls : v.calls = w.calls

theorem SameButLog.refl (w : Network τ) : w.SameButLog w := ⟨rfl, rfl, rfl, rfl, rfl⟩

theorem SameButLog.trans {u v w : Network τ} (h : u.SameButLog v) (h' : v.SameButLog w) :
    u.SameButLog w :=
  ⟨h.clock.trans h'.clock, h.cost.trans h'.cost, h.rules.trans h'.rules, h.hosts.trans h'.hosts,
    h.calls.trans h'.calls⟩

theorem SameButLog.symm {v w : Network τ} (h : v.SameButLog w) : w.SameButLog v :=
  ⟨h.clock.symm, h.cost.symm, h.rules.symm, h.hosts.symm, h.calls.symm⟩

theorem SameButLog.note {v w : Network τ} (h : v.SameButLog w) (level : Level)
    (source message : String) : (v.note level source message).SameButLog w :=
  ⟨h.clock, h.cost, h.rules, h.hosts, h.calls⟩

variable [Instant τ]

theorem SameButLog.exchange {v w : Network τ} (h : v.SameButLog w) (call : Call τ) :
    (v.exchange call).1 = (w.exchange call).1 ∧
      (v.exchange call).2.SameButLog (w.exchange call).2 := by
  rw [Network.exchange, Network.exchange, h.rules]
  dsimp only
  split
  · refine ⟨rfl, ?_, h.cost, rfl, h.hosts, ?_⟩
    · simp only [advance, h.clock, h.cost]
    · simp only [advance, h.calls]
  · refine ⟨rfl, ?_, h.cost, rfl, h.hosts, ?_⟩
    · simp only [advance, h.clock, h.cost]
    · simp only [advance, h.calls]

/-- The network after some messages, with nothing logged. -/
def send (calls : List (Call τ)) (w : Network τ) : Network τ :=
  calls.foldl (fun w call => (w.exchange call).2) w

@[simp] theorem send_nil (w : Network τ) : w.send [] = w := rfl

theorem send_append (before after : List (Call τ)) (w : Network τ) :
    w.send (before ++ after) = (w.send before).send after := List.foldl_append

theorem SameButLog.send {v w : Network τ} (h : v.SameButLog w) (calls : List (Call τ)) :
    (v.send calls).SameButLog (w.send calls) := by
  induction calls generalizing v w with
  | nil => exact h
  | cons call rest ih => exact ih (h.exchange call).2

theorem send_leads (calls : List (Call τ)) (w : Network τ) : w.Leads (w.send calls) := by
  induction calls generalizing w with
  | nil => exact .refl
  | cons call rest ih => exact (Leads.exchange call .refl).trans (ih _)

theorem exchange_calls (call : Call τ) (w : Network τ) :
    (w.exchange call).2.calls = w.calls ++ [call] := by
  rw [Network.exchange]
  dsimp only
  split <;> rfl

theorem Leads.calls_grow {v w : Network τ} (h : w.Leads v) : w.calls <+: v.calls := by
  induction h with
  | refl => exact List.prefix_refl _
  | exchange call _ ih =>
    rw [exchange_calls]
    exact ih.trans (List.prefix_append _ _)
  | note level source message _ ih => exact ih
  | wait span _ ih => exact ih

theorem send_calls (calls : List (Call τ)) (w : Network τ) :
    (w.send calls).calls = w.calls ++ calls := by
  induction calls generalizing w with
  | nil => simp
  | cons call calls ih =>
    change ((w.exchange call).2.send calls).calls = _
    rw [ih, exchange_calls, List.append_assoc, List.singleton_append]

/-- What a server would answer now: the records of the type asked for, none if it refuses or fails. -/
def recordsFor (call : Call τ) (w : Network τ) : List Record :=
  match w.answer call with
  | .error _ => []
  | .ok answer => if answer.code == .noError then filterByType [call.query.type] (recordsOf answer.sets) else []

theorem SameButLog.recordsFor {v w : Network τ} (h : v.SameButLog w) (call : Call τ) :
    v.recordsFor call = w.recordsFor call := by
  rw [Network.recordsFor, Network.recordsFor, answer, answer, (h.exchange call).1]

/-- These messages lead from one network to the other; all else is in the log. -/
def Sent (v : Network τ) (calls : List (Call τ)) (u : Network τ) : Prop :=
  u.SameButLog (v.send calls)

theorem Sent.refl (w : Network τ) : w.Sent [] w := SameButLog.refl w

theorem Sent.note {v u : Network τ} {calls : List (Call τ)} (h : v.Sent calls u) (level : Level)
    (source message : String) : v.Sent calls (u.note level source message) :=
  SameButLog.note h level source message

theorem Sent.trans {v u x : Network τ} {calls more : List (Call τ)} (h : v.Sent calls u)
    (h' : u.Sent more x) : v.Sent (calls ++ more) x := by
  rw [Sent, send_append]
  exact SameButLog.trans h' (SameButLog.send h more)

theorem Sent.calls_eq {v u : Network τ} {calls : List (Call τ)} (h : v.Sent calls u) :
    u.calls = v.calls ++ calls := (SameButLog.calls h).trans (send_calls calls v)

end Network

namespace Client

def message (c : Client τ) (server : String) (name : Name) (type : RecordType) : Call τ :=
  ⟨server, c.port, c.timeout, ⟨name, type, false⟩⟩

variable [Instant τ]

/-- A question is one message. Its answer is the records of its type, or a failure if there are none:
one of the question, or what the exchange raised. -/
theorem resolve_sent (c : Client τ) {text : String} {name : Name} (hn : Name.read text = .ok name)
    (type : RecordType) (server : String) (v : Network τ) :
    v.Sent [c.message server name type] (c.resolve text type server false v).2 ∧
      ((v.recordsFor (c.message server name type) = [] ∧
          ∃ e, (c.resolve text type server false v).1 = .error e ∧ (e.isResolution = true ∨
            v.answer (c.message server name type) = .error e ∧ e.isAbsorbed = false)) ∨
        (v.recordsFor (c.message server name type) ≠ [] ∧
          ∃ t, c.resolve text type server false v =
            (.ok (v.recordsFor (c.message server name type), t),
              (v.exchange (c.message server name type)).2))) := by
  have hbuild : buildQuery text type false = .ok ⟨name, type, false⟩ := by rw [buildQuery, hn]
  have hsent : v.Sent [c.message server name type] (v.exchange (c.message server name type)).2 :=
    .refl _
  have hrecords : v.recordsFor (c.message server name type) =
      match (v.exchange (c.message server name type)).1 with
      | .error _ => []
      | .ok answer =>
        if answer.code == .noError then filterByType [type] (recordsOf answer.sets) else [] := rfl
  simp only [Client.resolve, Client.ask, hbuild]
  rw [hrecords, Network.answer]
  generalize hx : v.exchange (c.message server name type) = x at *
  rw [Client.message] at hx
  rw [hx]
  obtain ⟨r, u⟩ := x
  cases r with
  | error e =>
    cases he : e.isAbsorbed with
    | true =>
      simp only [he, if_true]
      exact ⟨hsent.note _ _ _, .inl ⟨trivial, .transport server e, rfl, .inl rfl⟩⟩
    | false =>
      simp only [he, Bool.false_eq_true, if_false]
      exact ⟨hsent, .inl ⟨trivial, e, rfl, .inr ⟨rfl, he⟩⟩⟩
  | ok answer =>
    cases hcode : answer.code == .noError with
    | false =>
      simp only [hcode, Bool.false_eq_true, if_false]
      exact ⟨hsent, .inl ⟨trivial, .rejected answer.code, rfl, .inl rfl⟩⟩
    | true =>
      simp only [hcode, if_true]
      cases hfilter : filterByType [type] (recordsOf answer.sets) with
      | nil => exact ⟨hsent, .inl ⟨rfl, .noRecords type, rfl, .inl rfl⟩⟩
      | cons r rest => exact ⟨hsent, .inr ⟨by simp, _, rfl⟩⟩

/-- On an orderly network every failure is one of the question. -/
theorem resolve_sends (c : Client τ) {text : String} {name : Name} (hn : Name.read text = .ok name)
    (type : RecordType) (server : String) {v w : Network τ} (h : v.SameButLog w) (hv : v.Orderly) :
    ∃ u, u.SameButLog (w.send [c.message server name type]) ∧
      ((w.recordsFor (c.message server name type) = [] ∧
          ∃ e, c.resolve text type server false v = (.error e, u) ∧ e.isResolution = true) ∨
        (w.recordsFor (c.message server name type) ≠ [] ∧
          ∃ t, c.resolve text type server false v =
            (.ok (w.recordsFor (c.message server name type), t), u))) := by
  obtain ⟨hsent, hcase⟩ := c.resolve_sent hn type server v
  rw [h.recordsFor] at hcase
  refine ⟨_, Network.SameButLog.trans hsent (h.send _), ?_⟩
  rcases hcase with ⟨hnone, e, hr, he⟩ | ⟨hsome, t, hr⟩
  · refine .inl ⟨hnone, e, Prod.ext hr rfl, ?_⟩
    rcases he with he | ⟨hanswer, he⟩
    · exact he
    · rw [hv v .refl _ e hanswer] at he
      cases he
  · refine .inr ⟨hsome, t, ?_⟩
    rw [hr]

end Client

namespace Discovery

def hostCalls (c : Client τ) (server : String) (host : Name) : List (Call τ) :=
  [c.message server host .a, c.message server host .aaaa]

variable [Instant τ]

def hostAddresses (c : Client τ) (server : String) (host : Name) (w : Network τ) : List Net.Address :=
  addressesOf (w.recordsFor (c.message server host .a)) ++
    addressesOf ((w.send [c.message server host .a]).recordsFor (c.message server host .aaaa))

def addressesAt (c : Client τ) (server : String) : List Name → Network τ → List (List Net.Address)
  | [], _ => []
  | host :: rest, w =>
    hostAddresses c server host w :: addressesAt c server rest (w.send (hostCalls c server host))

theorem addresses_sends (c : Client τ) (server : String) (host : Name) (type : RecordType)
    {v w : Network τ} (h : v.SameButLog w) (hv : v.Orderly) :
    ∃ u, addresses c server host.text type v =
        (.ok (addressesOf (w.recordsFor (c.message server host type))), u) ∧
      u.SameButLog (w.send [c.message server host type]) := by
  obtain ⟨u, hu, ⟨hnone, e, hr, he⟩ | ⟨-, t, hr⟩⟩ := c.resolve_sends host.read_text type server h hv
  · rw [addresses, hr, hnone]
    dsimp only
    rw [if_pos he]
    exact ⟨_, rfl, hu.note _ _ _⟩
  · rw [addresses, hr]
    exact ⟨u, rfl, hu⟩

theorem nameserver_sends (c : Client τ) (server : String) (host : Name) {v w : Network τ}
    (h : v.SameButLog w) (hv : v.Orderly) :
    ∃ u, nameserver c server host.text v = (.ok ⟨host.text, hostAddresses c server host w, []⟩, u) ∧
      u.SameButLog (w.send (hostCalls c server host)) := by
  obtain ⟨u4, h4, hu4⟩ := addresses_sends c server host .a h hv
  have hleads : u4.Orderly := hv.leads (by simpa [h4] using addresses_leads c server host.text .a v)
  obtain ⟨u6, h6, hu6⟩ := addresses_sends c server host .aaaa hu4 hleads
  refine ⟨u6, ?_, hu6⟩
  simp only [nameserver, h4, h6]
  rfl

theorem nameservers_sends (c : Client τ) (server : String) (hosts : List Name) {v w : Network τ}
    (h : v.SameButLog w) (hv : v.Orderly) :
    ∃ found u, nameservers c server (hosts.map Name.text) v = (.ok found, u) ∧
      found.map Nameserver.addresses = addressesAt c server hosts w ∧
      u.SameButLog (w.send (hosts.flatMap (hostCalls c server))) := by
  induction hosts generalizing v w with
  | nil => exact ⟨[], v, rfl, rfl, h⟩
  | cons host rest ih =>
    obtain ⟨u, hn, hu⟩ := nameserver_sends c server host h hv
    have hleads : u.Orderly := hv.leads (by simpa [hn] using nameserver_leads c server host.text v)
    obtain ⟨more, x, hr, hmore, hx⟩ := ih hu hleads
    refine ⟨⟨host.text, hostAddresses c server host w, []⟩ :: more, x, ?_, ?_, ?_⟩
    · simp only [List.map_cons, nameservers, hn, hr]
    · rw [List.map_cons, hmore, addressesAt]
    · rwa [List.flatMap_cons, Network.send_append]

end Discovery

/-- The hosts that the zone is delegated to, by the answer to the first question. -/
def delegatedTo (c : Client τ) (server : String) (zone : Name) [Instant τ] (w : Network τ) :
    List Name :=
  (w.recordsFor (c.message server zone .ns)).filterMap targetOf?

theorem discover_sends [Instant τ] (c : Client τ) (server : String) {text : String} {zone : Name}
    (hz : Name.read text = .ok zone) {v w : Network τ} (h : v.SameButLog w) (hv : v.Orderly) :
    ∃ u, u.SameButLog (w.send (c.message server zone .ns ::
        (delegatedTo c server zone w).flatMap (Discovery.hostCalls c server))) ∧
      ((delegatedTo c server zone w = [] ∧
          ∃ e, discover c server text v = (.error e, u) ∧ Scan.isNoNameservers e = true) ∨
        ∃ found, discover c server text v = (.ok found, u) ∧
          found.map Nameserver.addresses = Discovery.addressesAt c server (delegatedTo c server zone w)
            (w.send [c.message server zone .ns])) := by
  have hl := c.resolve_leads text .ns server false v
  obtain ⟨u, hu, ⟨hnone, e, hr, he⟩ | ⟨-, t, hr⟩⟩ := c.resolve_sends hz .ns server h hv
  · have hnobody : delegatedTo c server zone w = [] := by rw [delegatedTo, hnone]; rfl
    rw [hnobody]
    refine ⟨u, hu, .inl ⟨rfl, _, by rw [discover, hr], ?_⟩⟩
    rw [if_pos he]
    rfl
  · rw [hr] at hl
    obtain ⟨found, x, hn, hfound, hx⟩ :=
      Discovery.nameservers_sends c server (delegatedTo c server zone w) hu (hv.leads hl)
    refine ⟨x, hx, ?_⟩
    rw [discover, hr]
    change Discovery.nameservers c server (targetsOf _) u = _ at hn
    dsimp only
    rw [hn]
    cases found with
    | nil =>
      refine .inl ⟨?_, _, rfl, rfl⟩
      cases hd : delegatedTo c server zone w with
      | nil => rfl
      | cons host rest =>
        rw [hd] at hfound
        cases hfound
    | cons ns more => exact .inr ⟨_, rfl, hfound⟩

end DelegationAudit
