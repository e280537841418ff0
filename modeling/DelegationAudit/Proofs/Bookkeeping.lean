import DelegationAudit.Proofs.Probing
import DelegationAudit.Proofs.Switches

namespace DelegationAudit

open Dns

variable {τ : Type} [Instant τ]

namespace Network

/-- The server answers the question now, without an error and with a record of the type asked for. -/
def Serves (call : Call τ) (w : Network τ) : Prop :=
  ∃ answer, w.answer call = .ok answer ∧ answer.code = .noError ∧
    ∃ record ∈ recordsOf answer.sets, record.type = call.query.type

theorem recordsFor_of_ok {call : Call τ} {w : Network τ} {answer : Answer}
    (h : w.answer call = .ok answer) :
    w.recordsFor call = if answer.code == .noError then
      filterByType [call.query.type] (recordsOf answer.sets) else [] := by
  rw [recordsFor, h]

theorem mem_recordsFor {call : Call τ} {w : Network τ} {record : Record} :
    record ∈ w.recordsFor call ↔ ∃ answer, w.answer call = .ok answer ∧ answer.code = .noError ∧
      record ∈ recordsOf answer.sets ∧ record.type = call.query.type := by
  cases h : w.answer call with
  | error e =>
    have hnone : w.recordsFor call = [] := by rw [recordsFor, h]
    simp [hnone]
  | ok answer =>
    rw [recordsFor_of_ok h]
    by_cases hcode : answer.code = .noError
    · simp [hcode, filterByType]
    · simp [hcode]

theorem recordsFor_ne_nil_iff (call : Call τ) (w : Network τ) :
    w.recordsFor call ≠ [] ↔ w.Serves call := by
  constructor
  · intro h
    obtain ⟨record, hrecord⟩ := List.exists_mem_of_ne_nil _ h
    obtain ⟨answer, hanswer, hcode, hmem, htype⟩ := mem_recordsFor.mp hrecord
    exact ⟨answer, hanswer, hcode, record, hmem, htype⟩
  · rintro ⟨answer, hanswer, hcode, record, hmem, htype⟩
    exact List.ne_nil_of_mem (mem_recordsFor.mpr ⟨answer, hanswer, hcode, hmem, htype⟩)

end Network

theorem Dns.Rdata.of_type (d : Rdata) :
    (d.type = .a → ∃ address, d = .a address) ∧ (d.type = .aaaa → ∃ value, d = .aaaa value) ∧
      (d.type = .ns → ∃ target, d = .ns target) := by
  refine ⟨?_, ?_, ?_⟩
  all_goals
    intro h
    cases d with
    | plain data => exact absurd h (data.type_ne (by decide))
    | _ =>
      rw [Rdata.type] at h
      first
      | exact ⟨_, rfl⟩
      | exact absurd h (by decide)

/-- Each record of a nameserver has a target. -/
theorem Dns.targetsOf_eq_nil_iff {records : List Record} (h : ∀ r ∈ records, r.type = .ns) :
    targetsOf records = [] ↔ records = [] := by
  rw [targetsOf, List.map_eq_nil_iff, List.filterMap_eq_nil_iff, List.eq_nil_iff_forall_not_mem]
  constructor
  · intro hnone record hrecord
    obtain ⟨target, htarget⟩ := record.data.of_type.2.2 (h record hrecord)
    have hnot := hnone record hrecord
    rw [targetOf?, htarget] at hnot
    cases hnot
  · intro hnone record hrecord
    exact absurd hrecord (hnone record)

namespace Probe

def check (e : Probe) (zone : String) (type : RecordType) : Check :=
  ⟨type.text, e.nameserver, e.address, zone⟩

/-- The findings that stand behind an entry: at most the failure of each check that it shows as failed,
and the difference of the names that were served. -/
def Accounts (e : Probe) (zone : String) (delegated : List String) (found : List Finding) : Prop :=
  ∃ soa ns difference : Option Finding, found = soa.toList ++ ns.toList ++ difference.toList ∧
    (∀ f ∈ soa, e.soaOk = false ∧ ∃ error, f = (e.check zone .soa).failure error) ∧
    (∀ f ∈ ns, e.nsOk = false ∧ ∃ error, f = (e.check zone .ns).failure error) ∧
    ∀ f ∈ difference, e.nsOk = true ∧
      f = Scan.inconsistent zone e.nameserver e.address delegated e.served

end Probe

namespace Inquiry

theorem failed_of_finding {c : Check} {answer : Heard} {f : Finding}
    (h : (c.classify answer.2 (!answer.1.isEmpty)).finding = some f) :
    (!answer.failed) = false ∧ ∃ error, f = c.failure error := by
  obtain ⟨records, error⟩ := answer
  obtain ⟨e, he, rfl⟩ := Scan.classify_finding h
  cases he
  exact ⟨rfl, e, rfl⟩

theorem accounts (i : Inquiry) (zone : String) (delegated : List String) :
    i.entry.Accounts zone delegated (i.findings zone delegated) := by
  have hdifference : ∃ difference : Option Finding, i.difference zone delegated = difference.toList ∧
      ∀ f ∈ difference, (!i.ns.failed) = true ∧
        f = Scan.inconsistent zone i.host i.address.text delegated i.served := by
    rw [difference]
    by_cases hdiffers : (!i.ns.failed && i.served != delegated) = true
    · rw [if_pos hdiffers]
      refine ⟨some _, rfl, ?_⟩
      intro f hf
      exact ⟨(Bool.and_eq_true_iff.mp hdiffers).1, (Option.some_inj.mp hf).symm⟩
    · rw [if_neg hdiffers]
      refine ⟨none, rfl, ?_⟩
      intro f hf
      cases hf
  obtain ⟨difference, heq, hof⟩ := hdifference
  refine ⟨_, _, difference, ?_, fun f hf => failed_of_finding hf, fun f hf => failed_of_finding hf, hof⟩
  rw [findings, heq]
  rfl

end Inquiry

namespace Scan

variable (s : Scan τ)

/-- An entry with its findings, as the network answers when the address is asked: whether each question
got its records, and the names of the nameservers that were served, in small letters and in order. -/
structure Booked (name : Name) (zone : String) (delegated : List String) (row : Probe × List Finding)
    (w : Network τ) : Prop where
  soa : row.1.soaOk = true ↔ w.Serves (s.probeCall name .soa row.1.address)
  ns : row.1.nsOk = true ↔
    (w.send [s.probeCall name .soa row.1.address]).Serves (s.probeCall name .ns row.1.address)
  served : row.1.served.Perm ((targetsOf ((w.send [s.probeCall name .soa row.1.address]).recordsFor
    (s.probeCall name .ns row.1.address))).map lowerText)
  sorted : row.1.served.Pairwise (· ≤ ·)
  silent : row.1.served = [] ↔ row.1.nsOk = false
  accounts : row.1.Accounts zone delegated row.2

def rowCalls (name : Name) (row : Probe × List Finding) : List (Call τ) :=
  [s.probeCall name .soa row.1.address, s.probeCall name .ns row.1.address]

/-- Entries with their findings, as the addresses were asked one after another. -/
def Ledger (name : Name) (zone : String) (delegated : List String) :
    List (Probe × List Finding) → Network τ → Prop
  | [], _ => True
  | row :: rest, w =>
    s.Booked name zone delegated row w ∧ Ledger name zone delegated rest (w.send (s.rowCalls name row))

theorem booked_of_heard {i : Inquiry} {text : String} {name : Name} (hname : Name.read text = .ok name)
    {w : Network τ} (hsoa : (s.question text .soa i.address.text w).1 = .ok i.soa)
    (hns : (s.question text .ns i.address.text (w.send [s.probeCall name .soa i.address.text])).1 =
      .ok i.ns) (zone : String) (delegated : List String) :
    s.Booked name zone delegated (i.entry, i.findings zone delegated) w := by
  obtain ⟨hsoaRecords, hsoaError⟩ := (s.question_sent hname .soa i.address.text w).2 _ hsoa
  obtain ⟨hnsRecords, hnsError⟩ := (s.question_sent hname .ns i.address.text _).2 _ hns
  have hsoaOk := Heard.ok_iff hsoaError
  have hnsOk := Heard.ok_iff hnsError
  have htypes : ∀ record ∈ i.ns.1, record.type = .ns := by
    intro record hrecord
    rw [hnsRecords] at hrecord
    obtain ⟨_, -, -, -, htype⟩ := Network.mem_recordsFor.mp hrecord
    exact htype
  have hserved : i.served.Perm ((targetsOf i.ns.1).map lowerText) := sortTexts_perm _
  have hsilent : i.served = [] ↔ i.ns.1 = [] := by
    rw [← targetsOf_eq_nil_iff htypes]
    constructor
    · intro h
      rw [h] at hserved
      exact List.map_eq_nil_iff.mp hserved.symm.eq_nil
    · intro h
      rw [h] at hserved
      exact hserved.eq_nil
  refine ⟨?_, ?_, ?_, sortTexts_pairwise _, ?_, i.accounts zone delegated⟩
  · rw [← Network.recordsFor_ne_nil_iff]
    rw [hsoaRecords] at hsoaOk
    exact hsoaOk
  · rw [← Network.recordsFor_ne_nil_iff]
    rw [hnsRecords] at hnsOk
    exact hnsOk
  · rw [hnsRecords] at hserved
    exact hserved
  · change i.served = [] ↔ (!i.ns.failed) = false
    rw [hsilent, ← Bool.not_eq_true, hnsOk, Ne, not_not]

theorem ledger_of_inquired {text : String} {name : Name} (hname : Name.read text = .ok name)
    (zone : String) (delegated : List String) {inquiries : List Inquiry} {w : Network τ}
    (h : s.Inquired text name inquiries w) :
    s.Ledger name zone delegated
      (inquiries.map fun i => (i.entry, i.findings zone delegated)) w := by
  induction inquiries generalizing w with
  | nil => trivial
  | cons i rest ih =>
    obtain ⟨hsoa, hns, hrest⟩ := h
    exact ⟨s.booked_of_heard hname hsoa hns zone delegated, ih hrest⟩

/-- How a report with probes came about: the addresses of the delegation were asked in its order, all of
them unless the report says that time ran out, nothing else was sent from then on, and the observed
entries and what was found about failed checks and differences are those of a ledger. -/
structure Accounted (name : Name) (session after : Session τ) (r : Report)
    (ledger : List (Probe × List Finding)) : Prop where
  delegated : r.nameservers.map Nameserver.name =
    (delegatedTo s.client s.settings.resolver name session.network).map Name.text
  asked : ∃ v, session.network.Leads v ∧ s.Ledger name r.zone (delegation r.nameservers) ledger v ∧
    v.Sent (ledger.flatMap (s.rowCalls name)) after.network
  probes : r.observed ["probes"] = [.probes (ledger.map Prod.fst)]
  order : (ledger.map fun row => row.1.place) <+: (targets r.nameservers).map targetPlace
  all : (ledger.map fun row => row.1.place) = (targets r.nameservers).map targetPlace ∨
    r.wasSkipped = true
  findings : ∃ early late, r.findings = early ++ ledger.flatMap Prod.snd ++ late ∧
    ∀ f ∈ early ++ late, f.issue ≠ .checkFailed ∧ f.issue ≠ .inconsistent

namespace Probed

variable {s : Scan τ} {name : Name} {session after : Session τ} {r : Report}
  {inquiries : List Inquiry} (h : s.Probed name session after r inquiries)

include h

theorem observed_eq (keys : List String) (hkeys : ∀ key ∈ keys, key ∈ probeKeys) :
    r.observed keys = ([.probes (inquiries.map Inquiry.entry), .servedNames
      ((targetsOf (Inquiry.merged inquiries)).map lowerText)] : List Observation).filter
        fun o => keys.contains o.key := by
  obtain ⟨early, late, hothers, hobservations⟩ := h.observations
  have hnone : ∀ os : List Observation, (∀ o ∈ os, o ∈ early ++ late) →
      os.filter (fun o => keys.contains o.key) = [] := by
    intro os hos
    rw [List.filter_eq_nil_iff]
    intro o ho hkey
    exact hothers o (hos o ho) (hkeys _ (List.contains_iff_mem.mp hkey))
  rw [Report.observed, hobservations, List.filter_append, List.filter_append,
    hnone early fun o ho => List.mem_append_left _ ho,
    hnone late fun o ho => List.mem_append_right _ ho, List.nil_append, List.append_nil]

theorem observed_probes : r.observed ["probes"] = [.probes (inquiries.map Inquiry.entry)] :=
  h.observed_eq ["probes"] (by decide)

theorem observed_servedNames : r.observed ["served_ns"] =
    [.servedNames ((targetsOf (Inquiry.merged inquiries)).map lowerText)] :=
  h.observed_eq ["served_ns"] (by decide)

theorem accounted (hname : Name.read (absolute r.zone) = .ok name) :
    s.Accounted name session after r
      (inquiries.map fun i => (i.entry, i.findings r.zone (delegation r.nameservers))) where
  delegated := h.names
  asked := by
    obtain ⟨v, hleads, hinquired, hsent⟩ := h.asked
    refine ⟨v, hleads, s.ledger_of_inquired hname _ _ hinquired, ?_⟩
    rw [List.flatMap_map]
    exact hsent
  probes := by
    rw [h.observed_probes, List.map_map]
    rfl
  order := by
    have hplaces := h.targets.map targetPlace
    rw [List.map_map] at hplaces ⊢
    exact hplaces
  all := by
    refine h.all.imp_left fun hall => ?_
    rw [← hall, List.map_map, List.map_map]
    rfl
  findings := by
    obtain ⟨early, late, hdeadline, hfindings⟩ := h.findings
    refine ⟨early ++ Topology.findings r.zone r.nameservers, late, ?_, ?_⟩
    · rw [hfindings, List.flatMap_map]
    · have hothers : ∀ issue ∈ [Issue.noAddress, .privateAddress, .singleNameserver, .sameSubnet,
          .singleNetwork], issue ≠ .checkFailed ∧ issue ≠ .inconsistent := by decide
      intro f hf
      rw [List.mem_append, List.mem_append] at hf
      rcases hf with (hf | hf) | hf
      · rw [hdeadline f (List.mem_append_left _ hf)]
        exact ⟨nofun, nofun⟩
      · exact hothers f.issue (Topology.issue_of_mem_findings hf)
      · rw [hdeadline f (List.mem_append_right _ hf)]
        exact ⟨nofun, nofun⟩

end Probed

end Scan

/-- An audit with probes keeps its books: it found no nameservers and asked no address, or its entries,
its findings about checks and differences, and its messages are those of one ledger. -/
theorem auditZone_accounted (settings : Settings τ) (hprobe : settings.probe = true) (target : String)
    (session : Session τ) {after : Session τ} {r : Report}
    (h : auditZone settings target session = (.ok r, after)) :
    (r.nameservers = [] ∧ r.observed ["probes"] = [] ∧
      r.findings.map Finding.issue = [.noNameservers]) ∨
    ∃ name ledger, Name.read (absolute (Zone.normalize target)) = .ok name ∧
      (Scan.start settings session.network.clock).Accounted name session after r ledger := by
  obtain ⟨hnobody, ⟨millis, htime⟩, hissue⟩ | ⟨name, inquiries, hname, hprobed⟩ :=
    auditZone_reports hprobe h
  · refine .inl ⟨hnobody, ?_, hissue⟩
    rw [Report.observed, htime]
    rfl
  · have hzone := (auditZone_names (congrArg Prod.fst h)).1
    have hread : Name.read (absolute r.zone) = .ok name := by rw [hzone, hname]
    exact .inr ⟨name, _, hname, hprobed.accounted hread⟩

/-- Two addresses of one nameserver: the first refuses one question and serves another name, the second
leaves one question without an answer. Both are asked on the port of nameservers, whichever port the
resolver has. -/
theorem auditZone_accounted_astray :
    elsewhere.probe = true ∧ ∃ r after,
      auditZone elsewhere "example.com" ⟨twoAddresses astray, []⟩ = (.ok r, after) ∧
      r.entries = [⟨"a.", "192.0.2.1", false, true, ["b."]⟩, ⟨"a.", "198.51.100.1", false, true, ["a."]⟩] ∧
      r.findings.map Finding.issue = [.singleNameserver, .checkFailed, .inconsistent, .checkFailed] ∧
      (after.network.calls.map Call.line).drop 6 = [
        ("192.0.2.1", 53, "example.com.", "SOA"), ("192.0.2.1", 53, "example.com.", "NS"),
        ("198.51.100.1", 53, "example.com.", "SOA"), ("198.51.100.1", 53, "example.com.", "NS")] ∧
      ∃ name ledger, Name.read (absolute (Zone.normalize "example.com")) = .ok name ∧
        (Scan.start elsewhere (twoAddresses astray).clock).Accounted name ⟨twoAddresses astray, []⟩ after
          r ledger := by
  have hfound : (auditZone elsewhere "example.com" ⟨twoAddresses astray, []⟩).1.toOption.map (fun r =>
      (r.entries, r.findings.map Finding.issue)) =
      some ([⟨"a.", "192.0.2.1", false, true, ["b."]⟩, ⟨"a.", "198.51.100.1", false, true, ["a."]⟩],
        [.singleNameserver, .checkFailed, .inconsistent, .checkFailed]) := by decide +kernel
  obtain ⟨r, hr, hread⟩ := exists_of_map_toOption hfound
  obtain ⟨hentries, hissues⟩ := Prod.mk.inj hread
  have haudit := eq_pair_of_fst hr
  refine ⟨rfl, r, _, haudit, hentries, hissues, by decide +kernel, ?_⟩
  rcases auditZone_accounted elsewhere rfl "example.com" ⟨twoAddresses astray, []⟩ haudit with
    ⟨-, -, hnobody⟩ | haccounted
  · rw [hissues] at hnobody
    cases hnobody
  · exact haccounted

end DelegationAudit
