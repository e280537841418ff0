import DelegationAudit.Proofs.Isolation
import DelegationAudit.Proofs.Probing
import DelegationAudit.Proofs.Rotation
import DelegationAudit.Proofs.Scoring
import DelegationAudit.Proofs.Subnets
import Mathlib.Data.List.Sort

namespace DelegationAudit

open Dns

/-- What is wrong, how severe it is, and where: a finding without its texts. -/
def Finding.signature (f : Finding) : Issue × Severity × Option String := (f.issue, f.severity, f.server)

/-- The same findings in different orders. -/
abbrev SameFindings (fs gs : List Finding) : Prop :=
  Rearranged (fun f g => f.signature = g.signature) fs gs

theorem SameFindings.refl (fs : List Finding) : SameFindings fs fs :=
  Multiset.rel_refl_of_refl_on fun _ _ => rfl

namespace Topology

theorem addressFindings_like (zone : String) {ns ms : Nameserver} (h : ns.Like ms) :
    SameFindings (addressFindings zone ns) (addressFindings zone ms) := by
  unfold addressFindings
  rw [h.addresses.isEmpty_eq]
  split
  · exact .singleton (by simp [Finding.signature, noAddress, h.name])
  · refine (Rearranged.of_perm (h.addresses.filter _)).map ?_
    rintro a - rfl
    simp [Finding.signature, privateAddress, h.name]

variable {nameservers nameservers' : List Nameserver}
  (h : Rearranged Nameserver.Like nameservers nameservers')

include h

theorem addresses_like :
    (nameservers.flatMap Nameserver.addresses).Perm (nameservers'.flatMap Nameserver.addresses) :=
  (h.flatMap fun _ _ hl => .of_perm hl.addresses).perm

theorem networks_like : (networks nameservers).Perm (networks nameservers') := by
  refine (h.flatMap fun ns ms hl => (Rearranged.of_perm hl.addresses).map ?_).perm
  rintro a - rfl
  dsimp only
  rw [hl.owners]

theorem knownNetworks_like : knownNetworks nameservers = knownNetworks nameservers' := by
  refine (knownNetworks_ascending nameservers).eq_of_mem_iff (knownNetworks_ascending nameservers') ?_
  intro asn
  have hmem : ∀ found, asn ∈ knownNetworks found ↔ some asn ∈ networks found := by
    intro found
    simp only [mem_knownNetworks, mem_networks, attributed_iff]
  rw [hmem, hmem, (networks_like h).mem_iff]

theorem allKnown_like : allKnown nameservers = allKnown nameservers' := by
  rw [allKnown, allKnown, (networks_like h).isEmpty_eq, (networks_like h).all_eq]

theorem networkFindings_like (zone : String) :
    networkFindings zone nameservers = networkFindings zone nameservers' := by
  rw [networkFindings, networkFindings, knownNetworks_like h, allKnown_like h]

theorem subnetFindings_like (zone : String) :
    SameFindings (subnetFindings zone nameservers) (subnetFindings zone nameservers') := by
  have haddresses := addresses_like h
  have hv4 : (Net.ipv4Only (nameservers.flatMap Nameserver.addresses)).length =
      (Net.ipv4Only (nameservers'.flatMap Nameserver.addresses)).length :=
    (haddresses.filterMap _).length_eq
  unfold subnetFindings
  dsimp only
  rw [hv4, Net.sameSubnet_perm haddresses]
  split
  · exact .singleton rfl
  · exact .refl _

theorem findings_like (zone : String) :
    SameFindings (findings zone nameservers) (findings zone nameservers') := by
  refine (h.flatMap fun ns ms hl => addressFindings_like zone hl).append ?_
  rw [h.length_eq]
  split
  · exact .singleton rfl
  · rw [networkFindings_like h]
    exact (subnetFindings_like h zone).append (SameFindings.refl _)

omit h

theorem severity_of_mem_findings {zone : String} {f : Finding} (h : f ∈ findings zone nameservers) :
    f.severity ∈ Severity.graded := by
  rcases mem_findings h with ⟨ns, -, rfl⟩ | ⟨ns, -, a, -, rfl⟩ | rfl | ⟨v4, rfl⟩ | ⟨asn, rfl⟩ <;>
    simp [noAddress, privateAddress, singleNameserver, oneSubnet, oneNetwork, Severity.graded]

end Topology

/-- Two answers to a question with the same records in different orders, or one failure. -/
structure Heard.Like (x y : Heard) : Prop where
  records : x.1.Perm y.1
  error : x.2 = y.2

namespace Inquiry

theorem findings_like {i j : Inquiry} (htarget : i.target = j.target) (hsoa : i.soa.Like j.soa)
    (hns : i.ns.Like j.ns) (zone : String) (delegated : List String) :
    i.findings zone delegated = j.findings zone delegated := by
  obtain ⟨hhost, haddress⟩ := Prod.mk.inj htarget
  have hserved : i.served = j.served := by
    rw [served, served, Scan.sortTexts_eq_iff]
    exact ((hns.records.filterMap _).map _).map _
  have hfailed : i.ns.failed = j.ns.failed := by
    rw [Heard.failed, Heard.failed, hns.error, hns.records.isEmpty_eq]
  rw [findings, findings, failure, failure, failure, failure, difference, difference, hhost, haddress,
    hsoa.error, hns.error, hsoa.records.isEmpty_eq, hns.records.isEmpty_eq, hserved, hfailed]

theorem severity_of_mem_findings {i : Inquiry} {zone : String} {delegated : List String} {f : Finding}
    (h : f ∈ i.findings zone delegated) : f.severity ∈ Severity.graded := by
  rcases mem_findings h with ⟨check, e, rfl⟩ | rfl <;>
    simp [Check.failure, Scan.inconsistent, Severity.graded]

end Inquiry

/-- Reports on one zone that say the same in different orders. -/
structure Report.Like (r r' : Report) : Prop where
  zone : r.zone = r'.zone
  nameservers : Rearranged Nameserver.Like r.nameservers r'.nameservers
  findings : SameFindings r.findings r'.findings
  graded : ∀ f ∈ r.findings, f.severity ∈ Severity.graded

namespace Scan

variable {τ : Type} [Instant τ] {s : Scan τ}

theorem question_rotated {v w : Network τ} (h : v.Rotated w) (name : String) (type : RecordType)
    (address : String) :
    Outcomes Eq Heard.Like (s.question name type address v).1 (s.question name type address w).1 := by
  have hr := h.resolve (s.client.withPort authoritativePort) name type address false
  unfold question
  generalize (s.client.withPort authoritativePort).resolve name type address false v = x at hr ⊢
  generalize (s.client.withPort authoritativePort).resolve name type address false w = y at hr ⊢
  obtain ⟨r, v'⟩ := x
  obtain ⟨r', w'⟩ := y
  cases hr with
  | error he =>
    subst he
    dsimp only
    split
    · exact .ok ⟨.refl _, rfl⟩
    · exact .error rfl
  | ok hp => exact .ok ⟨hp, rfl⟩

theorem inquire_rotated {v w : Network τ} (h : v.Rotated w) (name : String)
    (target : String × Net.Address) :
    Outcomes Eq (fun i j : Inquiry => ∀ zone delegated, i.findings zone delegated =
      j.findings zone delegated) (s.inquire name v target) (s.inquire name w target) := by
  have hsoa := question_rotated (s := s) h name .soa target.2.text
  have hns := question_rotated (s := s) h name .ns target.2.text
  unfold inquire
  generalize (s.question name .soa target.2.text v).1 = x at hsoa ⊢
  generalize (s.question name .soa target.2.text w).1 = y at hsoa ⊢
  cases hsoa with
  | error he => exact .error he
  | ok hsoa => exact hns.map fun _ _ hns => Inquiry.findings_like rfl hsoa hns

theorem delegation_like {nameservers nameservers' : List Nameserver}
    (h : Rearranged Nameserver.Like nameservers nameservers') :
    delegation nameservers = delegation nameservers' := by
  rw [delegation, delegation, sortTexts_eq_iff]
  refine (h.map fun ns ms hl => ?_).perm
  rw [hl.name]

theorem targets_like {nameservers nameservers' : List Nameserver}
    (h : Rearranged Nameserver.Like nameservers nameservers') :
    (targets nameservers).Perm (targets nameservers') := by
  refine (h.flatMap fun ns ms hl => (Rearranged.of_perm hl.addresses).map ?_).perm
  rintro a - rfl
  rw [hl.name]

variable (hx : s.expires = none)

include hx

theorem probe_rotated {p q : Progress τ} (h : p.session.network.Rotated q.session.network)
    (hreport : p.report.Like q.report) {name : String} {zone : Name} (hz : Name.read name = .ok zone) :
    Outcomes (fun _ _ => True) (fun _ _ => (s.probe name p).2.report.Like (s.probe name q).2.report)
      (s.probe name p).1 (s.probe name q).1 := by
  have hp := probe_settles hx h.left .refl hz (s := s)
  have hq := probe_settles hx h.right .refl hz (s := s)
  have hinquiries : Outcomes (fun _ _ => True) (Rearranged fun i j : Inquiry =>
        ∀ zone delegated, i.findings zone delegated = j.findings zone delegated)
      ((targets p.report.nameservers).mapM (s.inquire name p.session.network))
      ((targets q.report.nameservers).mapM (s.inquire name q.session.network)) := by
    refine Outcomes.mapM (D := Eq) (.of_perm (targets_like hreport.nameservers)) ?_
      fun _ _ _ _ _ _ _ _ => trivial
    rintro target - _ - rfl
    exact inquire_rotated h name target
  generalize (targets p.report.nameservers).mapM (s.inquire name p.session.network) = x
    at hp hinquiries
  generalize (targets q.report.nameservers).mapM (s.inquire name q.session.network) = y
    at hq hinquiries
  generalize s.probe name p = x' at hp ⊢
  generalize s.probe name q = y' at hq ⊢
  obtain ⟨r, p'⟩ := x'
  obtain ⟨r', q'⟩ := y'
  cases hinquiries with
  | error =>
    cases hp
    cases hq
    exact .error trivial
  | ok hsame =>
    cases hp with
    | ok hp =>
      cases hq with
      | ok hq =>
        obtain ⟨hpzone, hpnameservers, hpfindings⟩ := hp
        obtain ⟨hqzone, hqnameservers, hqfindings⟩ := hq
        refine .ok ⟨?_, ?_, ?_, ?_⟩
        · rw [hpzone, hqzone, hreport.zone]
        · rw [hpnameservers, hqnameservers]
          exact hreport.nameservers
        · rw [hpfindings, hqfindings, ← hreport.zone, ← delegation_like hreport.nameservers]
          refine hreport.findings.append (hsame.flatMap fun i j hij => ?_)
          rw [hij]
          exact SameFindings.refl _
        · intro f hf
          rw [hpfindings, List.mem_append, List.mem_flatMap] at hf
          rcases hf with hf | ⟨i, -, hf⟩
          · exact hreport.graded f hf
          · exact Inquiry.severity_of_mem_findings hf

theorem examine_rotated {p q : Progress τ} (h : p.session.Rotated s.source q.session)
    (hp : p.report.findings = []) (hr : p.report = q.report) {nameservers nameservers' : List Nameserver}
    (hlike : Rearranged Nameserver.Like nameservers nameservers') {name : String} {zone : Name}
    (hz : Name.read name = .ok zone) :
    Outcomes (fun _ _ => True)
      (fun _ _ => (s.examine name nameservers p).2.report.Like (s.examine name nameservers' q).2.report)
      (s.examine name nameservers p).1 (s.examine name nameservers' q).1 := by
  have henriched := enrich_rotated hx h hlike
  have hnetwork := h.network.leads (s.enrich_leads nameservers p) (s.enrich_leads nameservers' q)
  have hpreport := enrich_report hx nameservers p
  have hqreport := enrich_report hx nameservers' q
  unfold examine
  generalize s.enrich nameservers p = x at henriched hnetwork hpreport ⊢
  generalize s.enrich nameservers' q = y at henriched hnetwork hqreport ⊢
  obtain ⟨r, p'⟩ := x
  obtain ⟨r', q'⟩ := y
  cases henriched with
  | error => exact .error trivial
  | @ok enriched enriched' hlike =>
    dsimp only at hnetwork hpreport hqreport ⊢
    have hlocal : (inspect enriched p').report.Like (inspect enriched' q').report := by
      rw [inspect_report, inspect_report, hpreport, hqreport, ← hr, hp]
      refine ⟨rfl, hlike, Topology.findings_like hlike _, ?_⟩
      intro f hf
      exact Topology.severity_of_mem_findings hf
    split
    · exact probe_rotated hx (p := inspect enriched p') (q := inspect enriched' q') hnetwork hlocal hz
    · exact .ok hlocal

omit hx [Instant τ] in
theorem abandoned_findings (zone : String) (e : Failure) (session : Session τ) :
    (s.abandon zone e (s.begin zone session)).report.findings =
      [s.noNameservers zone (absolute zone) (rootCause e)] := rfl

theorem survey_rotated {v w : Session τ} (h : v.Rotated s.source w) (zone : String) :
    Outcomes (fun _ _ => True)
      (fun _ _ => (s.survey zone v).2.report.Like (s.survey zone w).2.report)
      (s.survey zone v).1 (s.survey zone w).1 := by
  have hd := discover_rotated h.network s.client s.settings.resolver (absolute zone)
  have hv := discover_leads s.client s.settings.resolver (absolute zone) v.network
  have hw := discover_leads s.client s.settings.resolver (absolute zone) w.network
  unfold survey
  cases hx' : discover s.client s.settings.resolver (absolute zone) v.network with
  | mk r v' =>
    cases hy : discover s.client s.settings.resolver (absolute zone) w.network with
    | mk r' w' =>
      rw [hx'] at hd hv
      rw [hy] at hd hw
      cases hd with
      | @error e f he =>
        dsimp only
        rcases he with rfl | ⟨he, hf⟩
        · split
          · refine .ok ⟨rfl, .zero, SameFindings.refl _, ?_⟩
            intro f hf
            rw [abandoned_findings, List.mem_singleton] at hf
            rw [hf]
            exact List.mem_cons_self
          · exact .error trivial
        · rw [he.isNoNameservers, hf.isNoNameservers]
          exact .error trivial
      | @ok found found' hlike =>
        obtain ⟨-, name, hname, -⟩ := discover_names hx'
        exact examine_rotated hx (p := s.begin zone ⟨v', v.cache⟩) (q := s.begin zone ⟨w', w.cache⟩)
          ⟨h.network.leads hv hw, h.left.leads hv, h.right.leads hw⟩ rfl rfl hlike hname

end Scan

theorem Overall.ofSeverities_perm {ss ss' : List Severity} (h : ss.Perm ss') :
    ofSeverities ss = ofSeverities ss' := by
  rw [ofSeverities, ofSeverities, h.contains_eq, h.contains_eq, h.contains_eq]

/-- The name of a nameserver and its addresses, in no order. -/
def Nameserver.whereabouts (ns : Nameserver) : String × Multiset Net.Address :=
  (ns.name, Multiset.ofList ns.addresses)

/-- Reports that say the same, where orders, texts and times do not count: findings of the same
issues, severities and servers, the same value overall, the same nameservers with the same addresses,
and responses with one summary. -/
structure Report.SameVerdict (r r' : Report) : Prop where
  findings : Multiset.ofList (r.findings.map Finding.signature) =
    Multiset.ofList (r'.findings.map Finding.signature)
  overall : r.overall = r'.overall
  nameservers : Multiset.ofList (r.nameservers.map Nameserver.whereabouts) =
    Multiset.ofList (r'.nameservers.map Nameserver.whereabouts)
  summary : ∀ target check about, ∃ response response',
    Response.build target [(check, .report r)] about = .ok response ∧
      Response.build target [(check, .report r')] about = .ok response' ∧
      response.summary = response'.summary

namespace Report.Like

variable {r r' : Report} (h : r.Like r')

include h

theorem signatures : (r.findings.map Finding.signature).Perm (r'.findings.map Finding.signature) :=
  (h.findings.map fun _ _ hs => hs).perm

theorem severities : (r.findings.map Finding.severity).Perm (r'.findings.map Finding.severity) := by
  have hmap := h.signatures.map fun signature => signature.2.1
  rwa [List.map_map, List.map_map] at hmap

theorem graded_right : ∀ f ∈ r'.findings, f.severity ∈ Severity.graded := by
  intro f hf
  obtain ⟨g, hg, hs⟩ := List.mem_map.mp (h.severities.mem_iff.mpr (List.mem_map_of_mem hf))
  exact hs ▸ h.graded g hg

theorem summary_eq : r.summary = r'.summary := by
  have htally : ∀ s, r.tally s = r'.tally s := fun s => h.severities.count_eq s
  rw [summary, summary, htally, htally, htally, h.findings.length_eq]

theorem stamped (millis millis' : Int) :
    (r.finalize.observe (.timing millis)).Like (r'.finalize.observe (.timing millis')) :=
  ⟨h.zone, h.nameservers, h.findings, h.graded⟩

theorem sameVerdict (hoverall : r.overall = r'.overall) : r.SameVerdict r' where
  findings := Multiset.coe_eq_coe.mpr h.signatures
  overall := hoverall
  nameservers := by
    refine Multiset.coe_eq_coe.mpr (h.nameservers.map fun ns ms hl => ?_).perm
    rw [Nameserver.whereabouts, Nameserver.whereabouts, hl.name, Multiset.coe_eq_coe.mpr hl.addresses]
  summary target check about := by
    refine ⟨_, _, Response.build_report target check _ about, Response.build_report target check _ about,
      ?_⟩
    dsimp only
    rw [summarize_entries check h.graded, summarize_entries check h.graded_right]
    exact h.summary_eq

end Report.Like

/-- The verdict on a zone does not depend on the order of the records in the answers about nameservers,
addresses and the start of a zone: two audits without a deadline, on tools with any past, where the
servers send the same records in different orders, both fail or come to reports with one verdict. -/
theorem auditZone_sameVerdict {τ : Type} [Instant τ] (settings : Settings τ)
    (hd : Instant.before Instant.zero settings.deadline = false) {v w : Network τ} (h : v.Rotated w)
    (past past' : List (Event τ)) (target : String) :
    let used := Session.live settings past ⟨v, []⟩
    let used' := Session.live settings past' ⟨w, []⟩
    (∃ outcome outcome' : Except Failure Report,
      (auditZone settings target used).1 =
        outcome.bind (Scan.stamp (elapsed used (auditZone settings target used).2)) ∧
      (auditZone settings target used').1 =
        outcome'.bind (Scan.stamp (elapsed used' (auditZone settings target used').2)) ∧
      ((∃ r, outcome = .ok r) ↔ ∃ r', outcome' = .ok r')) ∧
    ∀ r r', (auditZone settings target used).1 = .ok r → (auditZone settings target used').1 = .ok r' →
      r.SameVerdict r' := by
  intro used used'
  have hrotated : used.Rotated settings.source used' :=
    ⟨h.leads (Session.live_leads settings past ⟨v, []⟩) (Session.live_leads settings past' ⟨w, []⟩),
      Session.live_coherent (.nothing h.left) past, Session.live_coherent (.nothing h.right) past'⟩
  clear_value used used'
  have hends := Scan.survey_rotated (s := ⟨settings, none⟩) rfl hrotated (Zone.normalize target)
  constructor
  · cases hx : (⟨settings, none⟩ : Scan τ).survey (Zone.normalize target) used with
    | mk r p =>
      cases hy : (⟨settings, none⟩ : Scan τ).survey (Zone.normalize target) used' with
      | mk r' q =>
        rw [hx, hy] at hends
        rw [← Scan.start_endless hd used.network.clock] at hx
        rw [← Scan.start_endless hd used'.network.clock] at hy
        refine ⟨_, _, auditZone_outcome hx, auditZone_outcome hy, ?_⟩
        exact (hends.map (S := fun _ _ => True) fun _ _ _ => trivial).exists_ok_iff
  · intro r r' hr hr'
    obtain ⟨p, millis, hp, rfl⟩ := survey_of_report hr
    obtain ⟨q, millis', hq, rfl⟩ := survey_of_report hr'
    rw [Scan.start_endless hd] at hp hq
    rw [hp, hq] at hends
    have hlike := Outcomes.ok_ok_iff.mp hends
    exact (hlike.stamped millis millis').sameVerdict (Overall.ofSeverities_perm hlike.severities)

/-- One nameserver with two addresses, the first of them private. -/
def privateFirst : List Dns.Rdata := [.a (.ofNat 0x0A000001), .a (.ofNat 0xC6336401)]

/-- A network on which the one nameserver of a zone has these addresses. -/
def sending (addresses : List Dns.Rdata) : Network Float :=
  let a : Dns.Name := .single 97
  .start 0 1 [
    .always none "example.com." "NS" (.ok ⟨.noError, [⟨a, 60, [.ns a]⟩]⟩),
    .always none "a." "A" (.ok ⟨.noError, [⟨a, 60, addresses⟩]⟩)] []

theorem sending_constant (addresses : List Dns.Rdata) :
    ∀ r ∈ (sending addresses).rules, r.Constant :=
  Network.forall_start (by simp)

theorem sending_rotated {addresses addresses' : List Dns.Rdata} (h : addresses.Perm addresses') :
    (sending addresses).Rotated (sending addresses') := by
  refine Network.rotated_of_constant (sending_constant addresses) (sending_constant addresses')
    (.cons (Rule.always_rotated fun _ _ => .same _)
      (.cons (Rule.always_rotated fun type htype => ?_) .nil))
  have haddress : type = .a := RecordType.eq_of_text (by decide) htype
  subst haddress
  exact .moved (by decide) rfl (by simpa [recordsOf, RecordSet.records] using h.map _)

/-- Two addresses in either order: the reports differ, and say the same. -/
theorem auditZone_sameVerdict_swapped :
    Instant.before Instant.zero endless.deadline = false ∧
    (sending privateFirst).Rotated (sending privateFirst.reverse) ∧
    ∃ r r', (auditZone endless "example.com" ⟨sending privateFirst, []⟩).1 = .ok r ∧
      (auditZone endless "example.com" ⟨sending privateFirst.reverse, []⟩).1 = .ok r' ∧
      r.addresses ≠ r'.addresses ∧ r.findings ≠ [] ∧ r.SameVerdict r' := by
  have hd : Instant.before Instant.zero endless.deadline = false := by decide +kernel
  have hrotated := sending_rotated (List.reverse_perm privateFirst).symm
  have hdiffer : ((auditZone endless "example.com" ⟨sending privateFirst, []⟩).1.toOption.bind fun r =>
      (auditZone endless "example.com" ⟨sending privateFirst.reverse, []⟩).1.toOption.map fun r' =>
        decide (r.addresses ≠ r'.addresses ∧ r.findings.length ≠ 0)) = some true := by
    decide +kernel
  cases hr : (auditZone endless "example.com" ⟨sending privateFirst, []⟩).1 with
  | error e =>
    rw [hr] at hdiffer
    cases hdiffer
  | ok r =>
    cases hr' : (auditZone endless "example.com" ⟨sending privateFirst.reverse, []⟩).1 with
    | error e =>
      rw [hr, hr'] at hdiffer
      cases hdiffer
    | ok r' =>
      rw [hr, hr'] at hdiffer
      obtain ⟨haddresses, hfindings⟩ := of_decide_eq_true (Option.some.inj hdiffer)
      refine ⟨hd, hrotated, r, r', rfl, rfl, haddresses, mt List.length_eq_zero_iff.mpr hfindings, ?_⟩
      exact (auditZone_sameVerdict endless hd hrotated [] [] "example.com").2 r r' hr hr'

end DelegationAudit
