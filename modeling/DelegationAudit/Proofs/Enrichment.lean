import DelegationAudit.Proofs.Steady
import DelegationAudit.Proofs.Switches

namespace DelegationAudit

/-- Nameservers of which nothing is known but where they are. -/
def Nameserver.ofHost (host : String × List Net.Address) : Nameserver := ⟨host.1, host.2, []⟩

section Hosts

variable {given found : List Nameserver} (h : found.map Nameserver.host = given.map Nameserver.host)

include h

theorem flatMap_hosts {β : Type} {f : Nameserver → List β} (hf : ∀ ns, f ns = f (.ofHost ns.host)) :
    found.flatMap f = given.flatMap f := by
  have hread : ∀ nameservers : List Nameserver,
      nameservers.flatMap f = (nameservers.map Nameserver.host).flatMap fun host => f (.ofHost host) := by
    intro nameservers
    rw [List.flatMap_map]
    exact List.flatMap_congr fun ns _ => hf ns
  rw [hread, hread, h]

theorem names_of_hosts : found.map Nameserver.name = given.map Nameserver.name := by
  have hnames := congrArg (List.map Prod.fst) h
  rwa [List.map_map, List.map_map] at hnames

theorem length_of_hosts : found.length = given.length := by
  have hlength := congrArg List.length h
  rwa [List.length_map, List.length_map] at hlength

theorem targets_of_hosts : Scan.targets found = Scan.targets given := flatMap_hosts h fun _ => rfl

theorem delegation_of_hosts : Scan.delegation found = Scan.delegation given := by
  have hlower := congrArg (List.map lowerText) (names_of_hosts h)
  rw [List.map_map, List.map_map] at hlower
  exact congrArg Scan.sortTexts hlower

end Hosts

/-- A finding of another kind than that all addresses are of one network. -/
def Finding.beyondNetwork (f : Finding) : Bool := decide (f.issue ≠ .singleNetwork)

namespace Topology

/-- But for the owners, the local findings are about names and addresses. -/
theorem filter_findings (zone : String) (nameservers : List Nameserver) :
    (findings zone nameservers).filter Finding.beyondNetwork =
      nameservers.flatMap (addressFindings zone) ++
        if nameservers.length < 2 then [singleNameserver zone nameservers]
        else subnetFindings zone nameservers := by
  have hown : (nameservers.flatMap (addressFindings zone)).filter Finding.beyondNetwork =
      nameservers.flatMap (addressFindings zone) := by
    rw [List.filter_eq_self]
    intro f hf
    obtain ⟨ns, -, hf⟩ := List.mem_flatMap.mp hf
    rcases mem_addressFindings hf with rfl | ⟨a, -, rfl⟩ <;> rfl
  have hsubnet : (subnetFindings zone nameservers).filter Finding.beyondNetwork =
      subnetFindings zone nameservers := by
    rw [List.filter_eq_self]
    intro f hf
    obtain ⟨v4, rfl⟩ := mem_subnetFindings hf
    rfl
  have hnetwork : (networkFindings zone nameservers).filter Finding.beyondNetwork = [] := by
    rw [List.filter_eq_nil_iff]
    intro f hf
    obtain ⟨asn, rfl⟩ := mem_networkFindings hf
    simp [Finding.beyondNetwork, oneNetwork]
  rw [findings, List.filter_append, hown]
  split
  · rfl
  · rw [List.filter_append, hsubnet, hnetwork, List.append_nil]

theorem filter_findings_hosts {given found : List Nameserver}
    (h : found.map Nameserver.host = given.map Nameserver.host) (zone : String) :
    (findings zone found).filter Finding.beyondNetwork =
      (findings zone given).filter Finding.beyondNetwork := by
  have hown : found.flatMap (addressFindings zone) = given.flatMap (addressFindings zone) :=
    flatMap_hosts h fun _ => rfl
  have haddresses : found.flatMap Nameserver.addresses = given.flatMap Nameserver.addresses :=
    flatMap_hosts h fun _ => rfl
  have hsingle : singleNameserver zone found = singleNameserver zone given := by
    rw [singleNameserver, singleNameserver, names_of_hosts h, length_of_hosts h]
  have hsubnet : subnetFindings zone found = subnetFindings zone given := by
    rw [subnetFindings, subnetFindings, haddresses]
  rw [filter_findings, filter_findings, hown, hsingle, hsubnet, length_of_hosts h]

end Topology

/-- What is observed of addresses and of the answers of nameservers. -/
def hostKeys : List String := ["ipv4_addresses", "probes", "served_ns"]

theorem filter_localObservations_hosts {given found : List Nameserver}
    (h : found.map Nameserver.host = given.map Nameserver.host) :
    (Scan.localObservations found).filter (fun o => hostKeys.contains o.key) =
      (Scan.localObservations given).filter (fun o => hostKeys.contains o.key) := by
  have haddresses : found.flatMap Nameserver.addresses = given.flatMap Nameserver.addresses :=
    flatMap_hosts h fun _ => rfl
  rw [Scan.localObservations, Scan.localObservations, length_of_hosts h, haddresses]
  split <;> simp [hostKeys, Observation.key]

/-- A second report that is the same as the first one but for owners: the same names, the same
nameservers with the same addresses in the same order, the same observations of addresses and answers,
and the same findings but that all addresses are of one network. -/
structure Report.SameButOwners (r r' : Report) : Prop where
  names : r'.names = r.names
  resolver : r'.resolver = r.resolver
  hosts : r'.nameservers.map Nameserver.host = r.nameservers.map Nameserver.host
  observed : r'.observed hostKeys = r.observed hostKeys
  findings : r'.findings.filter Finding.beyondNetwork = r.findings.filter Finding.beyondNetwork

namespace Report.SameButOwners

variable {r r' : Report}

theorem refl (r : Report) : r.SameButOwners r := ⟨rfl, rfl, rfl, rfl, rfl⟩

theorem grow (h : r.SameButOwners r') (os : List Observation) (fs : List Finding) :
    (r.grow os fs).SameButOwners (r'.grow os fs) where
  names := h.names
  resolver := h.resolver
  hosts := h.hosts
  observed := by
    have hobserved := h.observed
    simp only [Report.observed, Report.grow, List.filter_append] at hobserved ⊢
    rw [hobserved]
  findings := by
    simp only [Report.grow, List.filter_append, h.findings]

theorem stamped (h : r.SameButOwners r') (millis millis' : Int) :
    (r.finalize.observe (.timing millis)).SameButOwners (r'.finalize.observe (.timing millis')) where
  names := h.names
  resolver := h.resolver
  hosts := h.hosts
  observed := by
    have htiming : ∀ millis, (Observation.timing millis).key ∉ hostKeys := by
      simp [hostKeys, Observation.key]
    rw [observed_observe (htiming millis'), observed_observe (htiming millis)]
    exact h.observed
  findings := h.findings

end Report.SameButOwners

variable {τ : Type} [Instant τ]

namespace Scan

def conclude (s : Scan τ) (name : String) (nameservers : List Nameserver) (p : Progress τ) :
    Except Failure Unit × Progress τ :=
  if s.settings.probe then s.probe name (inspect nameservers p) else (.ok (), inspect nameservers p)

variable {s : Scan τ}

theorem examine_of_enriched {name : String} {nameservers found : List Nameserver} {p q : Progress τ}
    (h : s.enrich nameservers p = (.ok found, q)) :
    s.examine name nameservers p = s.conclude name found q := by
  rw [examine, h]
  rfl

theorem examine_of_failed {name : String} {nameservers : List Nameserver} {p q : Progress τ}
    {e : Failure} (h : s.enrich nameservers p = (.error e, q)) :
    s.examine name nameservers p = (.error e, q) := by
  rw [examine, h]

theorem conclude_switched (enrich : Bool) (name : String) (nameservers : List Nameserver)
    (p : Progress τ) :
    (s.switched enrich s.settings.probe).conclude name nameservers p =
      s.conclude name nameservers p := by
  simp only [conclude, probe_switched]
  rfl

theorem conclude_nameservers {name : String} {nameservers : List Nameserver} {p q : Progress τ}
    (h : s.conclude name nameservers p = (.ok (), q)) : q.report.nameservers = nameservers := by
  rw [conclude] at h
  split at h
  · obtain ⟨os, fs, hr, -, -⟩ := probe_grows h
    rw [hr]
    exact inspect_nameservers nameservers p
  · cases h
    exact inspect_nameservers nameservers p

omit [Instant τ] in
theorem inspect_same {given found : List Nameserver} {p q : Progress τ}
    (h : p.report.SameButOwners q.report)
    (hhosts : found.map Nameserver.host = given.map Nameserver.host) :
    (inspect given p).report.SameButOwners (inspect found q).report := by
  have hzone : q.report.zone = p.report.zone := congrArg Prod.fst h.names
  have hlocal := filter_localObservations_hosts hhosts
  have hobserved := h.observed
  rw [inspect_report, inspect_report]
  refine ⟨h.names, h.resolver, hhosts, ?_, ?_⟩
  · simp only [Report.observed, List.filter_append] at hobserved ⊢
    rw [hobserved, hlocal]
  · rw [List.filter_append, List.filter_append, h.findings, hzone,
      Topology.filter_findings_hosts hhosts]

variable (hx : s.expires = none)

include hx

theorem probeAll_same {p q : Progress τ} (h : p.session.network.Alike none q.session.network)
    (hz : p.report.zone = q.report.zone) (name : String) (delegated : List String)
    (targets : List (String × Net.Address)) (harvest : Harvest) :
    (s.probeAll name delegated targets harvest p).1 = (s.probeAll name delegated targets harvest q).1 ∧
      ∃ fs, (s.probeAll name delegated targets harvest p).2.report = p.report.addAll fs ∧
        (s.probeAll name delegated targets harvest q).2.report = q.report.addAll fs := by
  induction targets generalizing harvest p q with
  | nil => exact ⟨rfl, [], by simp [probeAll], by simp [probeAll]⟩
  | cons target rest ih =>
    obtain ⟨host, a⟩ := target
    obtain ⟨hserved, fs, hp, hq⟩ := probeOne_same (p := p.looked) (q := q.looked) h hz
      (Option.some_ne_none a.text) name delegated host harvest harvest (s := s)
    have hnext := h.leads (s.probeOne_leads name delegated host a harvest p.looked)
      (s.probeOne_leads name delegated host a harvest q.looked)
    rw [probeAll, probeAll, inTime_of_endless hx, inTime_of_endless hx, if_pos rfl, if_pos rfl]
    generalize s.probeOne name delegated host a harvest p.looked = x at hserved hp hnext ⊢
    generalize s.probeOne name delegated host a harvest q.looked = y at hserved hq hnext ⊢
    obtain ⟨r, p'⟩ := x
    obtain ⟨r', q'⟩ := y
    dsimp only [Progress.looked_report] at hp hq hnext
    cases hserved with
    | error he => exact ⟨congrArg Except.error he, fs, hp, hq⟩
    | ok hl =>
      obtain ⟨served, entry, rfl, rfl⟩ := hl
      -- The zones stay equal, since findings are all that a probe adds.
      have hz' : p'.report.zone = q'.report.zone := by rw [hp, hq]; exact hz
      obtain ⟨hsame, gs, hp', hq'⟩ := ih hnext hz' _
      rw [hp, Report.addAll_addAll] at hp'
      rw [hq, Report.addAll_addAll] at hq'
      exact ⟨hsame, fs ++ gs, hp', hq'⟩

theorem probe_same {p q : Progress τ} (h : p.session.network.Alike none q.session.network)
    (hr : p.report.SameButOwners q.report) (name : String) :
    (s.probe name p).1 = (s.probe name q).1 ∧
      (s.probe name p).2.report.SameButOwners (s.probe name q).2.report := by
  have hzone : p.report.zone = q.report.zone := (congrArg Prod.fst hr.names).symm
  obtain ⟨hsame, fs, hp, hq⟩ := probeAll_same hx h hzone name (delegation p.report.nameservers)
    (targets p.report.nameservers) ⟨[], []⟩
  rw [probe, probe, delegation_of_hosts hr.hosts, targets_of_hosts hr.hosts]
  obtain ⟨r, p', q', hp', hq'⟩ := exists_of_fst_eq hsame
  rw [hp', Report.addAll_eq_grow] at hp
  rw [hq', Report.addAll_eq_grow] at hq
  rw [hp', hq']
  dsimp only at hp hq
  have hgrown : p'.report.SameButOwners q'.report := by
    rw [hp, hq]
    exact hr.grow [] fs
  cases r with
  | error e => exact ⟨rfl, hgrown⟩
  | ok harvest =>
    have hmore := hgrown.grow [.probes harvest.probes,
      .servedNames ((Dns.targetsOf harvest.served).map lowerText)] []
    refine ⟨rfl, ?_⟩
    simpa [Report.grow, Progress.observe, Report.observe] using hmore

theorem conclude_same {given found : List Nameserver} {p q : Progress τ}
    (h : p.session.network.Alike none q.session.network) (hr : p.report.SameButOwners q.report)
    (hhosts : found.map Nameserver.host = given.map Nameserver.host) (name : String) :
    (s.conclude name given p).1 = (s.conclude name found q).1 ∧
      (s.conclude name given p).2.report.SameButOwners (s.conclude name found q).2.report := by
  have hlocal := inspect_same hr hhosts
  rw [conclude, conclude]
  split
  · exact probe_same hx (p := inspect given p) (q := inspect found q) h hlocal name
  · exact ⟨rfl, hlocal⟩

section Owners

variable {p : Progress τ} (hp : s.source.Coherent p.session)
  {said : Net.Address → Except Failure Ownership}
  (hsaid : ∀ a, (s.source.fetch a p.session.network).1 = said a) {nameservers : List Nameserver}

include hp hsaid

theorem enrichAll_eq_ascribe :
    (s.enrichAll nameservers p).1 = nameservers.mapM fun ns =>
      (ascribe said ns.addresses []).map fun known => { ns with ownership := known } := by
  have halike : p.session.Alike none s.source p.session := ⟨.refl hp.steady, hp, hp⟩
  rw [enrichAll_eq_mapM hx halike]
  congr 1
  funext ns
  rw [enrichOne_eq hx, owners_eq_ascribe hp hsaid]

theorem enrichAll_ok_iff :
    (∃ found, (s.enrichAll nameservers p).1 = .ok found) ↔
      ∀ ns ∈ nameservers, ∀ a ∈ ns.addresses, ∀ e, said a = .error e → e.isOwnership = true := by
  rw [enrichAll_eq_ascribe hx hp hsaid, exists_mapM_eq_ok_iff]
  refine forall₂_congr fun ns _ => ?_
  have hiff : (∃ known, ascribe said ns.addresses [] = .ok known) ↔
      ∀ a ∈ ns.addresses, ∀ e, said a = .error e → e.isOwnership = true := ascribe_ok_iff
  rw [← hiff]
  cases ascribe said ns.addresses [] <;> simp [Except.map]

theorem enrichAll_owned {found : List Nameserver} (h : (s.enrichAll nameservers p).1 = .ok found) :
    ∀ ns ∈ found, ∀ a ∈ ns.addresses, ns.ownerOf? a = (said a).toOption := by
  rw [enrichAll_eq_ascribe hx hp hsaid, mapM_eq_ok_iff] at h
  intro ns hns a ha
  have hmem : (Except.ok ns : Except Failure Nameserver) ∈ found.map Except.ok :=
    List.mem_map_of_mem hns
  rw [← h] at hmem
  obtain ⟨given, -, hgiven⟩ := List.mem_map.mp hmem
  cases hknown : ascribe said given.addresses [] with
  | error e =>
    rw [hknown] at hgiven
    cases hgiven
  | ok known =>
    rw [hknown] at hgiven
    cases hgiven
    have hlookup := ascribe_lookup hknown a
    rw [if_pos ha] at hlookup
    simpa [Nameserver.ownerOf?] using hlookup

end Owners

/-- The ends of two scans, the second of which knows of owners what is said of each address. -/
structure Enriched (said : Net.Address → Except Failure Ownership) (p q : Progress τ) : Prop where
  same : p.report.SameButOwners q.report
  unowned : ∀ ns ∈ p.report.nameservers, ns.ownership = []
  owned : ∀ ns ∈ q.report.nameservers, ∀ a ∈ ns.addresses, ns.ownerOf? a = (said a).toOption

theorem conclude_enriched {p q : Progress τ} (h : p.session.network.Alike none q.session.network)
    (hr : p.report.SameButOwners q.report) {said : Net.Address → Except Failure Ownership}
    {given found : List Nameserver} (hhosts : found.map Nameserver.host = given.map Nameserver.host)
    (hgiven : ∀ ns ∈ given, ns.ownership = [])
    (hfound : ∀ ns ∈ found, ∀ a ∈ ns.addresses, ns.ownerOf? a = (said a).toOption)
    (hsaid : ∀ ns ∈ given, ∀ a ∈ ns.addresses, ∀ e, said a = .error e → e.isOwnership = true)
    (name : String) :
    ((∃ q', s.conclude name found q = (.ok (), q')) ↔
      ∃ p', s.conclude name given p = (.ok (), p') ∧
        ∀ a ∈ p'.report.addresses, ∀ e, said a = .error e → e.isOwnership = true) ∧
    ∀ p' q', s.conclude name given p = (.ok (), p') → s.conclude name found q = (.ok (), q') →
      Enriched said p' q' := by
  obtain ⟨hends, hreports⟩ := conclude_same hx h hr hhosts name
  obtain ⟨r, p', q', hp', hq'⟩ := exists_of_fst_eq hends
  rw [hp', hq'] at hreports
  rw [hp', hq']
  cases r with
  | error e => simp
  | ok _ =>
    have hpns := conclude_nameservers hp'
    have hqns := conclude_nameservers hq'
    refine ⟨⟨?_, ?_⟩, ?_⟩
    · intro _
      refine ⟨p', rfl, fun a ha => ?_⟩
      rw [Report.addresses, hpns] at ha
      obtain ⟨ns, hns, ha⟩ := List.mem_flatMap.mp ha
      exact hsaid ns hns a ha
    · intro _
      exact ⟨q', rfl⟩
    · rintro p'' q'' ⟨⟩ ⟨⟩
      exact ⟨hreports, by rwa [hpns], by rwa [hqns]⟩

/-- Two examinations on alike networks, without lookups of owners and with them. The second comes to an
end when the first does and no lookup fails as none should. -/
theorem examine_enriched {p q : Progress τ} (h : p.session.Alike none s.source q.session)
    (hr : p.report = q.report) {said : Net.Address → Except Failure Ownership}
    (hsaid : ∀ a, (s.source.fetch a q.session.network).1 = said a) {given : List Nameserver}
    (hgiven : ∀ ns ∈ given, ns.ownership = []) (name : String) :
    ((∃ q', (s.switched true s.settings.probe).examine name given q = (.ok (), q')) ↔
      ∃ p', (s.switched false s.settings.probe).examine name given p = (.ok (), p') ∧
        ∀ a ∈ p'.report.addresses, ∀ e, said a = .error e → e.isOwnership = true) ∧
    ∀ p' q', (s.switched false s.settings.probe).examine name given p = (.ok (), p') →
      (s.switched true s.settings.probe).examine name given q = (.ok (), q') → Enriched said p' q' := by
  have hplain : (s.switched false s.settings.probe).examine name given p = s.conclude name given p := by
    rw [examine_of_enriched (s.enrich_switched false s.settings.probe given p), conclude_switched]
  have htold : (∃ found, (s.enrichAll given q).1 = .ok found) ↔ _ := enrichAll_ok_iff hx h.right hsaid
  have hleads := s.enrichAll_leads given q
  have hreport := enrichAll_report hx given q
  rw [hplain]
  cases hall : s.enrichAll given q with
  | mk r q₁ =>
    have henrich : (s.switched true s.settings.probe).enrich given q = (r, q₁) := by
      rw [enrich_switched, hall]
      rfl
    rw [hall] at htold hleads hreport
    cases r with
    | error e =>
      -- Some lookup failed as none should, which the scan without lookups does not notice.
      rw [examine_of_failed henrich]
      refine ⟨⟨?_, ?_⟩, ?_⟩
      · rintro ⟨q', ⟨⟩⟩
      · rintro ⟨p', hp', hfine⟩
        have hfound : ∃ found, (Except.error e : Except Failure (List Nameserver)) = .ok found := by
          refine htold.mpr fun ns hns a ha => hfine a ?_
          rw [Report.addresses, conclude_nameservers hp']
          exact List.mem_flatMap.mpr ⟨ns, hns, ha⟩
        obtain ⟨found, ⟨⟩⟩ := hfound
      · rintro p' q' - ⟨⟩
    | ok found =>
      have hsame : p.report.SameButOwners q₁.report := by
        rw [hreport, hr]
        exact .refl _
      rw [examine_of_enriched henrich, conclude_switched]
      exact conclude_enriched hx (h.network.leads .refl hleads) hsame (s.enrichAll_hosts hall) hgiven
        (enrichAll_owned hx h.right hsaid (congrArg Prod.fst hall)) (htold.mp ⟨found, rfl⟩) name

theorem survey_enriched {v w : Session τ} (h : v.Alike none s.source w)
    {said : Net.Address → Except Failure Ownership}
    (hsaid : ∀ a, (s.source.fetch a w.network).1 = said a) (zone : String) :
    ((∃ q, (s.switched true s.settings.probe).survey zone w = (.ok (), q)) ↔
      ∃ p, (s.switched false s.settings.probe).survey zone v = (.ok (), p) ∧
        ∀ a ∈ p.report.addresses, ∀ e, said a = .error e → e.isOwnership = true) ∧
    ∀ p q, (s.switched false s.settings.probe).survey zone v = (.ok (), p) →
      (s.switched true s.settings.probe).survey zone w = (.ok (), q) → Enriched said p q := by
  have hd := discover_alike h.network s.client (Option.some_ne_none s.settings.resolver)
    (Dns.absolute zone)
  have hv := discover_leads s.client s.settings.resolver (Dns.absolute zone) v.network
  have hw := discover_leads s.client s.settings.resolver (Dns.absolute zone) w.network
  obtain ⟨r, v', w', hv', hw'⟩ := exists_of_fst_eq hd
  rw [hv'] at hv
  rw [hw'] at hw
  have hplain : ∀ enrich, discover (s.switched enrich s.settings.probe).client
      (s.switched enrich s.settings.probe).settings.resolver (Dns.absolute zone) v.network = (r, v') :=
    fun _ => hv'
  have hrich : ∀ enrich, discover (s.switched enrich s.settings.probe).client
      (s.switched enrich s.settings.probe).settings.resolver (Dns.absolute zone) w.network = (r, w') :=
    fun _ => hw'
  unfold survey
  rw [hplain, hrich]
  cases r with
  | error e =>
    dsimp only
    split
    · refine ⟨⟨?_, ?_⟩, ?_⟩
      · intro _
        refine ⟨_, rfl, fun a ha => ?_⟩
        cases ha
      · intro _
        exact ⟨_, rfl⟩
      · rintro p q ⟨⟩ ⟨⟩
        refine ⟨.refl _, ?_, ?_⟩ <;>
          · intro ns hns
            cases hns
    · simp
  | ok given =>
    have hsession : Session.Alike none s.source ⟨v', v.cache⟩ ⟨w', w.cache⟩ :=
      ⟨h.network.leads hv hw, h.left.leads hv, h.right.leads hw⟩
    have hsaid' : ∀ a, (s.source.fetch a w').1 = said a := fun a => by
      rw [s.source.fetch_leads_eq h.right.steady hw, hsaid]
    exact examine_enriched hx (p := s.begin zone ⟨v', v.cache⟩) (q := s.begin zone ⟨w', w.cache⟩)
      hsession rfl hsaid' (discover_unowned hv') (Dns.absolute zone)

omit hx

theorem start_enriching {settings : Settings τ}
    (hd : Instant.before Instant.zero settings.deadline = false) {enrich : Bool} {now : τ} :
    start { settings with enrich := enrich } now =
      (⟨settings, none⟩ : Scan τ).switched enrich settings.probe := by
  rw [start_switched, start_endless hd]

variable (s) in
def outcome (zone : String) (session : Session τ) : Except Failure Report :=
  (s.survey zone session).1.map fun _ => (s.survey zone session).2.report.finalize

theorem outcome_eq_ok_iff {zone : String} {session : Session τ} {r : Report} :
    s.outcome zone session = .ok r ↔
      ∃ p, s.survey zone session = (.ok (), p) ∧ r = p.report.finalize := by
  rw [outcome]
  obtain ⟨ended, p⟩ := s.survey zone session
  cases ended with
  | error e => simp [Except.map]
  | ok _ => simp [Except.map, eq_comm]

theorem exists_outcome (s : Scan τ) (zone : String) {session : Session τ}
    (h : session.network.Orderly) : ∃ r, s.outcome zone session = .ok r := by
  obtain ⟨p, hp⟩ := s.survey_ok zone h
  exact ⟨_, outcome_eq_ok_iff.mpr ⟨p, hp, rfl⟩⟩

/-- The survey with lookups of owners has an outcome when the other has one and no lookup fails as none
should. -/
theorem exists_outcome_enriched (hx : s.expires = none) {v w : Session τ}
    (h : v.Alike none s.source w) {said : Net.Address → Except Failure Ownership}
    (hsaid : ∀ a, (s.source.fetch a w.network).1 = said a) (zone : String) :
    (∃ r', (s.switched true s.settings.probe).outcome zone w = .ok r') ↔
      ∃ r, (s.switched false s.settings.probe).outcome zone v = .ok r ∧
        ∀ a ∈ r.addresses, ∀ e, said a = .error e → e.isOwnership = true := by
  obtain ⟨hends, -⟩ := survey_enriched hx h hsaid zone
  constructor
  · rintro ⟨r', hr'⟩
    obtain ⟨q, hq, -⟩ := outcome_eq_ok_iff.mp hr'
    obtain ⟨p, hp, hfine⟩ := hends.mp ⟨q, hq⟩
    exact ⟨p.report.finalize, outcome_eq_ok_iff.mpr ⟨p, hp, rfl⟩, hfine⟩
  · rintro ⟨r, hr, hfine⟩
    obtain ⟨p, hp, rfl⟩ := outcome_eq_ok_iff.mp hr
    obtain ⟨q, hq⟩ := hends.mpr ⟨p, hp, hfine⟩
    exact ⟨q.report.finalize, outcome_eq_ok_iff.mpr ⟨q, hq, rfl⟩⟩

end Scan

theorem auditZone_eq_outcome (settings : Settings τ) (target : String) (session : Session τ) :
    (auditZone settings target session).1 =
      ((Scan.start settings session.network.clock).outcome (Zone.normalize target) session).bind
        (Scan.stamp (elapsed session (auditZone settings target session).2)) :=
  auditZone_outcome (Prod.mk.eta).symm

theorem Network.Alike.orderly {v w : Network τ} (h : v.Alike none w) (hv : v.Orderly) :
    w.Orderly := by
  intro u hu call e he
  rw [h.right u hu, ← h.same call (Option.some_ne_none _)] at he
  exact hv v .refl call e he

/-- Owners are a pure addition: two audits without a deadline, on tools with any past and networks that
give the same replies, one of which looks up the owners of addresses. It comes to a report when the other
one does and no lookup fails in an unforeseen way, and then the reports are the same but for owners. What
is held of an address is what a lookup of it gives, at whatever moment, and nothing else is held. -/
theorem auditZone_enriched (settings : Settings τ)
    (hd : Instant.before Instant.zero settings.deadline = false) {v w : Network τ} (h : v.Alike none w)
    (past past' : List (Event τ)) (target : String) :
    let used := Session.live { settings with enrich := false } past ⟨v, []⟩
    let used' := Session.live { settings with enrich := true } past' ⟨w, []⟩
    let plain := auditZone { settings with enrich := false } target used
    let rich := auditZone { settings with enrich := true } target used'
    (∃ outcome outcome' : Except Failure Report,
      plain.1 = outcome.bind (Scan.stamp (elapsed used plain.2)) ∧
      rich.1 = outcome'.bind (Scan.stamp (elapsed used' rich.2)) ∧
      ((∃ r', outcome' = .ok r') ↔ ∃ r, outcome = .ok r ∧ ∀ a ∈ r.addresses, ∀ e,
        (settings.source.lookup a used').1 = .error e → e.isOwnership = true) ∧
      (v.Orderly → (∃ r, outcome = .ok r) ∧ ∃ r', outcome' = .ok r')) ∧
    ∀ r r', plain.1 = .ok r → rich.1 = .ok r' →
      r.SameButOwners r' ∧ (∀ ns ∈ r.nameservers, ns.ownership = []) ∧
      ∀ ns ∈ r'.nameservers, ns.Keyed ∧ ∀ a ∈ ns.addresses, ∀ t, used'.Passes settings.source t →
        ∀ o, ns.ownerOf? a = some o ↔ (settings.source.lookup a t).1 = .ok o := by
  intro used used' plain rich
  have hpast := Session.live_passes { settings with enrich := false } past ⟨v, []⟩
  have hpast' := Session.live_passes { settings with enrich := true } past' ⟨w, []⟩
  have hused : settings.source.Coherent used := hpast.coherent (.nothing h.left)
  have hused' : settings.source.Coherent used' := hpast'.coherent (.nothing h.right)
  have hleads : v.Leads used.network := hpast.leads
  have hleads' : w.Leads used'.network := hpast'.leads
  -- From here on the pasts do not matter, but for the agreement of cache and network.
  clear hpast hpast'
  clear_value used used'
  have halike : used.Alike none settings.source used' := ⟨h.leads hleads hleads', hused, hused'⟩
  have hsaid : ∀ a, (settings.source.fetch a used'.network).1 = (settings.source.lookup a used').1 :=
    fun a => (Ownership.Source.lookup_eq_fetch hused' a).symm
  have hends := Scan.exists_outcome_enriched (s := ⟨settings, none⟩) rfl halike hsaid
    (Zone.normalize target)
  obtain ⟨-, henriched⟩ := Scan.survey_enriched (s := ⟨settings, none⟩) rfl halike hsaid
    (Zone.normalize target)
  rw [← Scan.start_enriching hd, ← Scan.start_enriching hd] at hends henriched
  refine ⟨⟨_, _, auditZone_eq_outcome _ target used, auditZone_eq_outcome _ target used', hends, ?_⟩, ?_⟩
  · intro hv
    exact ⟨Scan.exists_outcome _ _ (hv.leads hleads),
      Scan.exists_outcome _ _ ((h.orderly hv).leads hleads')⟩
  · intro r r' hr hr'
    have hmade : r'.Made τ := Report.Returned.made ⟨_, _, _, hr'⟩
    obtain ⟨p, millis, hp, rfl⟩ := survey_of_report hr
    obtain ⟨q, millis', hq, rfl⟩ := survey_of_report hr'
    obtain ⟨hsame, hunowned, howned⟩ := henriched p q hp hq
    refine ⟨hsame.stamped millis millis', hunowned, fun ns hns => ⟨hmade.nameservers ns hns, ?_⟩⟩
    intro a ha t ht o
    rw [howned ns hns a ha, ht.lookup_eq hused']
    cases (settings.source.lookup a used').1 <;> simp [Except.toOption]

/-- Two nameservers in different subnets of one network. -/
def oneOperator : Network Float :=
  let a : Dns.Name := .single 97
  let b : Dns.Name := .single 98
  let origin : Except Failure Answer := .ok ⟨.noError, [⟨a, 60, [.txt [[54, 52, 52, 57, 54, 124, 124]]]⟩]⟩
  .start 0 1 [
    .always none "example.com." "NS" (.ok ⟨.noError, [⟨a, 60, [.ns a, .ns b]⟩]⟩),
    .always none "a." "A" (.ok ⟨.noError, [⟨a, 60, [.a (.ofNat 0xC0000201)]⟩]⟩),
    .always none "b." "A" (.ok ⟨.noError, [⟨b, 60, [.a (.ofNat 0xC6336401)]⟩]⟩),
    .always none "1.2.0.192.origin.asn.cymru.com." "TXT" origin,
    .always none "1.100.51.198.origin.asn.cymru.com." "TXT" origin] []

theorem oneOperator_constant : ∀ r ∈ oneOperator.rules, r.Constant :=
  Network.forall_start (by simp)

/-- No deadline, and no probes. -/
def unprobed : Settings Float := { endless with probe := false }

/-- That the nameservers are of one network is found by lookups alone, or in the cache. -/
theorem auditZone_enriched_oneOperator :
    Instant.before Instant.zero unprobed.deadline = false ∧ oneOperator.Alike none oneOperator ∧
    ∃ r r', (auditZone { unprobed with enrich := false } "example.com"
        (Session.live { unprobed with enrich := false } [] ⟨oneOperator, []⟩)).1 = .ok r ∧
      (auditZone { unprobed with enrich := true } "example.com"
        (Session.live { unprobed with enrich := true } [.audit "example.com"] ⟨oneOperator, []⟩)).1 =
          .ok r' ∧
      r.findings.map Finding.issue = [] ∧ r'.findings.map Finding.issue = [.singleNetwork] ∧
      r'.nameservers.map (fun ns => ns.ownership.length) = [1, 1] ∧ r.SameButOwners r' := by
  have halike : oneOperator.Alike none oneOperator :=
    .refl (Network.steady_of_constant oneOperator_constant)
  have hd : Instant.before Instant.zero unprobed.deadline = false := by decide +kernel
  have hplain : (auditZone { unprobed with enrich := false } "example.com"
      (Session.live { unprobed with enrich := false } [] ⟨oneOperator, []⟩)).1.toOption.map
        (fun r => r.findings.map Finding.issue) = some [] := by
    decide +kernel
  have hrich : (auditZone { unprobed with enrich := true } "example.com"
      (Session.live { unprobed with enrich := true } [.audit "example.com"]
        ⟨oneOperator, []⟩)).1.toOption.map (fun r => (r.findings.map Finding.issue,
          r.nameservers.map fun ns => ns.ownership.length)) = some ([.singleNetwork], [1, 1]) := by
    decide +kernel
  obtain ⟨r, hr, hnone⟩ := exists_of_map_toOption hplain
  obtain ⟨r', hr', hone⟩ := exists_of_map_toOption hrich
  obtain ⟨hissues, howners⟩ := Prod.ext_iff.mp hone
  obtain ⟨-, hsame⟩ := auditZone_enriched unprobed hd halike [] [.audit "example.com"] "example.com"
  exact ⟨hd, halike, r, r', hr, hr', hnone, hissues, howners, (hsame r r' hr hr').1⟩

end DelegationAudit
