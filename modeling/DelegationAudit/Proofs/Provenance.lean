import DelegationAudit.Proofs.Contents
import DelegationAudit.Proofs.Steady

namespace DelegationAudit

open Dns

variable {τ : Type} [Instant τ]

/-- What an audit asks: the resolver, or an address out of a record. -/
def Asked (resolver server : String) : Prop :=
  server = resolver ∨ ∃ a : Net.Address, a.Unzoned ∧ server = a.text

/-- A failure in which a question ends on the way from a network. -/
def Network.Met (resolver : String) (w : Network τ) (e : Failure) : Prop :=
  ∃ (c : Client τ) (name : String) (type : RecordType) (server : String) (v : Network τ),
    w.Leads v ∧ Asked resolver server ∧ (c.resolve name type server false v).1 = .error e

/-- An owner that a lookup gives on the way from a session. -/
def Session.Learned (source : Ownership.Source τ) (session : Session τ) (o : Ownership) : Prop :=
  ∃ a t, session.Passes source t ∧ (source.lookup a t).1 = .ok o

/-- A nameserver out of records, with owners that were learned. -/
structure Nameserver.Traced (source : Ownership.Source τ) (session : Session τ) (ns : Nameserver) :
    Prop where
  host : ∃ n : Name, ns.name = n.text
  unzoned : ∀ a ∈ ns.addresses, a.Unzoned
  owners : ∀ entry ∈ ns.ownership, session.Learned source entry.2

/-- A finding that a scan of a zone makes on the way from a session. -/
inductive Finding.Traced (s : Scan τ) (zone : String) (session : Session τ) : Finding → Prop
  | noNameservers {cause : Failure} (h : session.network.Met s.settings.resolver cause ∨
      cause = .noNameservers (absolute zone) .absent) :
      Traced s zone session (s.noNameservers zone (absolute zone) cause)
  | deadline (step : Step) : Traced s zone session (s.deadlineFinding zone step)
  | noAddress {ns : Nameserver} (host : ∃ n : Name, ns.name = n.text) :
      Traced s zone session (Topology.noAddress zone ns)
  | privateAddress {ns : Nameserver} (host : ∃ n : Name, ns.name = n.text) {a : Net.Address}
      (ha : a.Unzoned) : Traced s zone session (Topology.privateAddress zone ns a)
  | singleNameserver (nameservers : List Nameserver) :
      Traced s zone session (Topology.singleNameserver zone nameservers)
  | sameSubnet (v4 : List Net.IPv4) : Traced s zone session (Topology.oneSubnet zone v4)
  | singleNetwork (asn : Int) : Traced s zone session (Topology.oneNetwork zone asn)
  | checkFailed (type : RecordType) (host : Name) {a : Net.Address} (ha : a.Unzoned) {e : Failure}
      (he : session.network.Met s.settings.resolver e) :
      Traced s zone session (Check.failure ⟨type.text, host.text, a.text, zone⟩ e)
  | inconsistent (host : Name) {a : Net.Address} (ha : a.Unzoned) (delegated served : List String) :
      Traced s zone session (Scan.inconsistent zone host.text a.text delegated served)

/-- A report of which everything is traced. -/
structure Report.Traced (s : Scan τ) (zone : String) (session : Session τ) (r : Report) : Prop where
  about : r.zone = zone
  resolver : r.resolver = s.settings.resolver
  findings : ∀ f ∈ r.findings, f.Traced s zone session
  nameservers : ∀ ns ∈ r.nameservers, ns.Traced s.source session

namespace Report.Traced

variable {s : Scan τ} {zone : String} {session : Session τ} {r : Report}

theorem addAll (h : r.Traced s zone session) {fs : List Finding}
    (hfs : ∀ f ∈ fs, f.Traced s zone session) : (r.addAll fs).Traced s zone session where
  about := h.about
  resolver := h.resolver
  findings f hf := (List.mem_append.mp hf).elim (h.findings f) (hfs f)
  nameservers := h.nameservers

theorem add (h : r.Traced s zone session) {f : Finding} (hf : f.Traced s zone session) :
    (r.add f).Traced s zone session := by
  rw [add_eq_addAll]
  exact h.addAll (by simpa using hf)

theorem observe (h : r.Traced s zone session) (o : Observation) :
    (r.observe o).Traced s zone session :=
  ⟨h.about, h.resolver, h.findings, h.nameservers⟩

theorem finalize (h : r.Traced s zone session) : r.finalize.Traced s zone session :=
  ⟨h.about, h.resolver, h.findings, h.nameservers⟩

end Report.Traced

namespace Scan

variable {s : Scan τ} {zone : String} {session : Session τ}

theorem mem_setOwner {key : String} {o : Ownership} {known : List (String × Ownership)}
    {entry : String × Ownership} (h : entry ∈ setOwner key o known) : entry.2 = o ∨ entry ∈ known := by
  induction known with
  | nil =>
    rw [setOwner, List.mem_singleton] at h
    exact .inl (congrArg Prod.snd h)
  | cons first rest ih =>
    obtain ⟨k, v⟩ := first
    rw [setOwner] at h
    split at h
    · rcases List.mem_cons.mp h with rfl | h
      · exact .inl rfl
      · exact .inr (List.mem_cons_of_mem _ h)
    · rcases List.mem_cons.mp h with rfl | h
      · exact .inr List.mem_cons_self
      · exact (ih h).imp_right (List.mem_cons_of_mem _)

theorem owners_learned {host : String} {addresses : List Net.Address}
    {known found : List (String × Ownership)} {t u : Session τ} (hp : session.Passes s.source t)
    (h : s.owners host addresses known t = (.ok found, u))
    (hknown : ∀ entry ∈ known, session.Learned s.source entry.2) :
    ∀ entry ∈ found, session.Learned s.source entry.2 := by
  induction addresses generalizing known t with
  | nil =>
    cases h
    exact hknown
  | cons a rest ih =>
    have hnext : session.Passes s.source (s.source.lookup a t).2 := hp.lookup a
    rw [owners] at h
    split at h
    next o v he =>
      rw [he] at hnext
      have hlearned : session.Learned s.source o := ⟨a, t, hp, congrArg Prod.fst he⟩
      refine ih hnext h fun entry hentry => ?_
      rcases mem_setOwner hentry with ho | hentry
      · exact ho ▸ hlearned
      · exact hknown entry hentry
    next e v he =>
      rw [he] at hnext
      split at h
      · exact ih (hnext.network (.note _ _ _ .refl)) h hknown
      · cases h

theorem enrichOne_traced {ns found : Nameserver} {p q : Progress τ}
    (hp : session.Passes s.source p.session) (h : s.enrichOne ns p = (.ok found, q))
    (hns : ns.Traced s.source session) : found.Traced s.source session := by
  rw [enrichOne] at h
  split at h
  · split at h
    next => cases h
    next known t ho =>
      cases h
      exact ⟨hns.host, hns.unzoned, owners_learned hp ho (by simp)⟩
  · cases h
    exact hns

theorem enrichAll_traced {nameservers found : List Nameserver} {p q : Progress τ}
    (hp : session.Passes s.source p.session) (h : s.enrichAll nameservers p = (.ok found, q))
    (hns : ∀ ns ∈ nameservers, ns.Traced s.source session) :
    ∀ ns ∈ found, ns.Traced s.source session := by
  induction nameservers generalizing p found with
  | nil =>
    cases h
    simp
  | cons ns rest ih =>
    have hnext := hp.trans (enrichOne_passes ns p)
    rw [enrichAll] at h
    split at h
    next => cases h
    next ns' p' ho =>
      rw [ho] at hnext
      split at h
      next => cases h
      next more p'' hm =>
        cases h
        refine List.forall_mem_cons.mpr ⟨enrichOne_traced hp ho (hns ns (by simp)), ?_⟩
        exact ih hnext hm fun m hmem => hns m (by simp [hmem])

theorem enrich_traced {nameservers found : List Nameserver} {p q : Progress τ}
    (hp : session.Passes s.source p.session) (h : s.enrich nameservers p = (.ok found, q))
    (hns : ∀ ns ∈ nameservers, ns.Traced s.source session) :
    ∀ ns ∈ found, ns.Traced s.source session := by
  rw [enrich] at h
  split at h
  · exact enrichAll_traced hp h hns
  · cases h
    exact hns

theorem skip_traced {p : Progress τ} (h : p.report.Traced s zone session) (step : Step) :
    (s.skip step p).report.Traced s zone session := by
  rw [skip]
  split
  · exact h
  · have hfinding : (s.deadlineFinding p.report.zone step).Traced s zone session := by
      rw [h.about]
      exact .deadline step
    exact (h.observe (.skipped step)).add hfinding

theorem inspect_traced {p : Progress τ} (h : p.report.Traced s zone session)
    {nameservers : List Nameserver} (hns : ∀ ns ∈ nameservers, ns.Traced s.source session) :
    (inspect nameservers p).report.Traced s zone session := by
  rw [inspect_report]
  refine ⟨h.about, h.resolver, fun f hf => ?_, hns⟩
  rw [h.about] at hf
  rcases List.mem_append.mp hf with hf | hf
  · exact h.findings f hf
  · rcases Topology.mem_findings hf with
      ⟨ns, hm, rfl⟩ | ⟨ns, hm, a, ha, rfl⟩ | rfl | ⟨v4, rfl⟩ | ⟨asn, rfl⟩
    · exact .noAddress (hns ns hm).host
    · exact .privateAddress (hns ns hm).host ((hns ns hm).unzoned a ha)
    · exact .singleNameserver nameservers
    · exact .sameSubnet v4
    · exact .singleNetwork asn

theorem question_met {name : String} {type : RecordType} {address : String} {w w' : Network τ}
    {records : List Record} {e : Failure} {resolver : String} (ha : Asked resolver address)
    (hl : session.network.Leads w)
    (h : s.question name type address w = (.ok (records, some e), w')) :
    session.network.Met resolver e := by
  rw [question] at h
  split at h
  next => cases h
  next f v hf =>
    split at h
    · cases h
      exact ⟨_, _, _, _, _, hl, ha, congrArg Prod.fst hf⟩
    · cases h

variable {p : Progress τ}

theorem check_traced (hl : session.network.Leads p.session.network)
    (h : p.report.Traced s zone session) (name : String) (type : RecordType) (host : Name)
    {a : Net.Address} (ha : a.Unzoned) :
    (s.check name type host.text a.text p).2.report.Traced s zone session := by
  rw [check]
  split
  · exact h
  next records error w hq =>
    dsimp only
    rw [record_report, h.about]
    refine h.addAll fun f hf => ?_
    obtain ⟨e, rfl, rfl⟩ := classify_finding (Option.mem_toList.mp hf)
    exact .checkFailed type host ha (question_met (.inr ⟨a, ha, rfl⟩) hl hq)

theorem probeOne_traced (hl : session.network.Leads p.session.network)
    (h : p.report.Traced s zone session) (name : String) (delegated : List String) (host : Name)
    {a : Net.Address} (ha : a.Unzoned) (harvest : Harvest) :
    (s.probeOne name delegated host.text a harvest p).2.report.Traced s zone session := by
  have hsoa := check_traced hl h name .soa host ha
  have hleads := hl.trans (s.check_leads name .soa host.text a.text p)
  rw [probeOne]
  split
  next e q he => rwa [he] at hsoa
  next soa soaFailed q he =>
    rw [he] at hsoa hleads
    have hns := check_traced hleads hsoa name .ns host ha
    split
    next e q' he' => rwa [he'] at hns
    next served nsFailed q' he' =>
      rw [he'] at hns
      dsimp only
      split
      · refine hns.add ?_
        rw [hns.about]
        exact .inconsistent host ha _ _
      · exact hns

theorem probeAll_traced (hl : session.network.Leads p.session.network)
    (h : p.report.Traced s zone session) (name : String) (delegated : List String)
    {targets : List (String × Net.Address)}
    (ht : ∀ t ∈ targets, (∃ n : Name, t.1 = n.text) ∧ t.2.Unzoned) (harvest : Harvest) :
    (s.probeAll name delegated targets harvest p).2.report.Traced s zone session := by
  induction targets generalizing harvest p with
  | nil => exact h
  | cons target rest ih =>
    obtain ⟨host, a⟩ := target
    obtain ⟨⟨⟨n, rfl⟩, ha⟩, hrest⟩ := List.forall_mem_cons.mp ht
    have ho := probeOne_traced (p := p.looked) hl h name delegated n ha harvest
    have hleads := hl.trans (s.probeOne_leads name delegated n.text a harvest p.looked)
    rw [probeAll]
    split
    · split
      next e q he => rwa [he] at ho
      next harvest' q he =>
        rw [he] at ho hleads
        exact ih hleads ho hrest harvest'
    · exact skip_traced (p := p.looked) h .probes

theorem probe_traced (hl : session.network.Leads p.session.network)
    (h : p.report.Traced s zone session) (name : String) :
    (s.probe name p).2.report.Traced s zone session := by
  have htargets : ∀ t ∈ targets p.report.nameservers, (∃ n : Name, t.1 = n.text) ∧ t.2.Unzoned := by
    intro t ht
    obtain ⟨ns, hns, ht⟩ := List.mem_flatMap.mp ht
    obtain ⟨a, ha, rfl⟩ := List.mem_map.mp ht
    exact ⟨(h.nameservers ns hns).host, (h.nameservers ns hns).unzoned a ha⟩
  have hall := probeAll_traced hl h name (delegation p.report.nameservers) htargets ⟨[], []⟩
  rw [probe]
  split
  next e q he => rwa [he] at hall
  next harvest q he =>
    rw [he] at hall
    exact (hall.observe (.probes harvest.probes)).observe _

theorem examine_traced (hp : session.Passes s.source p.session) (h : p.report.Traced s zone session)
    (name : String) {nameservers : List Nameserver}
    (hns : ∀ ns ∈ nameservers, ns.Traced s.source session) :
    (s.examine name nameservers p).2.report.Traced s zone session := by
  have he := s.enrich_keeps skip_traced h nameservers
  have hpasses := hp.trans (enrich_passes nameservers p)
  rw [examine]
  split
  next e q hq => rwa [hq] at he
  next enriched q hq =>
    rw [hq] at he hpasses
    have hlocal : (inspect enriched q).report.Traced s zone session :=
      inspect_traced he (enrich_traced hp hq hns)
    have hleads : session.network.Leads (inspect enriched q).session.network := hpasses.leads
    split
    · exact probe_traced hleads hlocal name
    · exact hlocal

theorem discover_traced {client : Client τ} {server domain : String} {w v : Network τ}
    {found : List Nameserver} (h : discover client server domain w = (.ok found, v)) :
    ∀ ns ∈ found, ns.Traced s.source session := by
  intro ns hns
  obtain ⟨-, name, -, hnames⟩ := discover_names h
  have hmem : ns.name ∈ found.map Nameserver.name := List.mem_map_of_mem hns
  rw [hnames] at hmem
  obtain ⟨n, -, hn⟩ := List.mem_map.mp hmem
  exact ⟨⟨n, hn.symm⟩, discover_unzoned h ns hns, by simp [discover_unowned h ns hns]⟩

/-- What stands behind a failed discovery is that a question to the resolver failed, or that there is no
nameserver in its answer. -/
theorem discover_met {client : Client τ} {server domain : String} {w v : Network τ} {e : Failure}
    (h : discover client server domain w = (.error e, v)) (hnone : isNoNameservers e = true) :
    w.Met server (rootCause e) ∨ rootCause e = .noNameservers domain .absent := by
  rw [discover] at h
  split at h
  next f u hf =>
    have hmet : w.Met server f := ⟨_, _, _, _, _, .refl, .inl rfl, congrArg Prod.fst hf⟩
    cases h
    split
    next hresolution =>
      cases f with
      | absent => cases hresolution
      | _ => exact .inl hmet
    next hresolution =>
      rw [if_neg hresolution] at hnone
      cases f with
      | noNameservers => exact absurd rfl hresolution
      | _ => cases hnone
  next records t u he =>
    split at h
    next f u' hf =>
      cases h
      have hfatal := Discovery.nameservers_fatal client server (congrArg Prod.fst hf)
      rw [hfatal.isNoNameservers] at hnone
      cases hnone
    next =>
      cases h
      exact .inr rfl
    next => cases h

theorem survey_traced (zone : String) (session : Session τ) :
    (s.survey zone session).2.report.Traced s zone session := by
  have hbegin : ∀ t, (s.begin zone t).report.Traced s zone session :=
    fun _ => ⟨rfl, rfl, by simp [begin, Report.start], by simp [begin, Report.start]⟩
  have hleads := discover_leads s.client s.settings.resolver (absolute zone) session.network
  unfold survey
  split
  next e w hd =>
    dsimp only
    split
    next hnone =>
      have hfinding : (s.noNameservers zone (absolute zone) (rootCause e)).Traced s zone session :=
        .noNameservers (discover_met hd hnone)
      exact (hbegin { session with network := w }).add hfinding
    next => exact hbegin _
  next nameservers w hd =>
    rw [hd] at hleads
    have hpasses : session.Passes s.source (s.begin zone { session with network := w }).session :=
      Session.Passes.refl.network hleads
    exact examine_traced hpasses (hbegin _) _ (discover_traced hd)

end Scan

end DelegationAudit
