import DelegationAudit.Proofs.TwoRuns

namespace DelegationAudit

variable {τ : Type} [Instant τ]

namespace Scan

theorem start_endless {settings : Settings τ}
    (hd : Instant.before Instant.zero settings.deadline = false) (now : τ) :
    start settings now = ⟨settings, none⟩ := by simp [start, hd]

/-- A finding of a failed check or of a difference is about an address of a nameserver. -/
structure Located (r : Report) : Prop where
  unzoned : Unzoned r.nameservers
  about : ∀ f ∈ r.findings, f.issue = .checkFailed ∨ f.issue = .inconsistent →
    ∃ ns ∈ r.nameservers, ∃ a ∈ ns.addresses, f.About ns.name a.text

theorem probe_located {s : Scan τ} {name : String} {p q : Progress τ}
    (hp : Located p.report) (h : s.probe name p = (.ok (), q)) : Located q.report := by
  obtain ⟨os, fs, hr, -, hfs⟩ := s.probeAll_grows name (delegation p.report.nameservers)
    (targets p.report.nameservers) ⟨[], []⟩ p
  rw [probe] at h
  split at h
  next => cases h
  next harvest p' he =>
    rw [he] at hr
    dsimp only at hr
    cases h
    refine ⟨?_, ?_⟩
    · simp only [Progress.observe, Report.observe, hr, Report.grow]
      exact hp.unzoned
    intro f hf hi
    simp only [Progress.observe, Report.observe, hr, Report.grow] at hf ⊢
    rcases List.mem_append.mp hf with hf | hf
    · exact hp.about f hf hi
    · rcases hfs f hf with hd | ⟨t, ht, habout⟩
      · rw [hd] at hi
        rcases hi with hi | hi <;> cases hi
      · obtain ⟨ns, hns, hm⟩ := List.mem_flatMap.mp ht
        obtain ⟨a, ha, rfl⟩ := List.mem_map.mp hm
        exact ⟨ns, hns, a, ha, habout⟩

theorem examine_located {s : Scan τ} {name : String} {nameservers : List Nameserver}
    {p q : Progress τ} (hu : Unzoned nameservers) (hp : p.report.findings = [])
    (h : s.examine name nameservers p = (.ok (), q)) : Located q.report := by
  obtain ⟨os, fs, hr, hlate⟩ := s.enrich_grows nameservers p
  rw [examine] at h
  split at h
  next => cases h
  next enriched p' he =>
    rw [he] at hr
    dsimp only at hr
    have hlocal : Located (inspect enriched p').report := by
      refine ⟨?_, ?_⟩
      · rw [inspect_nameservers]
        exact unzoned_of_hosts (s.enrich_hosts he) hu
      intro f hf hi
      rw [inspect_report, hr] at hf
      simp only [Report.grow, hp, List.nil_append] at hf
      rcases List.mem_append.mp hf with hf | hf
      · rw [hlate.findings f hf] at hi
        rcases hi with hi | hi <;> cases hi
      · have hissue := Topology.issue_of_mem_findings hf
        rcases hi with hi | hi <;> simp [hi] at hissue
    split at h
    · exact probe_located hlocal h
    · cases h
      exact hlocal

theorem survey_located {s : Scan τ} {zone : String} {session : Session τ} {p : Progress τ}
    (h : s.survey zone session = (.ok (), p)) : Located p.report := by
  unfold survey at h
  split at h
  next e w he =>
    dsimp only at h
    split at h
    · cases h
      refine ⟨by simp [abandon, begin, Progress.add, Progress.note, Report.add, Report.start, Unzoned], ?_⟩
      intro f hf hi
      simp only [abandon, begin, Progress.add, Progress.note, Report.add, Report.start,
        List.nil_append, List.mem_singleton] at hf
      rw [hf] at hi
      rcases hi with hi | hi <;> cases hi
    · cases h
  next nameservers w he => exact examine_located (discover_unzoned he) rfl h

end Scan

/-- An audit on a tool that has seen many audits, and time pass between them, comes to the same
outcome as one on a fresh tool where the same replies are given: one report but for the time that each
took, or one failure. -/
theorem auditZone_eq_fresh (settings : Settings τ)
    (hd : Instant.before Instant.zero settings.deadline = false) {v w : Network τ}
    (h : v.Alike none w) (events : List (Event τ)) (target : String) :
    ∃ outcome : Except Failure Report,
      (auditZone settings target (Session.live settings events ⟨v, []⟩)).1 =
        outcome.bind (Scan.stamp (elapsed (Session.live settings events ⟨v, []⟩)
          (auditZone settings target (Session.live settings events ⟨v, []⟩)).2)) ∧
      (auditZone settings target ⟨w, []⟩).1 =
        outcome.bind (Scan.stamp (elapsed ⟨w, []⟩ (auditZone settings target ⟨w, []⟩).2)) := by
  have hcoherent : settings.source.Coherent (Session.live settings events ⟨v, []⟩) :=
    Session.live_coherent (.nothing h.left) events
  have hleads := Session.live_leads settings events ⟨v, []⟩
  have hfresh : settings.source.Coherent ⟨w, []⟩ := .nothing h.right
  generalize Session.live settings events ⟨v, []⟩ = used at hcoherent hleads ⊢
  have halike : used.Alike none settings.source ⟨w, []⟩ := ⟨h.leads hleads .refl, hcoherent, hfresh⟩
  generalize (⟨w, []⟩ : Session τ) = fresh at halike ⊢
  have hends := Scan.survey_alike (s := ⟨settings, none⟩) rfl (Option.some_ne_none _) halike
    (Zone.normalize target)
  cases hx : (⟨settings, none⟩ : Scan τ).survey (Zone.normalize target) used with
  | mk r p =>
    cases hy : (⟨settings, none⟩ : Scan τ).survey (Zone.normalize target) fresh with
    | mk r' q =>
      rw [hx, hy] at hends
      have hsame : (r.map fun _ => p.report.finalize) = r'.map fun _ => q.report.finalize := by
        cases hends with
        | ok ha => rw [ha.same rfl]
        | error he =>
          rw [he rfl]
          rfl
        | left hn => exact (hn rfl).elim
        | right hn => exact (hn rfl).elim
      rw [← Scan.start_endless hd used.network.clock] at hx
      rw [← Scan.start_endless hd fresh.network.clock] at hy
      refine ⟨_, auditZone_outcome hx, ?_⟩
      rw [hsame]
      exact auditZone_outcome hy

/-- One nameserver with two addresses, of which the first has a known owner, and what else the first
address says. -/
def twoAddresses (first : List (Rule Float)) : Network Float :=
  let a : Dns.Name := .single 97
  .start 0 1 ([
    .always none "example.com." "NS" (.ok ⟨.noError, [⟨a, 60, [.ns a]⟩]⟩),
    .always none "a." "A" (.ok ⟨.noError, [⟨a, 60, [.a (.ofNat 0xC0000201), .a (.ofNat 0xC6336401)]⟩]⟩),
    .always none "1.2.0.192.origin.asn.cymru.com." "TXT"
      (.ok ⟨.noError, [⟨a, 60, [.txt [[54, 52, 52, 57, 54, 124, 124]]]⟩]⟩)] ++ first) []

theorem twoAddresses_constant {first : List (Rule Float)} (h : ∀ r ∈ first, r.Constant) :
    ∀ r ∈ (twoAddresses first).rules, r.Constant :=
  Network.forall_start (List.forall_mem_append.mpr ⟨by simp, h⟩)

def endless : Settings Float := { Settings.default with deadline := 0 }

/-- A second audit finds an owner in the cache and sends less, for the same report. -/
theorem auditZone_eq_fresh_remembered :
    Instant.before Instant.zero endless.deadline = false ∧
    (twoAddresses []).Alike none (twoAddresses []) ∧
    (auditZone endless "example.com" ⟨twoAddresses [], []⟩).2.network.calls.length = 10 ∧
    (auditZone endless "example.com" (Session.live endless [.audit "example.com", .wait 10]
      ⟨twoAddresses [], []⟩)).2.network.calls.length = 10 + 8 ∧
    ∃ outcome : Except Failure Report,
      (auditZone endless "example.com" (Session.live endless [.audit "example.com", .wait 10]
        ⟨twoAddresses [], []⟩)).1 =
        outcome.bind (Scan.stamp (elapsed (Session.live endless [.audit "example.com", .wait 10]
          ⟨twoAddresses [], []⟩) (auditZone endless "example.com" (Session.live endless
            [.audit "example.com", .wait 10] ⟨twoAddresses [], []⟩)).2)) ∧
      (auditZone endless "example.com" ⟨twoAddresses [], []⟩).1 =
        outcome.bind (Scan.stamp (elapsed ⟨twoAddresses [], []⟩
          (auditZone endless "example.com" ⟨twoAddresses [], []⟩).2)) := by
  have hsteady : (twoAddresses []).Steady :=
    Network.steady_of_constant (twoAddresses_constant (by simp))
  have hd : Instant.before Instant.zero endless.deadline = false := by decide +kernel
  exact ⟨hd, .refl hsteady, by decide +kernel, by decide +kernel,
    auditZone_eq_fresh endless hd (.refl hsteady) [.audit "example.com", .wait 10] "example.com"⟩

theorem survey_of_report {settings : Settings τ} {target : String} {session : Session τ} {r : Report}
    (h : (auditZone settings target session).1 = .ok r) :
    ∃ p millis, (Scan.start settings session.network.clock).survey (Zone.normalize target) session =
      (.ok (), p) ∧ r = p.report.finalize.observe (.timing millis) := by
  cases hs : (Scan.start settings session.network.clock).survey (Zone.normalize target) session with
  | mk r' p =>
    rw [auditZone_outcome hs] at h
    cases r' with
    | error e => cases h
    | ok _ =>
      change Scan.stamp _ p.report.finalize = .ok r at h
      unfold Scan.stamp at h
      split at h
      next => cases h
      next millis _ =>
        cases h
        exact ⟨p, millis, rfl, rfl⟩

theorem auditZone_names {settings : Settings τ} {target : String} {session : Session τ} {r : Report}
    (h : (auditZone settings target session).1 = .ok r) :
    r.zone = Zone.normalize target ∧
      r.parent = Dns.parentOf (Dns.absolute (Zone.normalize target)) := by
  obtain ⟨p, millis, hs, rfl⟩ := survey_of_report h
  have hnames := (Scan.start settings session.network.clock).survey_names (Zone.normalize target) session
  rw [hs] at hnames
  exact Prod.ext_iff.mp hnames

/-- What is reported does not depend on one server, the resolver apart, but for the findings about it
and the entry of its probe; and a finding about an address is one about an address of a nameserver. -/
theorem auditZone_same_but_for (settings : Settings τ)
    (hd : Instant.before Instant.zero settings.deadline = false) {x : String}
    (hx : x ≠ settings.resolver) {v w : Network τ} (h : v.Alike (some x) w) (target : String)
    {r r' : Report} (hr : (auditZone settings target ⟨v, []⟩).1 = .ok r)
    (hr' : (auditZone settings target ⟨w, []⟩).1 = .ok r') :
    r.nameservers = r'.nameservers ∧
    r.findings.filter (fun f => f.address? != some x) =
      r'.findings.filter (fun f => f.address? != some x) ∧
    r.entries.filter (fun p => p.address != x) = r'.entries.filter (fun p => p.address != x) ∧
    ∀ f ∈ r.findings, f.issue = .checkFailed ∨ f.issue = .inconsistent →
      ∃ ns ∈ r.nameservers, ∃ a ∈ ns.addresses, f.About ns.name a.text ∧ f.address? = some a.text := by
  obtain ⟨p, millis, hp, rfl⟩ := survey_of_report hr
  obtain ⟨q, millis', hq, rfl⟩ := survey_of_report hr'
  have hlocated := Scan.survey_located hp
  rw [Scan.start_endless hd] at hp hq
  have halike : Session.Alike (some x) settings.source ⟨v, []⟩ ⟨w, []⟩ :=
    ⟨h, .nothing h.left, .nothing h.right⟩
  have hs : some settings.resolver ≠ some x := fun he => hx (Option.some.inj he).symm
  have hends := Scan.survey_alike (s := ⟨settings, none⟩) rfl hs halike (Zone.normalize target)
  rw [hp, hq] at hends
  cases hends with
  | ok ha =>
    have hentries : ∀ (r : Report) (millis : Int),
        (r.finalize.observe (.timing millis)).entries = r.entries := by
      intro r millis
      simp [Report.entries, Report.finalize, Report.observe, Observation.entries]
    refine ⟨ha.nameservers, ?_, ?_, ?_⟩
    · exact ha.findings
    · rw [hentries, hentries]
      have hshown : (fun e : Probe => e.address != x) = Probe.shown (some x) := by
        funext e
        simp [Probe.shown, bne]
      rw [hshown]
      exact ha.entries
    · intro f hf hi
      obtain ⟨ns, hns, a, haddress, habout⟩ := hlocated.about f hf hi
      exact ⟨ns, hns, a, haddress, habout, habout.address? (hlocated.unzoned ns hns a haddress)⟩

/-- A nameserver of another network at one address: it refuses one question and differs in the other. -/
def astray : List (Rule Float) :=
  let b : Dns.Name := .single 98
  [.always (some "192.0.2.1") "example.com." "SOA" (.ok ⟨(Dns.ResponseCode.ofInt? 5).getD .noError, []⟩),
    .always (some "192.0.2.1") "example.com." "NS" (.ok ⟨.noError, [⟨b, 60, [.ns b]⟩]⟩)]

theorem astray_alike : (twoAddresses []).Alike (some "192.0.2.1") (twoAddresses astray) := by
  refine Network.alike_of_constant (twoAddresses_constant (by simp)) 
    (twoAddresses_constant (by simp [astray])) ?_
  simp [twoAddresses, astray, Network.start, addRule, Rule.sameKey, Rule.always]

/-- The reports differ in what the one address did, and in nothing else. -/
theorem auditZone_same_but_for_astray :
    ∃ r r', (auditZone endless "example.com" ⟨twoAddresses [], []⟩).1 = .ok r ∧
      (auditZone endless "example.com" ⟨twoAddresses astray, []⟩).1 = .ok r' ∧
      r.entries ≠ r'.entries ∧ r.findings.length ≠ r'.findings.length ∧
      r.nameservers = r'.nameservers ∧
      r.findings.filter (fun f => f.address? != some "192.0.2.1") =
        r'.findings.filter (fun f => f.address? != some "192.0.2.1") ∧
      r.entries.filter (fun p => p.address != "192.0.2.1") =
        r'.entries.filter (fun p => p.address != "192.0.2.1") := by
  have hd : Instant.before Instant.zero endless.deadline = false := by decide +kernel
  have hdiffer : ((auditZone endless "example.com" ⟨twoAddresses [], []⟩).1.toOption.bind fun r =>
      (auditZone endless "example.com" ⟨twoAddresses astray, []⟩).1.toOption.map fun r' =>
        decide (r.entries ≠ r'.entries ∧ r.findings.length ≠ r'.findings.length)) = some true := by
    decide +kernel
  cases hr : (auditZone endless "example.com" ⟨twoAddresses [], []⟩).1 with
  | error e =>
    rw [hr] at hdiffer
    cases hdiffer
  | ok r =>
    cases hr' : (auditZone endless "example.com" ⟨twoAddresses astray, []⟩).1 with
    | error e =>
      rw [hr, hr'] at hdiffer
      cases hdiffer
    | ok r' =>
      rw [hr, hr'] at hdiffer
      obtain ⟨hentries, hfindings⟩ := of_decide_eq_true (Option.some.inj hdiffer)
      obtain ⟨hnameservers, hshown, hprobes, -⟩ :=
        auditZone_same_but_for endless hd (by decide) astray_alike "example.com" hr hr'
      exact ⟨r, r', rfl, rfl, hentries, hfindings, hnameservers, hshown, hprobes⟩

end DelegationAudit
