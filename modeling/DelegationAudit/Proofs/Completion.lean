import DelegationAudit.Proofs.Script

namespace DelegationAudit

variable {τ : Type} [Instant τ]

theorem buildQuery_fault {name : String} {type : Dns.RecordType} {secure : Bool} {e : Failure}
    (h : buildQuery name type secure = .error e) : e.isResolution = true := by
  rw [buildQuery] at h
  split at h
  · cases h
  · cases h; rfl

namespace Client

variable (c : Client τ) (name : String) (type : Dns.RecordType) (server : String) (secure : Bool)

theorem ask_fault {w : Network τ} (hw : w.Orderly) {e : Failure}
    (h : (c.ask name type server secure w).1 = .error e) : e.isResolution = true := by
  rw [ask] at h
  split at h
  next f hb => cases h; exact buildQuery_fault hb
  next query _ =>
    split at h
    next f v he =>
      have ha : f.isAbsorbed = true := hw w .refl _ f (congrArg Prod.fst he)
      rw [if_pos ha] at h
      cases h
      rfl
    next answer v he =>
      split at h
      · cases h
      · cases h; rfl

theorem resolve_fault {w : Network τ} (hw : w.Orderly) {e : Failure}
    (h : (c.resolve name type server secure w).1 = .error e) : e.isResolution = true := by
  rw [resolve] at h
  split at h
  next f v he =>
    cases h
    exact c.ask_fault name type server secure hw (congrArg Prod.fst he)
  next outcome v he =>
    split at h
    · cases h; rfl
    · cases h

theorem resolve_nameless {fault : Dns.NameError} (h : Dns.Name.read name = .error fault)
    (w : Network τ) : c.resolve name type server secure w =
      (.error (.invalidQuestion name (.ofNameError fault)), w) := by
  simp only [resolve, ask, buildQuery, h]

end Client

/-- An address that is valid on every link. -/
def Net.Address.Unzoned : Net.Address → Prop
  | v4 _ => True
  | v6 a => a.zone = none

theorem Dns.addressesOf_unzoned (records : List Dns.Record) :
    ∀ a ∈ Dns.addressesOf records, a.Unzoned := by
  intro a ha
  obtain ⟨r, _, hr⟩ := List.mem_filterMap.mp ha
  rw [Dns.addressOf?] at hr
  split at hr
  · cases hr; trivial
  · cases hr; rfl
  · cases hr

/-- Nameservers whose addresses came out of records. -/
def Unzoned (nameservers : List Nameserver) : Prop :=
  ∀ ns ∈ nameservers, ∀ a ∈ ns.addresses, a.Unzoned

namespace Discovery

theorem addresses_unzoned {client : Client τ} {server host : String} {type : Dns.RecordType}
    {w v : Network τ} {found : List Net.Address}
    (h : addresses client server host type w = (.ok found, v)) : ∀ a ∈ found, a.Unzoned := by
  rw [addresses] at h
  split at h
  next records t u he =>
    cases h
    exact Dns.addressesOf_unzoned records
  next e u he =>
    split at h
    · cases h
      simp
    · cases h

theorem nameserver_unzoned {client : Client τ} {server host : String} {w v : Network τ}
    {ns : Nameserver} (h : nameserver client server host w = (.ok ns, v)) :
    ∀ a ∈ ns.addresses, a.Unzoned := by
  rw [nameserver] at h
  split at h
  next => cases h
  next v4 u h4 =>
    split at h
    next => cases h
    next v6 u' h6 =>
      cases h
      intro a ha
      rcases List.mem_append.mp ha with ha | ha
      · exact addresses_unzoned h4 a ha
      · exact addresses_unzoned h6 a ha

theorem nameservers_unzoned {client : Client τ} {server : String} {hosts : List String}
    {w v : Network τ} {found : List Nameserver}
    (h : nameservers client server hosts w = (.ok found, v)) : Unzoned found := by
  induction hosts generalizing w v found with
  | nil =>
    cases h
    simp [Unzoned]
  | cons host rest ih =>
    rw [nameservers] at h
    split at h
    next => cases h
    next ns u hn =>
      split at h
      next => cases h
      next more u' hr =>
        cases h
        intro m hm
        rcases List.mem_cons.mp hm with rfl | hm
        · exact nameserver_unzoned hn
        · exact ih hr m hm

theorem addresses_ok (client : Client τ) (server host : String) (type : Dns.RecordType)
    {w : Network τ} (hw : w.Orderly) :
    ∃ found v, addresses client server host type w = (.ok found, v) := by
  rw [addresses]
  split
  next records t v he => exact ⟨_, _, rfl⟩
  next e v he =>
    have hr := client.resolve_fault host type server false hw (congrArg Prod.fst he)
    rw [if_pos hr]
    exact ⟨_, _, rfl⟩

theorem nameserver_ok (client : Client τ) (server host : String) {w : Network τ} (hw : w.Orderly) :
    ∃ ns v, nameserver client server host w = (.ok ns, v) := by
  obtain ⟨v4, v, ha⟩ := addresses_ok client server host .a hw
  have hv : v.Orderly := hw.leads (by simpa [ha] using addresses_leads client server host .a w)
  obtain ⟨v6, u, hb⟩ := addresses_ok client server host .aaaa hv
  exact ⟨⟨host, v4 ++ v6, []⟩, u, by simp [nameserver, ha, hb]⟩

theorem nameservers_ok (client : Client τ) (server : String) (hosts : List String)
    {w : Network τ} (hw : w.Orderly) :
    ∃ found v, nameservers client server hosts w = (.ok found, v) := by
  induction hosts generalizing w with
  | nil => exact ⟨[], w, rfl⟩
  | cons host rest ih =>
    obtain ⟨ns, v, hn⟩ := nameserver_ok client server host hw
    have hv : v.Orderly := hw.leads (by simpa [hn] using nameserver_leads client server host w)
    obtain ⟨more, u, hr⟩ := ih hv
    exact ⟨ns :: more, u, by simp [nameservers, hn, hr]⟩

end Discovery

theorem discover_unzoned {client : Client τ} {server domain : String} {w v : Network τ}
    {found : List Nameserver} (h : discover client server domain w = (.ok found, v)) :
    Unzoned found := by
  rw [discover] at h
  split at h
  next => cases h
  next records t u he =>
    split at h
    next => cases h
    next => cases h
    next ns more u' hn =>
      cases h
      exact Discovery.nameservers_unzoned hn

/-- Discovery either finds nameservers or says that there are none. -/
theorem discover_cases (client : Client τ) (server domain : String) {w : Network τ}
    (hw : w.Orderly) :
    (∃ e v, discover client server domain w = (.error e, v) ∧ Scan.isNoNameservers e = true) ∨
      ∃ found v, discover client server domain w = (.ok found, v) := by
  rw [discover]
  split
  next e v he =>
    have hr := client.resolve_fault domain .ns server false hw (congrArg Prod.fst he)
    exact .inl ⟨_, v, rfl, by simp [hr, Scan.isNoNameservers]⟩
  next records t v he =>
    have hv : v.Orderly :=
      hw.leads (by simpa [he] using client.resolve_leads domain .ns server false w)
    obtain ⟨found, u, hn⟩ := Discovery.nameservers_ok client server (Dns.targetsOf records) hv
    rw [hn]
    cases found with
    | nil => exact .inl ⟨_, u, rfl, rfl⟩
    | cons ns more => exact .inr ⟨ns :: more, u, rfl⟩

namespace Ownership

theorem originName_ok {address : Net.Address} (h : address.Unzoned) :
    ∃ name, originName address = .ok name := by
  cases address with
  | v4 a => exact ⟨_, rfl⟩
  | v6 a =>
    have hz : a.zone = none := h
    exact ⟨_, by rw [originName, hz]⟩

namespace Source

theorem ask_fault (source : Source τ) (name : String) {w : Network τ} (hw : w.Orderly)
    {e : Failure} (h : (source.ask name w).1 = .error e) : e.isOwnership = true := by
  rw [ask] at h
  split at h
  next f v he =>
    have hr := source.client.resolve_fault name .txt source.server false hw (congrArg Prod.fst he)
    cases h
    rw [if_pos hr]
    rfl
  next records t v he => split at h <;> cases h

theorem organization_ok (source : Source τ) (asn : Int) {w : Network τ} (hw : w.Orderly) :
    ∃ name v, source.organization asn w = (.ok name, v) := by
  rw [organization]
  split
  next parts v he => exact ⟨_, _, rfl⟩
  next e v he =>
    have ho := source.ask_fault (networkName asn) hw (congrArg Prod.fst he)
    rw [if_pos ho]
    exact ⟨_, _, rfl⟩

theorem readOrigin_fault (source : Source τ) (key : String) (parts : List (List Char))
    {w : Network τ} (hw : w.Orderly) {e : Failure}
    (h : (source.readOrigin key parts w).1 = .error e) : e.isOwnership = true := by
  unfold readOrigin at h
  split at h
  next networks block country more =>
    split at h
    · cases h; rfl
    next asn _ =>
      obtain ⟨name, v, ho⟩ := source.organization_ok asn hw
      rw [ho] at h
      cases h
  next => cases h; rfl

theorem fetch_fault (source : Source τ) {address : Net.Address} (ha : address.Unzoned)
    {w : Network τ} (hw : w.Orderly) {e : Failure}
    (h : (source.fetch address w).1 = .error e) : e.isOwnership = true := by
  obtain ⟨name, hn⟩ := originName_ok ha
  have hl := source.ask_leads name w
  simp only [fetch, hn] at h
  split at h
  next f v he =>
    cases h
    exact source.ask_fault name hw (congrArg Prod.fst he)
  next parts v he =>
    rw [he] at hl
    exact source.readOrigin_fault _ _ (hw.leads hl) h

theorem lookup_fault (source : Source τ) {address : Net.Address} (ha : address.Unzoned)
    {s : Session τ} (hs : s.network.Orderly) {e : Failure}
    (h : (source.lookup address s).1 = .error e) : e.isOwnership = true := by
  have hl := source.remembered_leads address.text s
  rw [lookup] at h
  split at h
  next info s' he => cases h
  next s' he =>
    rw [he] at hl
    split at h
    next f v hf =>
      cases h
      exact source.fetch_fault ha (hs.leads hl) (congrArg Prod.fst hf)
    next => cases h

end Source

end Ownership

namespace Scan

theorem owners_ok (s : Scan τ) (host : String) {addresses : List Net.Address}
    (ha : ∀ a ∈ addresses, a.Unzoned) (known : List (String × Ownership)) {session : Session τ}
    (hs : session.network.Orderly) :
    ∃ found v, s.owners host addresses known session = (.ok found, v) := by
  induction addresses generalizing known session with
  | nil => exact ⟨known, session, rfl⟩
  | cons a rest ih =>
    have hl := s.source.lookup_leads a session
    have hrest : ∀ b ∈ rest, b.Unzoned := fun b hb => ha b (by simp [hb])
    rw [owners]
    split
    next o v he =>
      rw [he] at hl
      exact ih hrest _ (hs.leads hl)
    next e v he =>
      rw [he] at hl
      have ho := s.source.lookup_fault (ha a (by simp)) hs (congrArg Prod.fst he)
      rw [if_pos ho]
      exact ih hrest known (hs.leads (.note _ _ _ hl))

theorem enrichOne_ok (s : Scan τ) {ns : Nameserver} (hn : ∀ a ∈ ns.addresses, a.Unzoned)
    {p : Progress τ} (hp : p.session.network.Orderly) :
    ∃ found q, s.enrichOne ns p = (.ok found, q) := by
  rw [enrichOne]
  split
  next =>
    obtain ⟨known, v, ho⟩ := s.owners_ok ns.name hn [] hp
    rw [ho]
    exact ⟨_, _, rfl⟩
  next => exact ⟨ns, _, rfl⟩

theorem enrichAll_ok (s : Scan τ) {nameservers : List Nameserver} (hn : Unzoned nameservers)
    {p : Progress τ} (hp : p.session.network.Orderly) :
    ∃ found q, s.enrichAll nameservers p = (.ok found, q) := by
  induction nameservers generalizing p with
  | nil => exact ⟨[], p, rfl⟩
  | cons ns rest ih =>
    obtain ⟨found, q, ho⟩ := s.enrichOne_ok (hn ns (by simp)) hp
    have hq : q.session.network.Orderly :=
      hp.leads (by simpa [ho] using s.enrichOne_leads ns p)
    obtain ⟨more, r, hr⟩ := ih (fun m hm => hn m (by simp [hm])) hq
    simp only [enrichAll, ho, hr]
    exact ⟨_, r, rfl⟩

theorem enrich_ok (s : Scan τ) {nameservers : List Nameserver} (hn : Unzoned nameservers)
    {p : Progress τ} (hp : p.session.network.Orderly) :
    ∃ found q, s.enrich nameservers p = (.ok found, q) := by
  rw [enrich]
  split
  · exact s.enrichAll_ok hn hp
  · exact ⟨nameservers, p, rfl⟩

theorem question_ok (s : Scan τ) (name : String) (type : Dns.RecordType) (address : String)
    {w : Network τ} (hw : w.Orderly) :
    ∃ found v, s.question name type address w = (.ok found, v) := by
  rw [question]
  split
  next records t v he => exact ⟨_, _, rfl⟩
  next e v he =>
    have hr := (s.client.withPort authoritativePort).resolve_fault name type address false hw
      (congrArg Prod.fst he)
    rw [if_pos hr]
    exact ⟨_, _, rfl⟩

theorem check_ok (s : Scan τ) (name : String) (type : Dns.RecordType) (host address : String)
    {p : Progress τ} (hp : p.session.network.Orderly) :
    ∃ found q, s.check name type host address p = (.ok found, q) := by
  obtain ⟨⟨records, error⟩, v, hq⟩ := s.question_ok name type address hp
  simp only [check, hq]
  exact ⟨_, _, rfl⟩

theorem probeOne_ok (s : Scan τ) (name : String) (delegated : List String) (host : String)
    (address : Net.Address) (h : Harvest) {p : Progress τ} (hp : p.session.network.Orderly) :
    ∃ found q, s.probeOne name delegated host address h p = (.ok found, q) := by
  obtain ⟨⟨soa, soaFailed⟩, q, hs⟩ := s.check_ok name .soa host address.text hp
  have hq : q.session.network.Orderly :=
    hp.leads (by simpa [hs] using s.check_leads name .soa host address.text p)
  obtain ⟨⟨served, nsFailed⟩, r, hn⟩ := s.check_ok name .ns host address.text hq
  simp only [probeOne, hs, hn]
  exact ⟨_, _, rfl⟩

theorem probeAll_ok (s : Scan τ) (name : String) (delegated : List String)
    (targets : List (String × Net.Address)) (h : Harvest) {p : Progress τ}
    (hp : p.session.network.Orderly) :
    ∃ found q, s.probeAll name delegated targets h p = (.ok found, q) := by
  induction targets generalizing h p with
  | nil => exact ⟨h, p, rfl⟩
  | cons target rest ih =>
    obtain ⟨host, a⟩ := target
    rw [probeAll]
    split
    next =>
      obtain ⟨h', q, ho⟩ := s.probeOne_ok name delegated host a h (p := p.looked) hp
      have hq : q.session.network.Orderly :=
        hp.leads (by simpa [ho] using s.probeOne_leads name delegated host a h p.looked)
      rw [ho]
      exact ih h' hq
    next => exact ⟨h, _, rfl⟩

theorem probe_ok (s : Scan τ) (name : String) {p : Progress τ} (hp : p.session.network.Orderly) :
    ∃ q, s.probe name p = (.ok (), q) := by
  obtain ⟨h, q, ha⟩ := s.probeAll_ok name (delegation p.report.nameservers)
    (targets p.report.nameservers) ⟨[], []⟩ hp
  simp only [probe, ha]
  exact ⟨_, rfl⟩

theorem examine_ok (s : Scan τ) (name : String) {nameservers : List Nameserver}
    (hn : Unzoned nameservers) {p : Progress τ} (hp : p.session.network.Orderly) :
    ∃ q, s.examine name nameservers p = (.ok (), q) := by
  obtain ⟨found, q, he⟩ := s.enrich_ok hn hp
  have hq : q.session.network.Orderly :=
    hp.leads (by simpa [he] using s.enrich_leads nameservers p)
  simp only [examine, he]
  split
  · exact s.probe_ok name (p := inspect found q) hq
  · exact ⟨_, rfl⟩

theorem survey_ok (s : Scan τ) (zone : String) {session : Session τ}
    (hs : session.network.Orderly) : ∃ p, s.survey zone session = (.ok (), p) := by
  have hl := discover_leads s.client s.settings.resolver (Dns.absolute zone) session.network
  unfold survey
  rcases discover_cases s.client s.settings.resolver (Dns.absolute zone) hs with
    ⟨e, v, hd, he⟩ | ⟨found, v, hd⟩
  · simp only [hd, he]
    exact ⟨_, rfl⟩
  · have hu := discover_unzoned hd
    rw [hd] at hl ⊢
    exact s.examine_ok _ hu (p := s.begin zone { session with network := v }) (hs.leads hl)

theorem survey_unreadable (s : Scan τ) (zone : String) (session : Session τ)
    {fault : Dns.NameError} (h : Dns.Name.read (Dns.absolute zone) = .error fault) :
    ∃ e, s.survey zone session = (.ok (), s.abandon zone e (s.begin zone session)) := by
  unfold survey discover
  rw [s.client.resolve_nameless _ _ _ _ h]
  exact ⟨_, rfl⟩

end Scan

/-- How long an audit took, from the two states of its session. -/
def elapsed (before after : Session τ) : Except Number.NotFinite Int :=
  Instant.millis (Instant.sub after.network.clock before.network.clock)

theorem auditZone_of_survey {settings : Settings τ} {target : String} {session : Session τ}
    {p : Progress τ}
    (h : (Scan.start settings session.network.clock).survey (Zone.normalize target) session =
      (.ok (), p)) :
    auditZone settings target session =
      (Scan.stamp (elapsed session p.session) p.report.finalize, p.session) := by
  unfold auditZone
  dsimp only
  rw [h]
  rfl

/-- The report of a survey that came to an end, or its failure, with the time put in last. -/
theorem auditZone_outcome {settings : Settings τ} {target : String} {session : Session τ}
    {r : Except Failure Unit} {p : Progress τ}
    (h : (Scan.start settings session.network.clock).survey (Zone.normalize target) session = (r, p)) :
    (auditZone settings target session).1 = (r.map fun _ => p.report.finalize).bind
      (Scan.stamp (elapsed session (auditZone settings target session).2)) := by
  unfold auditZone
  dsimp only
  rw [h]
  cases r <;> rfl

theorem auditZone_session (settings : Settings τ) (target : String) (session : Session τ) :
    (auditZone settings target session).2 =
      ((Scan.start settings session.network.clock).survey (Zone.normalize target) session).2.session := by
  unfold auditZone
  dsimp only
  split
  next e p he => rw [he]
  next p he => rw [he, Scan.finish_session]

theorem Scan.stamp_ok_iff (spent : Except Number.NotFinite Int) (r : Report) :
    (∃ report, Scan.stamp spent r = .ok report) ↔ ∃ millis, spent = .ok millis := by
  cases spent <;> simp [Scan.stamp]

/-- A report that says no more than that there are no nameservers. -/
structure Report.Abandoned (r : Report) : Prop where
  finding : ∃ f, r.findings = [f] ∧ f.issue = .noNameservers
  broken : r.overall = .broken
  nobody : r.nameservers = []

omit [Instant τ] in
theorem Scan.abandon_stamped (s : Scan τ) (zone : String) (e : Failure) (session : Session τ)
    {spent : Except Number.NotFinite Int} {report : Report}
    (h : stamp spent (s.abandon zone e (s.begin zone session)).report.finalize = .ok report) :
    report.Abandoned := by
  cases spent with
  | error f => cases h
  | ok millis =>
    cases h
    exact ⟨⟨_, rfl, rfl⟩, rfl, rfl⟩

/-- On an orderly network an audit gives a report just when the time it took can be told in whole
thousandths, and otherwise it fails with that fault alone: nothing that servers, records or the text
of the zone do can make it fail. A zone whose name cannot be read is reported without a message. -/
theorem auditZone_returns_iff (settings : Settings τ) (target : String) (session : Session τ)
    (h : session.network.Orderly) :
    ((∃ report, (auditZone settings target session).1 = .ok report) ↔
      ∃ millis, elapsed session (auditZone settings target session).2 = .ok millis) ∧
    (∀ e, elapsed session (auditZone settings target session).2 = .error e →
      (auditZone settings target session).1 = .error (.ofNotFinite e)) ∧
    (∀ fault, Dns.Name.read (Dns.absolute (Zone.normalize target)) = .error fault →
      (auditZone settings target session).2.network.calls = session.network.calls ∧
      (auditZone settings target session).2.network.clock = session.network.clock ∧
      ∀ report, (auditZone settings target session).1 = .ok report → report.Abandoned) := by
  obtain ⟨p, hp⟩ :=
    (Scan.start settings session.network.clock).survey_ok (Zone.normalize target) h
  rw [auditZone_of_survey hp]
  refine ⟨Scan.stamp_ok_iff _ _, ?_, ?_⟩
  · intro e he
    rw [he]
    rfl
  · intro fault hf
    obtain ⟨e, hs⟩ := (Scan.start settings session.network.clock).survey_unreadable _ session hf
    have hq : p = _ := congrArg Prod.snd (hp.symm.trans hs)
    rw [hq]
    exact ⟨rfl, rfl, fun report hr => Scan.abandon_stamped _ _ _ _ hr⟩

/-- Nobody answers, and the one message that is sent takes an age. -/
def leap : Session Float := ⟨.start 0 1e306 [] [], []⟩

theorem leap_orderly : leap.network.Orderly :=
  Network.orderly_of_start (by simp)

/-- Both readings of the clock are finite, but the time between them in thousandths is not. -/
theorem auditZone_leap_fails :
    leap.network.Orderly ∧ leap.network.clock.isFinite = true ∧
      (auditZone .default "example.com" leap).2.network.clock.isFinite = true ∧
      ¬ ∃ report, (auditZone .default "example.com" leap).1 = .ok report := by
  have hspent : ∃ e, elapsed leap (auditZone .default "example.com" leap).2 = .error e := by
    have h : (elapsed leap (auditZone .default "example.com" leap).2).isOk = false := by
      decide +kernel
    cases he : elapsed leap (auditZone .default "example.com" leap).2 with
    | error e => exact ⟨e, rfl⟩
    | ok millis =>
      rw [he] at h
      cases h
  obtain ⟨e, he⟩ := hspent
  refine ⟨leap_orderly, by decide +kernel, by decide +kernel, ?_⟩
  rw [(auditZone_returns_iff .default "example.com" leap leap_orderly).1, he]
  rintro ⟨millis, hm⟩
  cases hm

end DelegationAudit
