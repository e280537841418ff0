import DelegationAudit.Proofs.Completion
import DelegationAudit.Proofs.Findings
import DelegationAudit.Proofs.Recall

namespace DelegationAudit

variable {τ : Type} [Instant τ]

/-- Alike networks, and caches that agree with them; the caches themselves may differ. -/
structure Session.Alike (hidden : Option String) (source : Ownership.Source τ) (v w : Session τ) :
    Prop where
  network : v.network.Alike hidden w.network
  left : source.Coherent v
  right : source.Coherent w

theorem Ownership.Source.lookup_alike {hidden : Option String} {source : Source τ} {v w : Session τ}
    (h : v.Alike hidden source w) (hs : some source.server ≠ hidden) (a : Net.Address) :
    (source.lookup a v).1 = (source.lookup a w).1 ∧
      (source.lookup a v).2.Alike hidden source (source.lookup a w).2 := by
  constructor
  · rw [lookup_eq_fetch h.left, lookup_eq_fetch h.right, source.fetch_alike h.network hs]
  · exact ⟨h.network.leads (source.lookup_leads a v) (source.lookup_leads a w),
      lookup_coherent h.left a, lookup_coherent h.right a⟩

namespace Scan

variable {hidden : Option String} {s : Scan τ} (hx : s.expires = none)
  (hs : some s.settings.resolver ≠ hidden)

include hs in
theorem owners_alike {v w : Session τ} (h : v.Alike hidden s.source w) (host : String)
    (addresses : List Net.Address) (known : List (String × Ownership)) :
    (s.owners host addresses known v).1 = (s.owners host addresses known w).1 := by
  induction addresses generalizing known v w with
  | nil => rfl
  | cons a rest ih =>
    obtain ⟨hl, hsession⟩ := Ownership.Source.lookup_alike h hs a
    unfold owners
    obtain ⟨r, v', w', hv, hw⟩ := exists_of_fst_eq hl
    rw [hv, hw] at hsession ⊢
    cases r with
    | ok o => exact ih hsession _
    | error e =>
      dsimp only
      split
      · refine ih ⟨hsession.network.leads (.note _ _ _ .refl) (.note _ _ _ .refl), ?_, ?_⟩ known
        · exact hsession.left.leads (.note _ _ _ .refl)
        · exact hsession.right.leads (.note _ _ _ .refl)
      · rfl

include hx

theorem inTime_of_endless (p : Progress τ) : s.inTime p = true := by rw [inTime, hx]

theorem enrichOne_report (ns : Nameserver) (p : Progress τ) :
    (s.enrichOne ns p).2.report = p.report := by
  rw [enrichOne]
  rw [inTime_of_endless hx, if_pos rfl]
  split <;> rfl

theorem enrichAll_report (nameservers : List Nameserver) (p : Progress τ) :
    (s.enrichAll nameservers p).2.report = p.report := by
  induction nameservers generalizing p with
  | nil => rfl
  | cons ns rest ih =>
    have ho := enrichOne_report hx ns p
    rw [enrichAll]
    split
    next e q he => rwa [he] at ho
    next ns' q he =>
      rw [he] at ho
      have hr := ih q
      split
      next e r hq => rw [hq] at hr; exact hr.trans ho
      next more r hq => rw [hq] at hr; exact hr.trans ho

theorem enrich_report (nameservers : List Nameserver) (p : Progress τ) :
    (s.enrich nameservers p).2.report = p.report := by
  rw [enrich]
  split
  · exact enrichAll_report hx nameservers p
  · rfl

include hs

theorem enrichOne_alike {p q : Progress τ} (h : p.session.Alike hidden s.source q.session)
    (ns : Nameserver) : (s.enrichOne ns p).1 = (s.enrichOne ns q).1 := by
  have ho := owners_alike hs h ns.name ns.addresses []
  unfold enrichOne
  rw [inTime_of_endless hx, inTime_of_endless hx, if_pos rfl, if_pos rfl]
  obtain ⟨r, v, w, hv, hw⟩ := exists_of_fst_eq ho
  rw [hv, hw]
  cases r <;> rfl

theorem enrichAll_alike {p q : Progress τ} (h : p.session.Alike hidden s.source q.session)
    (nameservers : List Nameserver) :
    (s.enrichAll nameservers p).1 = (s.enrichAll nameservers q).1 := by
  induction nameservers generalizing p q with
  | nil => rfl
  | cons ns rest ih =>
    have ho := enrichOne_alike hx hs h ns
    have hsession : (s.enrichOne ns p).2.session.Alike hidden s.source
        (s.enrichOne ns q).2.session :=
      ⟨h.network.leads (s.enrichOne_leads ns p) (s.enrichOne_leads ns q),
        enrichOne_coherent h.left ns, enrichOne_coherent h.right ns⟩
    unfold enrichAll
    obtain ⟨r, p', q', hp, hq⟩ := exists_of_fst_eq ho
    rw [hp, hq] at hsession ⊢
    cases r with
    | error e => rfl
    | ok ns' =>
      dsimp only
      obtain ⟨r, p'', q'', hp, hq⟩ := exists_of_fst_eq (ih hsession)
      rw [hp, hq]
      cases r <;> rfl

theorem enrich_alike {p q : Progress τ} (h : p.session.Alike hidden s.source q.session)
    (nameservers : List Nameserver) :
    (s.enrich nameservers p).1 = (s.enrich nameservers q).1 := by
  unfold enrich
  split
  · exact enrichAll_alike hx hs h nameservers
  · rfl

end Scan

/-- What stands in the last brackets of a text that ends with them. -/
def bracketed (place : String) : String :=
  String.ofList ((place.toList.reverse.drop 1).takeWhile (· != '(')).reverse

theorem bracketed_place (host : String) {address : String} (h : '(' ∉ address.toList) :
    bracketed (host ++ " (" ++ address ++ ")") = address := by
  have hr : ∀ c ∈ address.toList.reverse, (c != '(') = true := by
    intro c hc
    rw [bne_iff_ne]
    rintro rfl
    exact h (List.mem_reverse.mp hc)
  rw [bracketed]
  simp [List.takeWhile_append_of_pos hr]

/-- The address that a finding is about, where it is about one address of a nameserver. -/
def Finding.address? (f : Finding) : Option String :=
  if f.issue == .checkFailed || f.issue == .inconsistent then f.server.map bracketed else none

theorem Net.Address.Unzoned.bracket_not_mem {a : Net.Address} (h : a.Unzoned) :
    '(' ∉ a.text.toList := by
  intro hm
  cases a with
  | v4 a =>
    rcases Net.IPv4.mem_chars (a := a) (by simpa [Net.Address.text, Net.IPv4.text] using hm) with
      hc | ⟨d, hd⟩
    · exact absurd hc (by decide)
    · exact Nat.digitChar_ne '(' (by decide) hd.symm
  | v6 a =>
    have hz : a.zone = none := h
    have hp : '(' ∈ a.plainChars := by
      simpa [Net.Address.text, Net.IPv6.text, Net.IPv6.chars, hz] using hm
    exact Net.IPv6.not_mem_plainChars (by decide) (fun d => Nat.digitChar_ne '(' (by decide)) a hp

theorem Finding.About.address? {host : String} {a : Net.Address} {f : Finding}
    (h : f.About host a.text) (ha : a.Unzoned) : f.address? = some a.text := by
  have hi : (f.issue == .checkFailed || f.issue == .inconsistent) = true := by
    rcases h.issue with hi | hi <;> simp [hi]
  rw [Finding.address?, if_pos hi, h.server, Option.map_some, bracketed_place host ha.bracket_not_mem]

/-- What can be seen without the hidden server. -/
def Finding.shown (hidden : Option String) (f : Finding) : Bool :=
  hidden.isNone || f.address? != hidden

def Probe.shown (hidden : Option String) (p : Probe) : Bool := some p.address != hidden

theorem filter_shown_about {host : String} {a : Net.Address} (ha : a.Unzoned) {fs : List Finding}
    (h : ∀ f ∈ fs, f.About host a.text) : fs.filter (Finding.shown (some a.text)) = [] := by
  rw [List.filter_eq_nil_iff]
  intro f hf
  simp [Finding.shown, (h f hf).address? ha]

/-- A report but for its findings. -/
def Report.bare (r : Report) : Report := { r with findings := [] }

@[simp] theorem Report.bare_addAll (fs : List Finding) (r : Report) : (r.addAll fs).bare = r.bare := rfl

theorem Report.eq_of_bare {r r' : Report} (hb : r.bare = r'.bare) (hf : r.findings = r'.findings) :
    r = r' := by
  cases r
  cases r'
  simp only [bare, mk.injEq] at hb hf ⊢
  exact ⟨hb.1, hb.2.1, hb.2.2.1, hb.2.2.2.1, hb.2.2.2.2.1, hb.2.2.2.2.2.1, hf⟩

theorem filter_shown_none (fs : List Finding) : fs.filter (Finding.shown none) = fs := by
  rw [List.filter_eq_self]
  intro f _
  rfl

theorem filter_probes_none (ps : List Probe) : ps.filter (Probe.shown none) = ps := by
  rw [List.filter_eq_self]
  intro p _
  rfl

/-- Two reports that look alike without the hidden server, and are one where none is hidden. -/
structure Report.Alike (hidden : Option String) (r r' : Report) : Prop where
  zone : r.zone = r'.zone
  nameservers : r.nameservers = r'.nameservers
  findings : r.findings.filter (Finding.shown hidden) = r'.findings.filter (Finding.shown hidden)
  entries : r.entries.filter (Probe.shown hidden) = r'.entries.filter (Probe.shown hidden)
  same : hidden = none → r = r'

theorem Report.Alike.of_eq {hidden : Option String} {r r' : Report} (h : r = r') : r.Alike hidden r' := by
  subst h
  exact ⟨rfl, rfl, rfl, rfl, fun _ => rfl⟩

namespace Scan

/-- Two stages of probing that look alike without the hidden server. -/
structure Matched (hidden : Option String) (h : Harvest) (p : Progress τ) (h' : Harvest)
    (q : Progress τ) : Prop where
  network : p.session.network.Alike hidden q.session.network
  bare : p.report.bare = q.report.bare
  findings : p.report.findings.filter (Finding.shown hidden) =
    q.report.findings.filter (Finding.shown hidden)
  probes : h.probes.filter (Probe.shown hidden) = h'.probes.filter (Probe.shown hidden)
  served : hidden = none → h.served = h'.served

theorem Matched.looked {hidden : Option String} {h h' : Harvest} {p q : Progress τ}
    (hm : Matched hidden h p h' q) : Matched hidden h p.looked h' q.looked :=
  ⟨hm.network, hm.bare, hm.findings, hm.probes, hm.served⟩

/-- Two outcomes: where no server is hidden both are failures or none is, and the failures are one. -/
inductive Agree (hidden : Option String) {α : Type} (R : α → Progress τ → α → Progress τ → Prop) :
    Except Failure α × Progress τ → Except Failure α × Progress τ → Prop
  | ok {a b : α} {p q : Progress τ} (h : R a p b q) : Agree hidden R (.ok a, p) (.ok b, q)
  | error {e f : Failure} {p q : Progress τ} (h : hidden = none → e = f) :
      Agree hidden R (.error e, p) (.error f, q)
  | left {e : Failure} {b : α} {p q : Progress τ} (h : hidden ≠ none) :
      Agree hidden R (.error e, p) (.ok b, q)
  | right {a : α} {f : Failure} {p q : Progress τ} (h : hidden ≠ none) :
      Agree hidden R (.ok a, p) (.error f, q)

variable {hidden : Option String} {s : Scan τ}

omit [Instant τ] in
theorem Agree.of_error_left {α : Type} {R : α → Progress τ → α → Progress τ → Prop}
    (h : hidden ≠ none) (e : Failure) (p : Progress τ) (y : Except Failure α × Progress τ) :
    Agree hidden R (.error e, p) y := by
  obtain ⟨r, q⟩ := y
  cases r with
  | error f => exact .error fun hn => absurd hn h
  | ok b => exact .left h

omit [Instant τ] in
theorem Agree.of_error_right {α : Type} {R : α → Progress τ → α → Progress τ → Prop}
    (h : hidden ≠ none) (f : Failure) (q : Progress τ) (x : Except Failure α × Progress τ) :
    Agree hidden R x (.error f, q) := by
  obtain ⟨r, p⟩ := x
  cases r with
  | error e => exact .error fun hn => absurd hn h
  | ok a => exact .right h

theorem Matched.zone {h h' : Harvest} {p q : Progress τ} (hm : Matched hidden h p h' q) :
    p.report.zone = q.report.zone := by
  have hz : p.report.bare.zone = q.report.bare.zone := by rw [hm.bare]
  exact hz

omit [Instant τ] in
theorem add_report {p : Progress τ} {r : Report} {fs : List Finding} (h : p.report = r.addAll fs)
    (f : Finding) : (p.add f).report = r.addAll (fs ++ [f]) := by
  rw [Progress.add, h, Report.add_eq_addAll, Report.addAll_addAll]

theorem Matched.adds {h h' k k' : Harvest} {p q p' q' : Progress τ} {fs gs : List Finding}
    (hm : Matched hidden h p h' q)
    (hn : p'.session.network.Alike hidden q'.session.network)
    (hp : p'.report = p.report.addAll fs) (hq : q'.report = q.report.addAll gs)
    (hfs : fs.filter (Finding.shown hidden) = gs.filter (Finding.shown hidden))
    (hprobes : k.probes.filter (Probe.shown hidden) = k'.probes.filter (Probe.shown hidden))
    (hserved : hidden = none → k.served = k'.served) : Matched hidden k p' k' q' where
  network := hn
  bare := by rw [hp, hq, Report.bare_addAll, Report.bare_addAll, hm.bare]
  findings := by
    rw [hp, hq, Report.addAll_findings, Report.addAll_findings, List.filter_append,
      List.filter_append, hm.findings, hfs]
  probes := hprobes
  served := hserved

theorem question_alike {v w : Network τ} (h : v.Alike hidden w) {address : String}
    (ha : some address ≠ hidden) (name : String) (type : Dns.RecordType) :
    (s.question name type address v).1 = (s.question name type address w).1 := by
  have hr := (s.client.withPort authoritativePort).resolve_alike h ha name type false
  unfold question
  rcases exists_of_map_fst_eq hr with ⟨e, v', w', hv, hw⟩ |
      ⟨⟨records, t⟩, ⟨records', t'⟩, v', w', hv, hw, ho⟩
  · rw [hv, hw]
    dsimp only
    split <;> rfl
  · rw [hv, hw]
    dsimp only at ho ⊢
    rw [ho]

theorem check_alike {p q : Progress τ} (h : p.session.network.Alike hidden q.session.network)
    (hz : p.report.zone = q.report.zone) {address : String} (ha : some address ≠ hidden)
    (name : String) (type : Dns.RecordType) (host : String) :
    (s.check name type host address p).1 = (s.check name type host address q).1 ∧
      ∃ fs, (s.check name type host address p).2.report = p.report.addAll fs ∧
        (s.check name type host address q).2.report = q.report.addAll fs := by
  have hq := question_alike h ha name type (s := s)
  unfold check
  obtain ⟨r, v, w, hv, hw⟩ := exists_of_fst_eq hq
  rw [hv, hw]
  cases r with
  | error e => exact ⟨rfl, [], by simp, by simp⟩
  | ok answer =>
    obtain ⟨records, error⟩ := answer
    dsimp only
    rw [hz]
    exact ⟨rfl, _, record_report _ _, record_report _ _⟩

/-- A probe of a server that is not hidden is served the same on both sides, and finds the same. -/
theorem probeOne_same {p q : Progress τ} (h : p.session.network.Alike hidden q.session.network)
    (hz : p.report.zone = q.report.zone) {a : Net.Address} (ha : some a.text ≠ hidden) (name : String)
    (delegated : List String) (host : String) (k k' : Harvest) :
    Outcomes Eq (fun l l' : Harvest => ∃ served entry,
        l = ⟨Dns.merge [k.served, served], k.probes ++ [entry]⟩ ∧
        l' = ⟨Dns.merge [k'.served, served], k'.probes ++ [entry]⟩)
      (s.probeOne name delegated host a k p).1 (s.probeOne name delegated host a k' q).1 ∧
    ∃ fs, (s.probeOne name delegated host a k p).2.report = p.report.addAll fs ∧
      (s.probeOne name delegated host a k' q).2.report = q.report.addAll fs := by
  obtain ⟨hsoa, fs, hfp, hfq⟩ := check_alike h hz ha name .soa host (s := s)
  have hnet := h.leads (s.check_leads name .soa host a.text p) (s.check_leads name .soa host a.text q)
  unfold probeOne
  obtain ⟨r, p₁, q₁, hp₁, hq₁⟩ := exists_of_fst_eq hsoa
  rw [hp₁, hq₁]
  rw [hp₁] at hfp hnet
  rw [hq₁] at hfq hnet
  cases r with
  | error e => exact ⟨.error rfl, fs, hfp, hfq⟩
  | ok soa =>
    have hz₁ : p₁.report.zone = q₁.report.zone := by rw [hfp, hfq]; exact hz
    obtain ⟨hns, gs, hgp, hgq⟩ := check_alike hnet hz₁ ha name .ns host (s := s)
    dsimp only
    obtain ⟨r, p₂, q₂, hp₂, hq₂⟩ := exists_of_fst_eq hns
    rw [hp₂, hq₂]
    rw [hp₂, hfp, Report.addAll_addAll] at hgp
    rw [hq₂, hfq, Report.addAll_addAll] at hgq
    cases r with
    | error e => exact ⟨.error rfl, fs ++ gs, hgp, hgq⟩
    | ok answer =>
      obtain ⟨served, nsFailed⟩ := answer
      dsimp only at hgp hgq ⊢
      have hz₂ : p₂.report.zone = q₂.report.zone := by rw [hgp, hgq]; exact hz
      refine ⟨.ok ⟨served, _, rfl, rfl⟩, ?_⟩
      rw [hz₂]
      split
      · exact ⟨fs ++ gs ++ [_], add_report hgp _, add_report hgq _⟩
      · exact ⟨fs ++ gs, hgp, hgq⟩

theorem probeOne_open {h h' : Harvest} {p q : Progress τ} (hm : Matched hidden h p h' q)
    {a : Net.Address} (ha : some a.text ≠ hidden) (name : String) (delegated : List String)
    (host : String) :
    Agree hidden (Matched hidden) (s.probeOne name delegated host a h p)
      (s.probeOne name delegated host a h' q) := by
  have hleads := hm.network.leads (s.probeOne_leads name delegated host a h p)
    (s.probeOne_leads name delegated host a h' q)
  obtain ⟨hserved, fs, hp, hq⟩ := probeOne_same hm.network hm.zone ha name delegated host h h' (s := s)
  generalize s.probeOne name delegated host a h p = x at hleads hserved hp ⊢
  generalize s.probeOne name delegated host a h' q = y at hleads hserved hq ⊢
  obtain ⟨r, p'⟩ := x
  obtain ⟨r', q'⟩ := y
  cases hserved with
  | error he => exact .error fun _ => he
  | ok hl =>
    obtain ⟨served, entry, rfl, rfl⟩ := hl
    refine .ok (hm.adds hleads hp hq rfl ?_ fun hn => ?_)
    · rw [List.filter_append, List.filter_append, hm.probes]
    · rw [hm.served hn]

theorem probeOne_hidden {h h' : Harvest} {p q : Progress τ} {a : Net.Address} (ha : a.Unzoned)
    (hm : Matched (some a.text) h p h' q) (name : String) (delegated : List String)
    (host : String) :
    Agree (some a.text) (Matched (some a.text)) (s.probeOne name delegated host a h p)
      (s.probeOne name delegated host a h' q) := by
  have hleads := hm.network.leads (s.probeOne_leads name delegated host a h p)
    (s.probeOne_leads name delegated host a h' q)
  obtain ⟨fs, hfs, hfsAbout⟩ := s.probeOne_adds name delegated host a h p
  obtain ⟨gs, hgs, hgsAbout⟩ := s.probeOne_adds name delegated host a h' q
  have hne : some a.text ≠ none := Option.some_ne_none _
  cases hx : s.probeOne name delegated host a h p with
  | mk r p' =>
    cases hy : s.probeOne name delegated host a h' q with
    | mk r' q' =>
      rw [hx] at hleads hfs
      rw [hy] at hleads hgs
      cases r with
      | error e => exact .of_error_left hne e p' _
      | ok k =>
        cases r' with
        | error f => exact .of_error_right hne f q' _
        | ok k' =>
          obtain ⟨entry, hentry, _, haddress⟩ := s.probeOne_probes hx
          obtain ⟨entry', hentry', _, haddress'⟩ := s.probeOne_probes hy
          have hgone : ∀ entry : Probe, entry.address = a.text →
              [entry].filter (Probe.shown (some a.text)) = [] := by
            intro entry he
            simp [Probe.shown, he]
          refine .ok (hm.adds hleads hfs hgs ?_ ?_ fun hn => absurd hn hne)
          · rw [filter_shown_about ha hfsAbout, filter_shown_about ha hgsAbout]
          · rw [hentry, hentry', List.filter_append, List.filter_append, hgone entry haddress,
              hgone entry' haddress', hm.probes]

theorem probeAll_matched (hx : s.expires = none) {h h' : Harvest} {p q : Progress τ}
    (hm : Matched hidden h p h' q) (name : String) (delegated : List String)
    {targets : List (String × Net.Address)} (ht : ∀ t ∈ targets, t.2.Unzoned) :
    Agree hidden (Matched hidden) (s.probeAll name delegated targets h p)
      (s.probeAll name delegated targets h' q) := by
  induction targets generalizing h h' p q with
  | nil => exact .ok hm
  | cons target rest ih =>
    obtain ⟨host, a⟩ := target
    have ho : Agree hidden (Matched hidden) (s.probeOne name delegated host a h p.looked)
        (s.probeOne name delegated host a h' q.looked) := by
      by_cases ha : some a.text = hidden
      · subst ha
        exact probeOne_hidden (ht (host, a) (by simp)) hm.looked name delegated host
      · exact probeOne_open hm.looked ha name delegated host
    have hrest : ∀ t ∈ rest, t.2.Unzoned := fun t hmem => ht t (by simp [hmem])
    unfold probeAll
    rw [inTime_of_endless hx, inTime_of_endless hx, if_pos rfl, if_pos rfl]
    generalize s.probeOne name delegated host a h p.looked = x at ho ⊢
    generalize s.probeOne name delegated host a h' q.looked = y at ho ⊢
    cases ho with
    | ok hm' => exact ih hm' hrest
    | error he => exact .error he
    | left hn => exact .of_error_left hn _ _ _
    | right hn => exact .of_error_right hn _ _ _

/-- The reports at the end of two scans that look alike without the hidden server. -/
abbrev Ends (hidden : Option String) :
    Except Failure Unit × Progress τ → Except Failure Unit × Progress τ → Prop :=
  Agree hidden fun _ p _ q => p.report.Alike hidden q.report

theorem Matched.report {h h' : Harvest} {p q : Progress τ} (hm : Matched hidden h p h' q) :
    ((p.observe (.probes h.probes)).observe
      (.servedNames ((Dns.targetsOf h.served).map lowerText))).report.Alike hidden
    ((q.observe (.probes h'.probes)).observe
      (.servedNames ((Dns.targetsOf h'.served).map lowerText))).report := by
  have hb := hm.bare
  have hobservations : p.report.observations = q.report.observations := by
    have ho : p.report.bare.observations = q.report.bare.observations := by rw [hb]
    exact ho
  have hnameservers : p.report.nameservers = q.report.nameservers := by
    have hn : p.report.bare.nameservers = q.report.bare.nameservers := by rw [hb]
    exact hn
  refine ⟨hm.zone, hnameservers, hm.findings, ?_, ?_⟩
  · simp only [Report.entries, Progress.observe, Report.observe, hobservations, List.flatMap_append,
      List.filter_append, List.flatMap_singleton, Observation.entries, hm.probes]
  · intro hn
    have hfindings : p.report.findings = q.report.findings := by
      have hf := hm.findings
      rw [hn, filter_shown_none, filter_shown_none] at hf
      exact hf
    have hprobes : h.probes = h'.probes := by
      have hp := hm.probes
      rw [hn, filter_probes_none, filter_probes_none] at hp
      exact hp
    rw [Progress.observe, Progress.observe, Progress.observe, Progress.observe,
      Report.eq_of_bare hb hfindings, hprobes, hm.served hn]

theorem probe_alike (hx : s.expires = none) {p q : Progress τ}
    (h : p.session.network.Alike hidden q.session.network) (hr : p.report = q.report)
    (hu : Unzoned p.report.nameservers) (name : String) :
    Ends hidden (s.probe name p) (s.probe name q) := by
  have hm : Matched hidden ⟨[], []⟩ p ⟨[], []⟩ q :=
    ⟨h, by rw [hr], by rw [hr], rfl, fun _ => rfl⟩
  have ht : ∀ t ∈ targets p.report.nameservers, t.2.Unzoned := by
    intro t ht
    obtain ⟨ns, hns, hm⟩ := List.mem_flatMap.mp ht
    obtain ⟨a, ha, rfl⟩ := List.mem_map.mp hm
    exact hu ns hns a ha
  have hall := probeAll_matched hx hm name (delegation p.report.nameservers) ht
  unfold probe
  rw [← hr]
  generalize s.probeAll name (delegation p.report.nameservers) (targets p.report.nameservers)
    ⟨[], []⟩ p = x at hall ⊢
  generalize s.probeAll name (delegation p.report.nameservers) (targets p.report.nameservers)
    ⟨[], []⟩ q = y at hall ⊢
  cases hall with
  | ok hm' => exact .ok hm'.report
  | error he => exact .error he
  | left hn => exact .left hn
  | right hn => exact .right hn

theorem unzoned_of_hosts {given found : List Nameserver}
    (h : found.map Nameserver.host = given.map Nameserver.host)
    (hu : Unzoned given) : Unzoned found := by
  intro ns hns a ha
  have hm : ns.host ∈ given.map Nameserver.host :=
    h ▸ List.mem_map_of_mem hns
  obtain ⟨m, hm, he⟩ := List.mem_map.mp hm
  have haddresses : m.addresses = ns.addresses := congrArg Prod.snd he
  exact hu m hm a (haddresses ▸ ha)

theorem examine_alike (hx : s.expires = none) (hs : some s.settings.resolver ≠ hidden)
    {p q : Progress τ} (h : p.session.Alike hidden s.source q.session) (hr : p.report = q.report)
    {nameservers : List Nameserver} (hu : Unzoned nameservers) (name : String) :
    Ends hidden (s.examine name nameservers p) (s.examine name nameservers q) := by
  have he := enrich_alike hx hs h nameservers
  have hnet := h.network.leads (s.enrich_leads nameservers p) (s.enrich_leads nameservers q)
  have hp := enrich_report hx nameservers p
  have hq := enrich_report hx nameservers q
  unfold examine
  obtain ⟨r, p', q', hp', hq'⟩ := exists_of_fst_eq he
  rw [hp', hq'] at hnet ⊢
  rw [hp'] at hp
  rw [hq'] at hq
  cases r with
  | error e => exact .error fun _ => rfl
  | ok enriched =>
    have hreports : (inspect enriched p').report = (inspect enriched q').report := by
      rw [inspect_report, inspect_report, hp, hq, hr]
    have hfound := unzoned_of_hosts (s.enrich_hosts hp') hu
    dsimp only
    split
    · refine probe_alike (p := inspect enriched p') (q := inspect enriched q') hx hnet hreports ?_ name
      rw [inspect_nameservers]
      exact hfound
    · exact .ok (.of_eq hreports)

theorem survey_alike (hx : s.expires = none) (hs : some s.settings.resolver ≠ hidden)
    {v w : Session τ} (h : v.Alike hidden s.source w) (zone : String) :
    Ends hidden (s.survey zone v) (s.survey zone w) := by
  have hd := discover_alike h.network s.client hs (Dns.absolute zone)
  have hv := discover_leads s.client s.settings.resolver (Dns.absolute zone) v.network
  have hw := discover_leads s.client s.settings.resolver (Dns.absolute zone) w.network
  unfold survey
  obtain ⟨r, v', w', hv', hw'⟩ := exists_of_fst_eq hd
  rw [hv'] at hv ⊢
  rw [hw'] at hw ⊢
  cases r with
  | error e =>
    dsimp only
    split
    · exact .ok (.of_eq rfl)
    · exact .error fun _ => rfl
  | ok nameservers =>
    have hu := discover_unzoned hv'
    have hsession : Session.Alike hidden s.source ⟨v', v.cache⟩ ⟨w', w.cache⟩ :=
      ⟨h.network.leads hv hw, h.left.leads hv, h.right.leads hw⟩
    exact examine_alike hx hs (p := s.begin zone ⟨v', v.cache⟩) (q := s.begin zone ⟨w', w.cache⟩)
      hsession rfl hu (Dns.absolute zone)

end Scan

end DelegationAudit
