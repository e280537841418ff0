import DelegationAudit.Proofs.Weights

namespace DelegationAudit

namespace Report

/-- The observations under these keys, in order. -/
def observed (keys : List String) (r : Report) : List Observation :=
  r.observations.filter fun o => keys.contains o.key

variable {keys : List String} {r : Report}

theorem observed_grow {os : List Observation} (h : ∀ o ∈ os, o.key ∉ keys) (fs : List Finding) :
    (r.grow os fs).observed keys = r.observed keys := by
  have hnone : os.filter (fun o => keys.contains o.key) = [] := by
    rw [List.filter_eq_nil_iff]
    intro o ho
    simpa using h o ho
  rw [observed, grow, List.filter_append, hnone, List.append_nil, observed]

theorem observed_observe {o : Observation} (h : o.key ∉ keys) :
    (r.observe o).observed keys = r.observed keys := by
  have hone : r.observe o = r.grow [o] [] := by simp [observe, grow]
  rw [hone]
  exact observed_grow (by simpa using h) []

end Report

/-- What the local checks look at. -/
def localKeys : List String := ["ipv4_addresses", "asns"]

variable {τ : Type} [Instant τ]

namespace Scan

variable (s : Scan τ) (enrich probe : Bool)

def switched : Scan τ := { s with settings := { s.settings with enrich := enrich, probe := probe } }

theorem owners_switched (host : String) (addresses : List Net.Address)
    (known : List (String × Ownership)) (session : Session τ) :
    (s.switched enrich probe).owners host addresses known session =
      s.owners host addresses known session := by
  induction addresses generalizing known session with
  | nil => rfl
  | cons a rest ih =>
    simp only [owners, ih]
    rfl

theorem enrichOne_switched (ns : Nameserver) (p : Progress τ) :
    (s.switched enrich probe).enrichOne ns p = s.enrichOne ns p := by
  simp only [enrichOne, owners_switched]
  rfl

theorem enrichAll_switched (nameservers : List Nameserver) (p : Progress τ) :
    (s.switched enrich probe).enrichAll nameservers p = s.enrichAll nameservers p := by
  induction nameservers generalizing p with
  | nil => rfl
  | cons ns rest ih => simp only [enrichAll, enrichOne_switched, ih]

theorem probeOne_switched (name : String) (delegated : List String) (host : String) (a : Net.Address)
    (harvest : Harvest) (p : Progress τ) :
    (s.switched enrich probe).probeOne name delegated host a harvest p =
      s.probeOne name delegated host a harvest p := rfl

theorem probeAll_switched (name : String) (delegated : List String)
    (targets : List (String × Net.Address)) (harvest : Harvest) (p : Progress τ) :
    (s.switched enrich probe).probeAll name delegated targets harvest p =
      s.probeAll name delegated targets harvest p := by
  induction targets generalizing harvest p with
  | nil => rfl
  | cons target rest ih =>
    simp only [probeAll, probeOne_switched, ih]
    rfl

theorem probe_switched (name : String) (p : Progress τ) :
    (s.switched enrich probe).probe name p = s.probe name p := by
  simp only [Scan.probe, probeAll_switched]

theorem enrich_switched (nameservers : List Nameserver) (p : Progress τ) :
    (s.switched enrich probe).enrich nameservers p =
      if enrich then s.enrichAll nameservers p else (.ok nameservers, p) := by
  simp only [Scan.enrich, enrichAll_switched]
  rfl

theorem start_switched (settings : Settings τ) (now : τ) :
    start { settings with enrich := enrich, probe := probe } now =
      (start settings now).switched enrich probe := rfl

theorem examine_probing (name : String) (nameservers : List Nameserver) (p : Progress τ) :
    (∃ e q, (s.switched enrich false).examine name nameservers p = (.error e, q)) ∨
      ∃ q, (s.switched enrich false).examine name nameservers p = (.ok (), q) ∧
        (s.switched enrich true).examine name nameservers p = s.probe name q := by
  simp only [examine, enrich_switched, probe_switched]
  cases (if enrich then s.enrichAll nameservers p else (.ok nameservers, p)) with
  | mk r q =>
    cases r with
    | error e => exact .inl ⟨e, q, rfl⟩
    | ok enriched => exact .inr ⟨inspect enriched q, rfl, rfl⟩

/-- A survey with probing comes to the same as one without it, or goes on from there with probes. -/
theorem survey_probing (zone : String) (session : Session τ) {q : Progress τ}
    (h : (s.switched enrich false).survey zone session = (.ok (), q)) :
    (s.switched enrich true).survey zone session = (.ok (), q) ∨
      (s.switched enrich true).survey zone session = s.probe (Dns.absolute zone) q := by
  cases hd : discover s.client s.settings.resolver (Dns.absolute zone) session.network with
  | mk r w =>
    have hfound : ∀ b, discover (s.switched enrich b).client (s.switched enrich b).settings.resolver
        (Dns.absolute zone) session.network = (r, w) := fun _ => hd
    unfold survey at h ⊢
    rw [hfound] at h ⊢
    cases r with
    | error e => exact .inl h
    | ok nameservers =>
      dsimp only at h ⊢
      rcases s.examine_probing enrich (Dns.absolute zone) nameservers
          (s.begin zone { session with network := w }) with ⟨e, p, hp⟩ | ⟨p, hp, hprobed⟩
      · cases hp.symm.trans h
      · cases hp.symm.trans h
        exact .inr hprobed

variable {s} in
theorem probe_grows {name : String} {p q : Progress τ} (h : s.probe name p = (.ok (), q)) :
    ∃ os fs, q.report = p.report.grow os fs ∧
      (∀ o ∈ os, o.key ∉ localKeys) ∧
      ∀ f ∈ fs, f.issue = .deadline ∨ f.issue = .checkFailed ∨ f.issue = .inconsistent := by
  obtain ⟨os, fs, hr, hos, hfs⟩ := s.probeAll_grows name (delegation p.report.nameservers)
    (targets p.report.nameservers) ⟨[], []⟩ p
  rw [Scan.probe] at h
  split at h
  next => cases h
  next harvest p' he =>
    rw [he] at hr
    cases h
    refine ⟨os ++ [.probes harvest.probes, .servedNames ((Dns.targetsOf harvest.served).map lowerText)],
      fs, ?_, ?_, ?_⟩
    · dsimp only at hr
      simp [Progress.observe, Report.observe, hr, Report.grow]
    · intro o ho
      rcases List.mem_append.mp ho with ho | ho
      · obtain ⟨step, rfl⟩ := hos o ho
        simp [localKeys, Observation.key]
      · simp only [List.mem_cons, List.not_mem_nil, or_false] at ho
        rcases ho with rfl | rfl <;> simp [localKeys, Observation.key]
    · intro f hf
      rcases hfs f hf with hlate | ⟨t, -, habout⟩
      · exact .inl hlate
      · exact .inr habout.issue

theorem of_stamp_eq_ok {spent : Except Number.NotFinite Int} {r r' : Report}
    (h : stamp spent r = .ok r') : ∃ millis, r' = r.observe (.timing millis) := by
  cases spent with
  | error e => cases h
  | ok millis =>
    cases h
    exact ⟨millis, rfl⟩

end Scan

/-- Verdicts from good to bad. -/
def Overall.rank : Overall → Nat
  | ok => 0
  | warning => 1
  | broken => 2
  | _ => 3

theorem Overall.rank_ofSeverities_mono {ss ts : List Severity} (h : ss ⊆ ts) :
    (ofSeverities ss).rank ≤ (ofSeverities ts).rank := by
  rw [ofSeverities_eq ss, ofSeverities_eq ts]
  by_cases hhigh : Severity.high ∈ ss
  · rw [if_pos hhigh, if_pos (h hhigh)]
  · rw [if_neg hhigh]
    by_cases hless : Severity.medium ∈ ss ∨ Severity.low ∈ ss
    · have hmore : Severity.medium ∈ ts ∨ Severity.low ∈ ts := hless.imp (h ·) (h ·)
      rw [if_pos hless, if_pos hmore]
      split <;> decide
    · rw [if_neg hless]
      exact Nat.zero_le _

theorem Overall.rank_ofSeverities_le (ss : List Severity) :
    (ofSeverities ss).rank ≤ Overall.broken.rank := by
  have hmem := ofSeverities_mem ss
  simp only [List.mem_cons, List.not_mem_nil, or_false] at hmem
  rcases hmem with he | he | he <;> rw [he] <;> decide

/-- A second report that says what the first one says and, after its findings, what comes of asking the
nameservers. Its verdict is no better, and the score of its response no higher. -/
structure Report.ExtendedBy (r r' : Report) : Prop where
  names : r'.names = r.names
  resolver : r'.resolver = r.resolver
  nameservers : r'.nameservers = r.nameservers
  observed : r'.observed localKeys = r.observed localKeys
  findings : ∃ added, r'.findings = r.findings ++ added ∧
    ∀ f ∈ added, f.issue = .deadline ∨ f.issue = .checkFailed ∨ f.issue = .inconsistent
  overall : r.overall.rank ≤ r'.overall.rank ∧ r'.overall.rank ≤ Overall.broken.rank
  score : ∀ subject check about, ∃ response response' score score',
    Response.build subject [(check, .report r)] about = .ok response ∧
    Response.build subject [(check, .report r')] about = .ok response' ∧
    r.SummedUp response.summary score ∧ r'.SummedUp response'.summary score' ∧ score' ≤ score

namespace Report

theorem tally_le_of_append {r r' : Report} (fs : List Finding)
    (h : r'.findings = r.findings ++ fs) (s : Severity) : r.tally s ≤ r'.tally s := by
  rw [tally, tally, h, List.map_append, List.count_append]
  exact Nat.le_add_right _ _

/-- A report that is grown by what probes add says more, and nothing better. -/
theorem grow_extendedBy {r : Report} {os : List Observation} {fs : List Finding}
    (hr : ∀ f ∈ r.findings, f.severity ∈ Severity.graded)
    (hgrown : ∀ f ∈ (r.grow os fs).findings, f.severity ∈ Severity.graded)
    (hos : ∀ o ∈ os, o.key ∉ localKeys)
    (hfs : ∀ f ∈ fs, f.issue = .deadline ∨ f.issue = .checkFailed ∨ f.issue = .inconsistent)
    (millis millis' : Int) :
    (r.finalize.observe (.timing millis)).ExtendedBy
      ((r.grow os fs).finalize.observe (.timing millis')) where
  names := rfl
  resolver := rfl
  nameservers := rfl
  observed := by
    have htiming : ∀ millis, (Observation.timing millis).key ∉ localKeys := by
      simp [localKeys, Observation.key]
    rw [observed_observe (htiming millis'), observed_observe (htiming millis)]
    exact observed_grow hos fs
  findings := ⟨fs, rfl, hfs⟩
  overall := by
    refine ⟨Overall.rank_ofSeverities_mono ?_, Overall.rank_ofSeverities_le _⟩
    intro s hs
    simp only [grow, List.map_append, List.mem_append]
    exact .inl hs
  score subject check about := by
    obtain ⟨response, hbuilt, hsummed⟩ :=
      exists_response (r := r.finalize.observe (.timing millis)) hr subject check about
    obtain ⟨response', hbuilt', hsummed'⟩ :=
      exists_response (r := (r.grow os fs).finalize.observe (.timing millis')) hgrown subject check about
    refine ⟨response, response', _, _, hbuilt, hbuilt', hsummed, hsummed', ?_⟩
    have hmore : ∀ s, (r.finalize.observe (.timing millis)).tally s ≤
        ((r.grow os fs).finalize.observe (.timing millis')).tally s := tally_le_of_append fs rfl
    have hhigh := hmore .high
    have hmedium := hmore .medium
    have hlow := hmore .low
    omega

end Report

/-- Probing only adds to a report, on every network that fails no other way than by questions that come
to nothing: with it and without it an audit gives a report just when the time it took can be told, and
the report with probing says all that the other one says. -/
theorem auditZone_extendedBy (settings : Settings τ) (target : String) (session : Session τ)
    (h : session.network.Orderly) :
    let plain := auditZone { settings with probe := false } target session
    let probed := auditZone { settings with probe := true } target session
    ((∃ r, plain.1 = .ok r) ↔ ∃ millis, elapsed session plain.2 = .ok millis) ∧
    ((∃ r, probed.1 = .ok r) ↔ ∃ millis, elapsed session probed.2 = .ok millis) ∧
    ∀ r r', plain.1 = .ok r → probed.1 = .ok r' → r.ExtendedBy r' := by
  intro plain probed
  let s := Scan.start settings session.network.clock
  obtain ⟨p, hp⟩ := (s.switched settings.enrich false).survey_ok (Zone.normalize target) h
  obtain ⟨q, hq⟩ := (s.switched settings.enrich true).survey_ok (Zone.normalize target) h
  have hplain : plain = _ := auditZone_of_survey hp
  have hprobed : probed = _ := auditZone_of_survey hq
  rw [hplain, hprobed]
  refine ⟨Scan.stamp_ok_iff _ _, Scan.stamp_ok_iff _ _, ?_⟩
  intro r r' hr hr'
  obtain ⟨millis, rfl⟩ := Scan.of_stamp_eq_ok hr
  obtain ⟨millis', rfl⟩ := Scan.of_stamp_eq_ok hr'
  have hpmade := (s.switched settings.enrich false).survey_made (Zone.normalize target) session
  have hqmade := (s.switched settings.enrich true).survey_made (Zone.normalize target) session
  rw [hp] at hpmade
  rw [hq] at hqmade
  obtain ⟨os, fs, hgrown, hos, hfs⟩ : ∃ os fs, q.report = p.report.grow os fs ∧
      (∀ o ∈ os, o.key ∉ localKeys) ∧
      ∀ f ∈ fs, f.issue = .deadline ∨ f.issue = .checkFailed ∨ f.issue = .inconsistent := by
    -- Where no nameservers are found, both end alike; everywhere else the probes follow.
    rcases s.survey_probing settings.enrich (Zone.normalize target) session hp with hsame | hmore
    · cases hq.symm.trans hsame
      exact ⟨[], [], (Report.grow_nil _).symm, by simp, by simp⟩
    · exact Scan.probe_grows (hmore.symm.trans hq)
  dsimp only at hpmade hqmade
  rw [hgrown] at hqmade ⊢
  exact Report.grow_extendedBy hpmade.graded hqmade.graded hos hfs millis millis'

theorem astray_orderly : (twoAddresses astray).Orderly :=
  Network.orderly_of_start (by simp [astray])

/-- What the two addresses do is found by probing alone, and costs the zone most of its score. -/
theorem auditZone_extendedBy_astray :
    (twoAddresses astray).Orderly ∧
    ∃ r r', (auditZone { endless with probe := false } "example.com" ⟨twoAddresses astray, []⟩).1 =
        .ok r ∧
      (auditZone { endless with probe := true } "example.com" ⟨twoAddresses astray, []⟩).1 = .ok r' ∧
      r.findings.length = 1 ∧ r'.findings.length = 4 ∧ r.ExtendedBy r' := by
  obtain ⟨-, -, hextended⟩ := auditZone_extendedBy endless "example.com" ⟨twoAddresses astray, []⟩
    astray_orderly
  obtain ⟨r, hr, hone⟩ := astray_unasked
  obtain ⟨r', hr', hfour, -⟩ := astray_asked
  exact ⟨astray_orderly, r, r', hr, hr', hone, hfour, hextended r r' hr hr'⟩

end DelegationAudit
