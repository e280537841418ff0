import DelegationAudit.Proofs.Weights

namespace DelegationAudit

/-- An address does not read as an internal key does: these start with a sign that no address starts
with, whatever its zone. -/
theorem Net.Address.text_not_internal (a : Net.Address) : "_sa".isPrefixOf a.text = false := by
  have hfirst : ∀ cs : List Char, a.text.toList = '_' :: cs → False := by
    intro cs hcs
    cases a with
    | v4 a =>
      have hchars : a.chars = '_' :: cs := by simpa [Net.Address.text, Net.IPv4.text] using hcs
      have hmem : '_' ∈ a.chars := by simp [hchars]
      rcases Net.IPv4.mem_chars hmem with hc | ⟨d, hd⟩
      · exact absurd hc (by decide)
      · exact Nat.digitChar_ne '_' (by decide) hd.symm
    | v6 a =>
      have hplain : '_' ∉ a.plainChars :=
        Net.IPv6.not_mem_plainChars (by decide) (fun d => Nat.digitChar_ne '_' (by decide)) a
      have hchars : a.chars = '_' :: cs := by simpa [Net.Address.text, Net.IPv6.text] using hcs
      rw [Net.IPv6.chars] at hchars
      split at hchars
      · exact hplain (by simp [hchars])
      · rcases List.append_eq_cons_iff.mp hchars with ⟨-, hzone⟩ | ⟨more, hmore, -⟩
        · exact absurd (List.cons.inj hzone).1 (by decide)
        · exact hplain (by simp [hmore])
  rw [Bool.eq_false_iff]
  intro hprefix
  obtain ⟨rest, hrest⟩ := String.startsWith_string_iff.mp hprefix
  exact hfirst _ hrest.symm

namespace Json

@[simp] theorem clean_strings (ss : List String) : (strings ss).clean = strings ss := by
  simp [strings, clean, cleanItems_eq_map, Function.comp_def]

@[simp] theorem clean_ofOption (s : Option String) : (ofOption s).clean = ofOption s := by
  cases s <;> rfl

theorem clean_arr {items : List Json} (h : ∀ j ∈ items, j.clean = j) : (arr items).clean = arr items := by
  rw [clean, cleanItems_eq_map, List.map_congr_left h, List.map_id']

theorem cleanFields_eq_self {fields : List (String × Json)}
    (h : ∀ f ∈ fields, "_sa".isPrefixOf f.1 = false ∧ f.2.clean = f.2) : cleanFields fields = fields := by
  induction fields with
  | nil => rfl
  | cons f rest ih =>
    obtain ⟨k, v⟩ := f
    obtain ⟨hk, hv⟩ := h (k, v) (by simp)
    have hrest := ih fun f hf => h f (by simp [hf])
    rw [cleanFields, if_neg (by simp [hk]), hv, hrest]

end Json

theorem Ownership.clean_toJson (o : Ownership) : o.toJson.clean = o.toJson := by
  cases ha : o.asn <;> simp [toJson, ha, Json.clean, Json.cleanFields, String.isPrefixOf]

theorem Probe.clean_toJson (p : Probe) : p.toJson.clean = p.toJson := by
  simp [toJson, Json.clean, Json.cleanFields, String.isPrefixOf]

theorem Nameserver.Keyed.clean_toJson {ns : Nameserver} (h : ns.Keyed) : ns.toJson.clean = ns.toJson := by
  have howners : Json.cleanFields (ns.ownership.map fun o => (o.1, o.2.toJson)) =
      ns.ownership.map fun o => (o.1, o.2.toJson) := by
    refine Json.cleanFields_eq_self fun f hf => ?_
    obtain ⟨o, ho, rfl⟩ := List.mem_map.mp hf
    obtain ⟨a, -, hkey⟩ := h.texts o.1 (List.mem_map_of_mem ho)
    exact ⟨hkey ▸ a.text_not_internal, o.2.clean_toJson⟩
  simp [toJson, ownershipJson, Json.clean, Json.cleanFields, String.isPrefixOf, howners]

theorem Observation.Made.clean_value {o : Observation} (h : o.Made) :
    "_sa".isPrefixOf o.key = false ∧ o.value.clean = o.value := by
  cases o with
  | skipped | servedNames | ipv4Addresses | timing =>
    simp [key, value, String.isPrefixOf, Json.clean]
  | asns numbers =>
    refine ⟨by simp [key, String.isPrefixOf], Json.clean_arr fun j hj => ?_⟩
    obtain ⟨n, -, rfl⟩ := List.mem_map.mp hj
    rfl
  | probes ps =>
    refine ⟨by simp [key, String.isPrefixOf], Json.clean_arr fun j hj => ?_⟩
    obtain ⟨p, -, rfl⟩ := List.mem_map.mp hj
    exact p.clean_toJson
  | note k v => cases h

variable {τ : Type} [Instant τ]

namespace Finding.Made

variable {f : Finding} (h : f.Made τ)

include h

theorem clean_data : Json.cleanFields f.data = f.data := by
  cases h <;>
    simp [Scan.noNameservers, Scan.deadlineFinding, Topology.noAddress, Topology.privateAddress,
      Topology.singleNameserver, Topology.oneSubnet, Topology.oneNetwork, Check.failure,
      Scan.inconsistent, Json.cleanFields, String.isPrefixOf, Json.clean]

theorem clean_toJson : Json.cleanFields f.toJson = f.toJson := by
  simp [toJson, Json.cleanFields, String.isPrefixOf, Json.clean, h.clean_data]

theorem advice : adviceOn f.issue.text = f.issue.advice ∧ f.issue.advice ≠ noAdvice := by
  have hread : ∀ i ∈ Issue.known, Issue.ofText i.text = i := by decide +kernel
  have hsome : ∀ i ∈ Issue.known, i.advice ≠ noAdvice := by decide +kernel
  exact ⟨by rw [adviceOn, hread f.issue h.issue], hsome f.issue h.issue⟩

end Finding.Made

theorem Report.Made.clean_toJson {r : Report} (h : r.Made τ) : Json.cleanFields r.toJson = r.toJson := by
  have hnameservers : (Json.arr (r.nameservers.map Nameserver.toJson)).clean =
      .arr (r.nameservers.map Nameserver.toJson) := by
    refine Json.clean_arr fun j hj => ?_
    obtain ⟨ns, hns, rfl⟩ := List.mem_map.mp hj
    exact (h.nameservers ns hns).clean_toJson
  have hobservations : (Json.obj (r.observations.map fun o => (o.key, o.value))).clean =
      .obj (r.observations.map fun o => (o.key, o.value)) := by
    rw [Json.clean, Json.cleanFields_eq_self]
    intro f hf
    obtain ⟨o, ho, rfl⟩ := List.mem_map.mp hf
    exact (h.observations o ho).clean_value
  have hfindings : (Json.arr (r.findings.map fun f => .obj f.toJson)).clean =
      .arr (r.findings.map fun f => .obj f.toJson) := by
    refine Json.clean_arr fun j hj => ?_
    obtain ⟨f, hf, rfl⟩ := List.mem_map.mp hj
    rw [Json.clean, (h.findings f hf).clean_toJson]
  have hstr : ∀ s, (Json.str s).clean = .str s := fun _ => rfl
  simp only [toJson, Json.cleanFields, hnameservers, hobservations, hfindings, hstr]
  simp [String.isPrefixOf]

namespace Response

/-- A finding that an audit makes, as it stands in the response: its own fields, unchanged, and behind
them the name of the check and the advice on the issue. -/
def advised (check : String) (f : Finding) : List (String × Json) :=
  f.toJson ++ [("check", .str check), ("recommendation", .str f.issue.advice)]

theorem entry_eq_advised {f : Finding} (h : f.Made τ) (check : String) :
    entry check f = advised check f := by
  have hnone : Json.find? "check" f.toJson = none := by simp [Finding.toJson, Json.find?]
  rw [entry, tag, h.clean_toJson, hnone, h.advice.1]
  simp [Finding.toJson, Json.set, advised]

theorem clean_advised {f : Finding} (h : f.Made τ) (check : String) :
    Json.cleanFields (advised check f) = advised check f := by
  simp [advised, Finding.toJson, Json.cleanFields, String.isPrefixOf, Json.clean, h.clean_data]

variable {checks : List (String × Report)} (h : ∀ c ∈ checks, c.2.Made τ)

include h

theorem entries_eq_advised :
    entries checks = checks.flatMap fun c => c.2.findings.map (advised c.1) := by
  refine List.flatMap_congr fun c hc => List.map_congr_left fun f hf => ?_
  exact entry_eq_advised ((h c hc).findings f hf) c.1

theorem clean_entries : (entries checks).map Json.cleanFields = entries checks := by
  rw [entries_eq_advised h, List.map_flatMap]
  refine List.flatMap_congr fun c hc => ?_
  rw [List.map_map]
  refine List.map_congr_left fun f hf => ?_
  exact clean_advised ((h c hc).findings f hf) c.1

/-- Every finding is counted under the severity that it has. -/
theorem severityOf_entries {e : List (String × Json)} (he : e ∈ entries checks) :
    Summary.severityOf e ∈ Summary.initial.map Prod.fst := by
  obtain ⟨c, hc, he⟩ := List.mem_flatMap.mp he
  have hplace : ∀ key ∈ Severity.graded.map Severity.text, key ∈ Summary.initial.map Prod.fst := by
    decide
  exact hplace _ (Report.severityOf_mem c.1 (h c hc).graded he)

theorem clean_checks (hnames : ∀ c ∈ checks, "_sa".isPrefixOf c.1 = false) :
    Json.cleanFields (checks.map fun c => (c.1, (CheckResult.report c.2).toJson)) =
      checks.map fun c => (c.1, .obj c.2.toJson) := by
  have hresults : checks.map (fun c => (c.1, (CheckResult.report c.2).toJson)) =
      checks.map fun c => (c.1, .obj c.2.toJson) := by
    refine List.map_congr_left fun c hc => ?_
    rw [CheckResult.toJson, Json.clean, (h c hc).clean_toJson]
  rw [hresults]
  refine Json.cleanFields_eq_self fun f hf => ?_
  obtain ⟨c, hc, rfl⟩ := List.mem_map.mp hf
  refine ⟨hnames c hc, ?_⟩
  rw [Json.clean, (h c hc).clean_toJson]

end Response

theorem Json.find?_foldl_set {key : String} {counts : Summary.Counts}
    (h : key ∉ counts.map Prod.fst) (fields : List (String × Json)) :
    find? key (counts.foldl (fun acc c => set c.1 (.int c.2) acc) fields) = find? key fields := by
  induction counts generalizing fields with
  | nil => rfl
  | cons c rest ih =>
    rw [List.map_cons, List.mem_cons, not_or] at h
    obtain ⟨hkey, hrest⟩ := h
    rw [List.foldl_cons, ih hrest, find?_set_ne hkey]

/-- The number of issues is not written over by a count, unless a severity has its name. -/
theorem find?_issues {findings : List (List (String × Json))}
    (h : ∀ f ∈ findings, Summary.severityOf f ∈ Summary.initial.map Prod.fst) :
    Json.find? "issues" (summarize findings) = some (.int findings.length) := by
  have hkeys : (Summary.countAll findings).map Prod.fst = Summary.initial.map Prod.fst := by
    rw [Summary.countAll_eq h, List.map_map]
    rfl
  have hnew : "issues" ∉ (Summary.countAll findings).map Prod.fst := by
    rw [hkeys]
    decide
  rw [summarize, Json.find?_set_ne (by decide), Json.find?_foldl_set hnew, Summary.total_countAll]
  rfl

/-- Nothing is lost in the response to reports that audits return, and nothing invented. Its findings are
those of the reports, in the order of the checks and of each report, with their own fields, the name of
the check and the advice on the issue, of which there is some on each; all are counted; and the reports
stand under the names of their checks as they are. -/
theorem Response.build_returned {checks : List (String × Report)} (hnames : (checks.map Prod.fst).Nodup)
    (hopen : ∀ c ∈ checks, "_sa".isPrefixOf c.1 = false) (h : ∀ c ∈ checks, c.2.Returned τ)
    (target : String) (about : Json) :
    ∃ response, build target (checks.map fun c => (c.1, .report c.2)) about = .ok response ∧
      response.findings = (checks.flatMap fun c => c.2.findings.map fun f =>
        f.toJson ++ [("check", .str c.1), ("recommendation", .str f.issue.advice)]) ∧
      (∀ c ∈ checks, ∀ f ∈ c.2.findings,
        adviceOn f.issue.text = f.issue.advice ∧ f.issue.advice ≠ noAdvice) ∧
      Json.find? "issues" response.summary =
        some (.int (checks.flatMap fun c => c.2.findings).length) ∧
      response.checks = checks.map fun c => (c.1, .obj c.2.toJson) := by
  have hmade : ∀ c ∈ checks, c.2.Made τ := fun c hc => (h c hc).made
  refine ⟨_, build_reports target hnames about, ?_, ?_, ?_, clean_checks hmade hopen⟩
  · dsimp only
    rw [clean_entries hmade, entries_eq_advised hmade]
    rfl
  · intro c hc f hf
    exact ((hmade c hc).findings f hf).advice
  · have hlength : (entries checks).length = (checks.flatMap fun c => c.2.findings).length := by
      simp [entries, List.length_flatMap]
    dsimp only
    rw [Json.find?_cleanFields (by decide +kernel), find?_issues fun e he => severityOf_entries hmade he,
      hlength]
    rfl

/-- Two audits of a zone in one response, the second of them without probes. -/
theorem Response.build_returned_pair :
    ∃ r r', r.Returned Float ∧ r'.Returned Float ∧ r.findings.length = 4 ∧ r'.findings.length = 1 ∧
      ∃ response, build "example.com" [("delegation", .report r), ("local", .report r')] .null =
          .ok response ∧
        response.findings.length = 5 ∧ Json.find? "issues" response.summary = some (.int 5) ∧
        response.checks = [("delegation", .obj r.toJson), ("local", .obj r'.toJson)] := by
  obtain ⟨r, hr, hfour, -⟩ := astray_asked
  obtain ⟨r', hr', hone⟩ := astray_unasked
  have hreturned : r.Returned Float := ⟨_, _, _, hr⟩
  have hreturned' : r'.Returned Float := ⟨_, _, _, hr'⟩
  have hnames : ([("delegation", r), ("local", r')].map Prod.fst).Nodup := by simp
  have hopen : ∀ c ∈ [("delegation", r), ("local", r')], "_sa".isPrefixOf c.1 = false := by
    simp [String.isPrefixOf]
  have hall : ∀ c ∈ [("delegation", r), ("local", r')], c.2.Returned Float := by
    simp [hreturned, hreturned']
  obtain ⟨response, hbuilt, hfindings, -, hissues, hchecks⟩ :=
    build_returned hnames hopen hall "example.com" .null
  refine ⟨r, r', hreturned, hreturned', hfour, hone, response, hbuilt, ?_, ?_, hchecks⟩
  · rw [hfindings]
    simp [hfour, hone]
  · rw [hissues]
    simp [hfour, hone]

end DelegationAudit
