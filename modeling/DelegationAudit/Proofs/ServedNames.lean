import DelegationAudit.Proofs.Bookkeeping
import DelegationAudit.Proofs.Merging

namespace DelegationAudit

open Dns

def Observation.names : Observation → List String
  | .servedNames names => names
  | _ => []

namespace Dns

/-- Under which owners nameservers are served, in small letters and in the order of the records. -/
def servings (records : List Record) : List (String × String) :=
  records.filterMap fun r =>
    (targetOf? r).map fun target => (lowerText r.owner.text, lowerText target.text)

theorem lowerText_text (n : Name) : lowerText n.text = String.ofList (Text.lower n.chars) := by
  rw [lowerText, Name.text, String.toList_ofList]

def servingOf (key : List Char × RecordType × List Char) : String × String :=
  (String.ofList key.1, String.ofList key.2.2)

theorem map_snd_servings (records : List Record) :
    (servings records).map Prod.snd = (targetsOf records).map lowerText := by
  rw [servings, targetsOf, List.map_filterMap, List.map_map, List.map_filterMap]
  congr 1
  funext r
  cases targetOf? r <;> rfl

variable {records : List Record}

theorem servings_eq_map_key (h : ∀ r ∈ records, r.type = .ns) :
    servings records = (records.map Record.key).map servingOf := by
  rw [servings, List.map_map, ← List.filterMap_eq_map]
  apply List.filterMap_congr
  intro r hr
  obtain ⟨target, htarget⟩ := r.data.of_type.2.2 (h r hr)
  have hof : targetOf? r = some target := by rw [targetOf?, htarget]
  have hchars : r.data.chars = target.chars := by rw [htarget, Rdata.chars]
  simp only [hof, Option.map_some, Function.comp_apply, servingOf, Record.key, hchars, lowerText_text]

/-- Merging leaves out what was served under the same owner before. -/
theorem servings_merge {lists : List (List Record)} (h : ∀ r ∈ lists.flatten, r.type = .ns) :
    servings (merge lists) = (servings lists.flatten).eraseDups := by
  have hkept : ∀ r ∈ merge lists, r.type = .ns := fun r hr => h r ((mergeFrom_sublist _).subset hr)
  have hinj : ∀ k ∈ lists.flatten.map Record.key, ∀ l ∈ lists.flatten.map Record.key,
      servingOf k = servingOf l → k = l := by
    intro k hk l hl heq
    obtain ⟨r, hr, rfl⟩ := List.mem_map.mp hk
    obtain ⟨t, ht, rfl⟩ := List.mem_map.mp hl
    obtain ⟨howner, htarget⟩ := Prod.mk.inj heq
    have htype : r.type = t.type := (h r hr).trans (h t ht).symm
    exact Prod.ext (String.ofList_injective howner)
      (Prod.ext htype (String.ofList_injective htarget))
  rw [servings_eq_map_key hkept, map_key_merge, servings_eq_map_key h, eraseDups_map hinj]

end Dns

/-- The records of nameservers that were served, in the order of the answers. -/
def Inquiry.answers (inquiries : List Inquiry) : List Record := inquiries.flatMap fun i => i.ns.1

theorem Inquiry.merged_eq (inquiries : List Inquiry) :
    Inquiry.merged inquiries = merge (inquiries.map fun i => i.ns.1) :=
  foldl_merge (fun i : Inquiry => i.ns.1) inquiries

theorem Inquiry.mem_answers_iff (inquiries : List Inquiry) (n : String) :
    n ∈ (targetsOf (answers inquiries)).map lowerText ↔
      ∃ e ∈ inquiries.map Inquiry.entry, n ∈ e.served := by
  have hserved : ∀ i : Inquiry, n ∈ i.entry.served ↔ n ∈ (targetsOf i.ns.1).map lowerText :=
    fun i => (Scan.sortTexts_perm _).mem_iff
  have hanswers : (targetsOf (answers inquiries)).map lowerText =
      inquiries.flatMap fun i => (targetsOf i.ns.1).map lowerText := by
    simp only [answers, targetsOf, List.filterMap_flatMap, List.map_flatMap]
  rw [hanswers, List.mem_flatMap]
  constructor
  · rintro ⟨i, hi, hn⟩
    exact ⟨i.entry, List.mem_map_of_mem hi, (hserved i).mpr hn⟩
  · rintro ⟨e, he, hn⟩
    obtain ⟨i, hi, rfl⟩ := List.mem_map.mp he
    exact ⟨i, hi, (hserved i).mp hn⟩

/-- The names that a report says were served, against the records that were served. Each name stands there
once for each owner under which it was served, in the order in which they were first served. -/
structure Report.Serves (r : Report) (records : List Record) (names : List String) : Prop where
  observed : r.observed ["served_ns"] = [.servedNames names]
  eq : names = (servings records).eraseDups.map Prod.snd
  mem : ∀ n, n ∈ names ↔ ∃ e ∈ r.entries, n ∈ e.served
  order : names.eraseDups = ((targetsOf records).map lowerText).eraseDups
  nodup : names.Nodup ↔ ∀ s ∈ servings records, ∀ t ∈ servings records, s.2 = t.2 → s.1 = t.1

variable {τ : Type} [Instant τ]

theorem Scan.Inquired.answers_type {s : Scan τ} {text : String} {name : Name}
    (hname : Name.read text = .ok name) {inquiries : List Inquiry} {w : Network τ}
    (h : s.Inquired text name inquiries w) : ∀ r ∈ Inquiry.answers inquiries, r.type = .ns := by
  induction inquiries generalizing w with
  | nil => simp [Inquiry.answers]
  | cons i rest ih =>
    obtain ⟨-, hns, hrest⟩ := h
    obtain ⟨hrecords, -⟩ := (s.question_sent hname .ns i.address.text _).2 _ hns
    intro r hr
    rw [Inquiry.answers, List.flatMap_cons, List.mem_append] at hr
    rcases hr with hr | hr
    · rw [hrecords] at hr
      obtain ⟨_, -, -, -, htype⟩ := Network.mem_recordsFor.mp hr
      exact htype
    · exact ih hrest r hr

theorem Scan.Probed.serves {s : Scan τ} {name : Name} {session after : Session τ} {r : Report}
    {inquiries : List Inquiry} (h : s.Probed name session after r inquiries)
    (hname : Name.read (absolute r.zone) = .ok name) :
    ∃ names, r.Serves (Inquiry.answers inquiries) names := by
  obtain ⟨v, -, hinquired, -⟩ := h.asked
  have htype : ∀ t ∈ (inquiries.map fun i => i.ns.1).flatten, t.type = .ns := by
    rw [← List.flatMap_def]
    exact hinquired.answers_type hname
  have hnames : (targetsOf (Inquiry.merged inquiries)).map lowerText =
      (servings (Inquiry.answers inquiries)).eraseDups.map Prod.snd := by
    rw [← map_snd_servings, Inquiry.merged_eq, servings_merge htype, Inquiry.answers,
      List.flatMap_def]
  refine ⟨_, h.observed_servedNames, hnames, ?_, ?_, ?_⟩
  · intro n
    rw [hnames, h.entries, ← Inquiry.mem_answers_iff, ← map_snd_servings]
    simp only [List.mem_map, List.mem_eraseDups]
  · rw [hnames, eraseDups_map_eraseDups, map_snd_servings]
  · rw [hnames, List.nodup_map_iff_inj_on (nodup_eraseDups _)]
    simp only [List.mem_eraseDups]
    constructor
    · intro hinj p hp q hq heq
      rw [hinj p hp q hq heq]
    · intro howner p hp q hq heq
      exact Prod.ext (howner p hp q hq heq) heq

/-- An audit with probes observes the names that were served: it found no nameservers, or they are exactly
those in its entries, in the order in which they were first served, each once for each owner under which
it was served. -/
theorem auditZone_serves (settings : Settings τ) (hprobe : settings.probe = true) (target : String)
    (session : Session τ) {after : Session τ} {r : Report}
    (h : auditZone settings target session = (.ok r, after)) :
    (r.nameservers = [] ∧ r.observed ["served_ns"] = [] ∧
      r.findings.map Finding.issue = [.noNameservers]) ∨
    ∃ name inquiries names, Name.read (absolute (Zone.normalize target)) = .ok name ∧
      (Scan.start settings session.network.clock).Probed name session after r inquiries ∧
      r.Serves (Inquiry.answers inquiries) names := by
  obtain ⟨hnobody, ⟨millis, htime⟩, hissue⟩ | ⟨name, inquiries, hname, hprobed⟩ :=
    auditZone_reports hprobe h
  · refine .inl ⟨hnobody, ?_, hissue⟩
    rw [Report.observed, htime]
    rfl
  · have hzone := (auditZone_names (congrArg Prod.fst h)).1
    have hread : Name.read (absolute r.zone) = .ok name := by rw [hzone, hname]
    obtain ⟨names, hserves⟩ := hprobed.serves hread
    exact .inr ⟨name, inquiries, names, hname, hprobed, hserves⟩

/-- Two addresses that serve one name, each under an owner of its own. -/
def twoOwners : List (Rule Float) :=
  let b : Dns.Name := .single 98
  [.always (some "192.0.2.1") "example.com." "NS" (.ok ⟨.noError, [⟨.single 97, 60, [.ns b]⟩]⟩),
    .always (some "198.51.100.1") "example.com." "NS" (.ok ⟨.noError, [⟨b, 60, [.ns b]⟩]⟩)]

theorem auditZone_serves_twoOwners :
    endless.probe = true ∧ ∃ r after,
      auditZone endless "example.com" ⟨twoAddresses twoOwners, []⟩ = (.ok r, after) ∧
      r.entries.map Probe.served = [["b."], ["b."]] ∧
      (r.observed ["served_ns"]).flatMap Observation.names = ["b.", "b."] ∧
      ∃ name inquiries names, Name.read (absolute (Zone.normalize "example.com")) = .ok name ∧
        (Scan.start endless (twoAddresses twoOwners).clock).Probed name ⟨twoAddresses twoOwners, []⟩ after r
          inquiries ∧
        r.Serves (Inquiry.answers inquiries) names ∧ ¬ names.Nodup := by
  have hfound : (auditZone endless "example.com" ⟨twoAddresses twoOwners, []⟩).1.toOption.map (fun r =>
      (r.entries.map Probe.served, (r.observed ["served_ns"]).flatMap Observation.names)) =
      some ([["b."], ["b."]], ["b.", "b."]) := by decide +kernel
  obtain ⟨r, hr, hread⟩ := exists_of_map_toOption hfound
  obtain ⟨hserved, hnames⟩ := Prod.mk.inj hread
  have haudit := eq_pair_of_fst hr
  refine ⟨rfl, r, _, haudit, hserved, hnames, ?_⟩
  rcases auditZone_serves endless rfl "example.com" ⟨twoAddresses twoOwners, []⟩ haudit with
    ⟨-, hnothing, -⟩ | ⟨name, inquiries, names, hname, hprobed, hserves⟩
  · rw [hnothing] at hnames
    cases hnames
  · refine ⟨name, inquiries, names, hname, hprobed, hserves, ?_⟩
    rw [hserves.observed, List.flatMap_singleton, Observation.names] at hnames
    rw [hnames]
    decide

end DelegationAudit
