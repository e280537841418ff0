import DelegationAudit.Proofs.Probing
import Mathlib.Data.Finset.Card

namespace DelegationAudit

open Dns

variable {τ : Type} [Instant τ]

/-- The delegated names in small letters, as often as they are delegated. -/
def Report.delegated (r : Report) : List String := r.nameservers.map fun ns => lowerText ns.name

def Report.difference (r : Report) (e : Probe) : Finding :=
  Scan.inconsistent r.zone e.nameserver e.address (Scan.delegation r.nameservers) e.served

def Report.differences (r : Report) : List Finding :=
  r.findings.filter fun f => f.issue == .inconsistent

/-- The names of an entry are not the delegated ones, or not as often. -/
def Report.Differs (r : Report) (e : Probe) : Prop :=
  e.nsOk = true ∧ ¬ e.served.Perm r.delegated

instance (r : Report) (e : Probe) : Decidable (r.Differs e) :=
  inferInstanceAs (Decidable (_ ∧ _))

theorem filter_issue_eq_nil {fs : List Finding} {issue : Issue} (h : ∀ f ∈ fs, f.issue ≠ issue) :
    fs.filter (fun f => f.issue == issue) = [] := by
  rw [List.filter_eq_nil_iff]
  intro f hf hissue
  exact h f hf (beq_iff_eq.mp hissue)

namespace Inquiry

theorem filter_findings (i : Inquiry) (zone : String) (delegated : List String) :
    (i.findings zone delegated).filter (fun f => f.issue == .inconsistent) =
      i.difference zone delegated := by
  have hfailure : ∀ type answer,
      (i.failure zone type answer).filter (fun f => f.issue == .inconsistent) = [] := by
    intro type answer
    apply filter_issue_eq_nil
    intro f hf
    obtain ⟨e, rfl⟩ := mem_failure hf
    simp [Check.failure]
  rw [findings, List.filter_append, List.filter_append, hfailure, hfailure, difference]
  split <;> rfl

end Inquiry

/-- The findings about differences are those of the entries that differ, one for each and in order. -/
theorem differences_eq {zone : String} {nameservers : List Nameserver} (inquiries : List Inquiry)
    {r : Report} (hzone : r.zone = zone) (hnameservers : r.nameservers = nameservers) :
    inquiries.flatMap (Inquiry.difference · zone (Scan.delegation nameservers)) =
      ((inquiries.map Inquiry.entry).filter fun e => r.Differs e).map r.difference := by
  subst hzone hnameservers
  induction inquiries with
  | nil => rfl
  | cons i rest ih =>
    have hdiffers : (!i.ns.failed && i.served != Scan.delegation r.nameservers) = true ↔
        r.Differs i.entry := by
      have hsorted : i.served = Scan.delegation r.nameservers ↔ i.served.Perm r.delegated := by
        rw [Inquiry.served, Scan.delegation, Scan.sortTexts_eq_iff]
        exact ⟨(Scan.sortTexts_perm _).trans, (Scan.sortTexts_perm _).symm.trans⟩
      rw [Bool.and_eq_true, bne_iff_ne, Ne, hsorted]
      rfl
    rw [List.flatMap_cons, ih, List.map_cons, Inquiry.difference]
    by_cases hd : r.Differs i.entry
    · rw [if_pos (hdiffers.mpr hd), List.filter_cons_of_pos (by simpa using hd), List.map_cons]
      rfl
    · rw [if_neg (mt hdiffers.mp hd), List.filter_cons_of_neg (by simpa using hd)]
      rfl

namespace Report

variable {r : Report} {e : Probe}

theorem Differs.of_sets (hok : e.nsOk = true) (hsets : e.served.toFinset ≠ r.delegated.toFinset) :
    r.Differs e := by
  refine ⟨hok, ?_⟩
  intro hperm
  exact hsets (List.toFinset_eq_of_perm _ _ hperm)

theorem differs_iff_sets (hd : r.delegated.Nodup) (he : e.served.Nodup) :
    r.Differs e ↔ e.nsOk = true ∧ e.served.toFinset ≠ r.delegated.toFinset := by
  constructor
  · rintro ⟨hok, hperm⟩
    refine ⟨hok, ?_⟩
    intro hsets
    apply hperm
    rw [List.perm_ext_iff_of_nodup he hd]
    intro name
    rw [← List.mem_toFinset, hsets, List.mem_toFinset]
  · rintro ⟨hok, hsets⟩
    exact .of_sets hok hsets

end Report

/-- What a report says of the delegation, and the answers that it is said from. -/
structure Compared (s : Scan τ) (zone : String) (session after : Session τ) (r : Report) : Prop where
  /-- One finding for each entry whose names are not the delegated ones, or not as often. -/
  differences : r.differences = (r.entries.filter fun e => r.Differs e).map r.difference
  /-- Whatever is repeated, another set of names differs. -/
  sets : ∀ e ∈ r.entries, e.nsOk = true → e.served.toFinset ≠ r.delegated.toFinset → r.Differs e
  /-- Where no name is repeated nothing else does. -/
  unrepeated : r.delegated.Nodup → ∀ e ∈ r.entries, e.served.Nodup →
    (r.Differs e ↔ e.nsOk = true ∧ e.served.toFinset ≠ r.delegated.toFinset)
  /-- A nameserver is single when one name is delegated, once. -/
  single : (∃ f ∈ r.findings, f.issue = .singleNameserver) ↔ r.delegated.length = 1
  /-- Where no name is repeated this is the number of names; a zone without any is not delegated. -/
  counted : r.delegated.Nodup → r.delegated ≠ [] →
    ((∃ f ∈ r.findings, f.issue = .singleNameserver) ↔ r.delegated.toFinset.card < 2)
  /-- The entries are those of the addresses that were probed: all of them, up to some. -/
  probed : r.entries.map Probe.place <+: (Scan.targets r.nameservers).map targetPlace
  /-- The names and the entries are those in the answers that were given. -/
  answered : (r.delegated = [] ∧ r.entries = []) ∨ ∃ name v, Name.read (absolute zone) = .ok name ∧
    r.delegated = (targetsOf (session.network.recordsFor (s.firstCall name))).map lowerText ∧
    session.network.Leads v ∧ s.Answered name r.entries v ∧
    v.Sent (r.entries.flatMap fun e => [s.probeCall name .soa e.address, s.probeCall name .ns e.address])
      after.network

theorem Report.compared {s : Scan τ} {zone : String} {session after : Session τ} {r : Report}
    (hdifferences : r.differences = (r.entries.filter fun e => r.Differs e).map r.difference)
    (hsingle : (∃ f ∈ r.findings, f.issue = .singleNameserver) ↔ r.delegated.length = 1)
    (hprobed : r.entries.map Probe.place <+: (Scan.targets r.nameservers).map targetPlace)
    (hanswered : (r.delegated = [] ∧ r.entries = []) ∨ ∃ name v, Name.read (absolute zone) = .ok name ∧
      r.delegated = (targetsOf (session.network.recordsFor (s.firstCall name))).map lowerText ∧
      session.network.Leads v ∧ s.Answered name r.entries v ∧
      v.Sent (r.entries.flatMap fun e =>
        [s.probeCall name .soa e.address, s.probeCall name .ns e.address]) after.network) :
    Compared s zone session after r where
  differences := hdifferences
  sets e _ hok hsets := .of_sets hok hsets
  unrepeated hd e _ he := Report.differs_iff_sets hd he
  single := hsingle
  counted hd hsome := by
    have hpos := List.length_pos_iff.mpr hsome
    rw [hsingle, List.toFinset_card_of_nodup hd]
    omega
  probed := hprobed
  answered := hanswered

namespace Scan.Probed

variable {s : Scan τ} {zone : Name} {session after : Session τ} {r : Report}
  {inquiries : List Inquiry} (h : s.Probed zone session after r inquiries)

include h

theorem differences : r.differences = (r.entries.filter fun e => r.Differs e).map r.difference := by
  obtain ⟨early, late, hdeadline, hfindings⟩ := h.findings
  have hnone : ∀ fs : List Finding, (∀ f ∈ fs, f.issue = .deadline) →
      fs.filter (fun f => f.issue == .inconsistent) = [] := by
    intro fs hfs
    apply filter_issue_eq_nil
    intro f hf
    rw [hfs f hf]
    decide
  have hlocal : (Topology.findings r.zone r.nameservers).filter (fun f => f.issue == .inconsistent) =
      [] := by
    apply filter_issue_eq_nil
    intro f hf hissue
    have hmem := Topology.issue_of_mem_findings hf
    rw [hissue] at hmem
    simp at hmem
  rw [Report.differences, hfindings]
  simp only [List.filter_append, List.filter_flatMap, Inquiry.filter_findings]
  rw [hnone early fun f hf => hdeadline f (by simp [hf]),
    hnone late fun f hf => hdeadline f (by simp [hf]), hlocal, differences_eq inquiries rfl rfl,
    h.entries]
  simp

theorem single : (∃ f ∈ r.findings, f.issue = .singleNameserver) ↔ r.delegated.length = 1 := by
  obtain ⟨early, late, hdeadline, hfindings⟩ := h.findings
  have hpos := List.length_pos_iff.mpr h.found
  rw [Report.delegated, List.length_map]
  constructor
  · rintro ⟨f, hf, hissue⟩
    rw [hfindings] at hf
    have hlate : f ∉ early ++ late := by
      intro hf
      rw [hdeadline f hf] at hissue
      cases hissue
    have hinquiry : f ∉ inquiries.flatMap (Inquiry.findings · r.zone (delegation r.nameservers)) := by
      intro hf
      obtain ⟨i, -, hf⟩ := List.mem_flatMap.mp hf
      rcases Inquiry.mem_findings hf with ⟨check, e, rfl⟩ | rfl <;> cases hissue
    have hlocal : f ∈ Topology.findings r.zone r.nameservers := by
      simp only [List.mem_append] at hf hlate
      tauto
    have hfew := (Topology.single_mem_findings r.zone).mp ⟨f, hlocal, hissue⟩
    omega
  · intro hone
    have hfew : r.nameservers.length < 2 := by omega
    obtain ⟨f, hf, hissue⟩ := (Topology.single_mem_findings r.zone).mpr hfew
    exact ⟨f, by simp [hfindings, hf], hissue⟩

theorem places : r.entries.map Probe.place <+: (Scan.targets r.nameservers).map targetPlace := by
  have hplaces := h.targets.map targetPlace
  rw [List.map_map] at hplaces
  rw [h.entries, List.map_map]
  exact hplaces

end Scan.Probed

/-- An audit with probes compares the delegation with what is served: it finds every entry that was
answered and serves other names than the delegated ones, where names that are repeated count, and it
finds a single nameserver where one name is delegated. -/
theorem auditZone_compares (settings : Settings τ) (hprobe : settings.probe = true) (target : String)
    (session : Session τ) {after : Session τ} {r : Report}
    (h : auditZone settings target session = (.ok r, after)) :
    Compared (Scan.start settings session.network.clock) (Zone.normalize target) session after r := by
  obtain ⟨hnobody, hnone, hissue⟩ | ⟨zone, inquiries, hz, hprobed⟩ := auditZone_probed hprobe h
  · have hdelegated : r.delegated = [] := by rw [Report.delegated, hnobody, List.map_nil]
    obtain ⟨f, hf, hfissue⟩ := List.map_eq_singleton_iff.mp hissue
    refine Report.compared ?_ ?_ ?_ (.inl ⟨hdelegated, hnone⟩)
    · rw [hnone, Report.differences, hf]
      apply filter_issue_eq_nil
      intro g hg
      rw [List.mem_singleton.mp hg, hfissue]
      decide
    · rw [hdelegated, hf]
      simp [hfissue]
    · rw [hnone]
      exact List.nil_prefix
  · refine Report.compared hprobed.differences hprobed.single hprobed.places (.inr ?_)
    obtain ⟨v, hleads, hinquired, hsent⟩ := hprobed.asked
    rw [(auditZone_names (congrArg Prod.fst h)).1] at hinquired
    refine ⟨zone, v, hz, ?_, hleads, ?_, ?_⟩
    · have hnames := congrArg (List.map lowerText) hprobed.names
      rw [List.map_map] at hnames
      exact hnames
    · rw [hprobed.entries]
      exact hinquired.answered _ hz
    · rw [hprobed.entries, List.flatMap_map]
      exact hsent

/-- One address serves another name than the delegated one. -/
theorem auditZone_compares_astray :
    endless.probe = true ∧ ∃ r after,
      auditZone endless "example.com" ⟨twoAddresses astray, []⟩ = (.ok r, after) ∧
      r.delegated = ["a."] ∧ r.entries.map Probe.served = [["b."], ["a."]] ∧
      r.differences.map Finding.server = [some "a. (192.0.2.1)"] ∧
      Compared (Scan.start endless (twoAddresses astray).clock) (Zone.normalize "example.com")
        ⟨twoAddresses astray, []⟩ after r := by
  have hfound : (auditZone endless "example.com" ⟨twoAddresses astray, []⟩).1.toOption.map (fun r =>
      (r.delegated, r.entries.map Probe.served, r.differences.map Finding.server)) =
      some (["a."], [["b."], ["a."]], [some "a. (192.0.2.1)"]) := by decide +kernel
  cases hr : auditZone endless "example.com" ⟨twoAddresses astray, []⟩ with
  | mk outcome after =>
    rw [hr] at hfound
    cases outcome with
    | error e => cases hfound
    | ok r =>
      rw [Except.toOption, Option.map_some, Option.some_inj, Prod.mk.injEq, Prod.mk.injEq] at hfound
      obtain ⟨hdelegated, hserved, hserver⟩ := hfound
      exact ⟨rfl, r, after, rfl, hdelegated, hserved, hserver,
        auditZone_compares endless rfl "example.com" ⟨twoAddresses astray, []⟩ hr⟩

end DelegationAudit
