import DelegationAudit.Proofs.AllOrNothing
import DelegationAudit.Proofs.LineBreaks
import DelegationAudit.Proofs.ParentText
import DelegationAudit.Proofs.Provenance
import DelegationAudit.Proofs.Sheet

namespace DelegationAudit

open Dns

/-- What a page shows of an owner as it was published. -/
def Ownership.foreign (o : Ownership) : List String :=
  match o.asn with
  | none => []
  | some _ => o.country.toList ++ o.organization.toList

def Nameserver.foreign (ns : Nameserver) : List String :=
  ns.addresses.flatMap fun a => (ns.ownerOf? a).toList.flatMap Ownership.foreign

namespace Finding

def errorText (f : Finding) : Option String :=
  match Json.find? "error" f.data with
  | some (.str s) => some s
  | _ => none

def foreign (f : Finding) : List String :=
  match f.issue with
  | .noNameservers => f.server.toList ++ f.errorText.toList
  | .checkFailed => f.errorText.toList
  | _ => []

end Finding

def Report.foreign (r : Report) : List String :=
  r.resolver :: (r.nameservers.flatMap Nameserver.foreign ++ r.findings.flatMap Finding.foreign)

section Names

theorem breaks_absolute {zone : String} (h : breaks zone = 0) : breaks (absolute zone) = 0 := by
  have htrim : '\n' ∉ Text.trim zone.toList := fun hm => breaks_eq_zero_iff.mp h (Text.mem_trim hm)
  apply breaks_ofList
  unfold absoluteChars
  dsimp only
  split
  · decide
  · split
    · exact htrim
    · simp [htrim]

theorem breaks_parentOf {name : String} (h : breaks name = 0) : breaks (parentOf name) = 0 := by
  apply breaks_ofList
  intro hm
  rcases mem_parentChars hm with hdot | hm
  · exact absurd hdot (by decide)
  · exact breaks_eq_zero_iff.mp h hm

theorem Zone.Plain.unbroken {zone : String} (h : Zone.Plain zone) : breaks zone = 0 := by
  rw [breaks_eq_zero_iff]
  intro hbreak
  exact absurd (h '\n' hbreak) (by decide)

end Names

section Servers

theorem breaks_shown {default : String} (hdefault : breaks default = 0) (s : Option String) :
    breaks (shown default s) = breaksIn s.toList := by
  cases s with
  | none => exact hdefault
  | some s =>
    rw [shown, Option.toList_some, breaksIn_singleton]
    split
    next hempty => rw [hdefault, String.isEmpty_iff.mp hempty, breaks_empty]
    next => rfl

theorem Ownership.breaks_mark (o : Ownership) : breaks o.mark = breaksIn o.foreign := by
  have hcountry := breaks_shown (rfl : breaks "??" = 0) o.country
  have horganization := breaks_shown (rfl : breaks "" = 0) o.organization
  have hopening : breaks " [AS" = 0 := rfl
  have hblank : breaks " " = 0 := rfl
  have hclosing : breaks "]" = 0 := rfl
  rw [mark, foreign]
  cases o.asn with
  | none => rfl
  | some n =>
    simp only [breaks_append, breaksIn_append, breaks_intString, hcountry, horganization, hopening, hblank,
      hclosing]
    omega

theorem Nameserver.Traced.breaks_pageLine {τ : Type} [Instant τ] {source : Ownership.Source τ}
    {session : Session τ} {ns : Nameserver} (h : ns.Traced source session) :
    breaks ns.pageLine = breaksIn ns.foreign := by
  obtain ⟨n, hn⟩ := h.host
  have haddresses : breaksIn (ns.addresses.map ns.addressText) = breaksIn ns.foreign := by
    rw [List.map_eq_flatMap]
    refine breaksIn_flatMap_congr fun a ha => ?_
    have htext := breaks_address (h.unzoned a ha)
    rw [Nameserver.addressText]
    cases ns.ownerOf? a with
    | none => simpa using htext
    | some o => simp [htext, o.breaks_mark]
  have hlist := breaks_shown (rfl : breaks "(no address)" = 0)
    (some (Json.joinTexts ", " (ns.addresses.map ns.addressText)))
  rw [Option.toList_some, breaksIn_singleton, breaks_joinTexts rfl, haddresses] at hlist
  have hopening : breaks "  NS " = 0 := rfl
  have hcolon : breaks ": " = 0 := rfl
  rw [Nameserver.pageLine, breaks_append, breaks_append, breaks_append, hlist, hn, breaks_name, hopening,
    hcolon, Nat.zero_add]

end Servers

section Findings

variable {f : Finding}

theorem breaks_between {opening closing : String} (hopening : breaks opening = 0)
    (hclosing : breaks closing = 0) (s : Option String) :
    breaks (Finding.between opening closing s) = breaksIn s.toList := by
  cases s with
  | none => rfl
  | some s =>
    rw [Finding.between, Option.toList_some, breaksIn_singleton]
    split
    next hempty => rw [String.isEmpty_iff.mp hempty, breaks_empty]
    next => rw [breaks_append, breaks_append, hopening, hclosing, Nat.zero_add, Nat.add_zero]

theorem Issue.breaks_advice {i : Issue} (h : i ∈ known) : breaks i.advice = 0 := by
  cases i with
  | other => simp [known] at h
  | _ =>
    unfold advice
    simp only [breaks_append, Nat.add_eq_zero_iff]
    exact ⟨breaks_ofList (by decide +kernel), breaks_ofList (by decide +kernel)⟩

theorem Finding.Made.breaks_lines {τ : Type} [Instant τ] (h : f.Made τ) :
    breaksIn [f.pageLine, f.adviceLine] = breaksIn f.server.toList + breaksIn f.detail.toList := by
  have hseverity : ∀ v ∈ Severity.graded, breaks v.text = 0 := by decide +kernel
  have hissue : ∀ i ∈ Issue.known, breaks i.text = 0 := by decide +kernel
  have hserver := breaks_between (rfl : breaks " " = 0) (rfl : breaks "" = 0) f.server
  have hdetail := breaks_between (rfl : breaks ": " = 0) (rfl : breaks "" = 0) f.detail
  have hopening : breaks "- [" = 0 := rfl
  have hclosing : breaks "] " = 0 := rfl
  have hlabel : breaks "    Recommendation: " = 0 := rfl
  unfold Finding.pageLine Finding.adviceLine
  simp only [breaksIn_cons, breaksIn_nil, breaks_append, hseverity _ h.severity, hissue _ h.issue,
    Issue.breaks_advice h.issue, hserver, hdetail, hopening, hclosing, hlabel]
  omega

theorem breaks_place {c : Check} (hserver : breaks c.server = 0) (haddress : breaks c.address = 0) :
    breaks c.place = 0 := by
  rw [Check.place, breaks_append, breaks_append, breaks_append, hserver, haddress]
  rfl

/-- Of what a finding about an unbroken zone says only the message of a failure and the resolver can
have breaks. -/
theorem Finding.Traced.breaks_said {s : Scan Float} {zone : String} {session : Session Float}
    (h : f.Traced s zone session) (hzone : breaks zone = 0) :
    breaksIn f.server.toList + breaksIn f.detail.toList = breaksIn f.foreign := by
  have hcolon : breaks ": " = 0 := rfl
  cases h with
  | @noNameservers cause h =>
    have hopening : breaks "No NS records could be resolved for " = 0 := breaks_ofList (by decide)
    change breaksIn [s.settings.resolver] + breaksIn ["No NS records could be resolved for " ++
      absolute zone ++ ": " ++ cause.message] = breaksIn [s.settings.resolver, cause.message]
    simp only [breaksIn_cons, breaksIn_nil, breaks_append, breaks_absolute hzone, hopening, hcolon]
    omega
  | deadline step =>
    have hopening : breaks "Scan deadline of " = 0 := rfl
    have hreached : breaks "s reached; " = 0 := rfl
    have hclosing : breaks " and later steps were cut short." = 0 := breaks_ofList (by decide)
    have hspan : breaks (Instant.brief s.settings.deadline) = 0 := breaks_floatBrief _
    have hstep : breaks step.text = 0 := by cases step <;> rfl
    change breaksIn [] + breaksIn ["Scan deadline of " ++ Instant.brief s.settings.deadline ++
      "s reached; " ++ step.text ++ " and later steps were cut short."] = breaksIn []
    simp only [breaksIn_cons, breaksIn_nil, breaks_append, hopening, hreached, hclosing, hspan, hstep]
  | @noAddress ns host =>
    obtain ⟨n, hn⟩ := host
    have hclosing : breaks " did not resolve to any A/AAAA address." = 0 := breaks_ofList (by decide)
    have hopening : breaks "Nameserver " = 0 := rfl
    change breaksIn [ns.name] + breaksIn ["Nameserver " ++ ns.name ++
      " did not resolve to any A/AAAA address."] = breaksIn []
    simp only [breaksIn_cons, breaksIn_nil, breaks_append, hn, breaks_name, hopening, hclosing]
  | @privateAddress ns host a ha =>
    obtain ⟨n, hn⟩ := host
    have hpublishes : breaks " publishes RFC 1918 address " = 0 := breaks_ofList (by decide)
    have hopening : breaks "Nameserver " = 0 := rfl
    have hclosing : breaks "." = 0 := rfl
    change breaksIn [ns.name] + breaksIn ["Nameserver " ++ ns.name ++ " publishes RFC 1918 address " ++
      a.text ++ "."] = breaksIn []
    simp only [breaksIn_cons, breaksIn_nil, breaks_append, hn, breaks_name, breaks_address ha, hopening,
      hpublishes, hclosing]
  | singleNameserver nameservers =>
    have hclosing : breaks " nameserver is delegated; there is no redundancy." = 0 := breaks_ofList (by decide)
    have hopening : breaks "Only " = 0 := rfl
    change breaksIn [] + breaksIn ["Only " ++ Number.natString nameservers.length ++
      " nameserver is delegated; there is no redundancy."] = breaksIn []
    simp only [breaksIn_cons, breaksIn_nil, breaks_append, breaks_natString, hopening, hclosing]
  | sameSubnet v4 =>
    have hdetail : breaks "All nameserver IPv4 addresses are in the same /24." = 0 :=
      breaks_ofList (by decide)
    exact hdetail
  | singleNetwork asn =>
    have hopening : breaks "All nameserver addresses are announced by AS" = 0 := breaks_ofList (by decide)
    have hclosing : breaks "." = 0 := rfl
    change breaksIn [] + breaksIn ["All nameserver addresses are announced by AS" ++
      Number.intString asn ++ "."] = breaksIn []
    simp only [breaksIn_cons, breaksIn_nil, breaks_append, breaks_intString, hopening, hclosing]
  | @checkFailed type host a ha e he =>
    have hplace : breaks (Check.place ⟨type.text, host.text, a.text, zone⟩) = 0 :=
      breaks_place (breaks_name host) (breaks_address ha)
    have hfailed : breaks " failed on " = 0 := rfl
    have hfor : breaks " for " = 0 := rfl
    change breaksIn [Check.place ⟨type.text, host.text, a.text, zone⟩] + breaksIn [type.text ++
      " failed on " ++ Check.place ⟨type.text, host.text, a.text, zone⟩ ++ " for " ++ zone ++ ": " ++
      e.message] = breaksIn [e.message]
    simp only [breaksIn_cons, breaksIn_nil, breaks_append, breaks_type, hplace, hzone, hfailed, hfor, hcolon]
    omega
  | @inconsistent host a ha delegated served =>
    have hdetail : breaks "Nameserver serves an NS RRset that differs from the delegation." = 0 :=
      breaks_ofList (by decide)
    have hplace : breaks (host.text ++ " (" ++ a.text ++ ")") = 0 :=
      breaks_place (c := ⟨"", host.text, a.text, zone⟩) (breaks_name host) (breaks_address ha)
    change breaksIn [host.text ++ " (" ++ a.text ++ ")"] + breaksIn
      ["Nameserver serves an NS RRset that differs from the delegation."] = breaksIn []
    simp only [breaksIn_cons, breaksIn_nil, hplace, hdetail]

end Findings

namespace Report

variable {r : Report}

theorem breaks_header (hzone : breaks r.zone = 0) (hparent : breaks r.parent = 0) :
    breaks r.header = breaks r.resolver := by
  have hopening : breaks "== " = 0 := rfl
  have hparents : breaks " == (parent " = 0 := rfl
  have hresolver : breaks ", resolver " = 0 := rfl
  have hclosing : breaks ")" = 0 := rfl
  unfold header
  simp only [breaks_append, hopening, hparents, hresolver, hclosing, hzone, hparent]
  omega

theorem breaks_verdictLine (hoverall : breaks r.overall.text = 0) : breaks r.verdictLine = 0 := by
  have hopening : breaks "Overall: " = 0 := rfl
  have hissues : breaks " | Issues: " = 0 := rfl
  have hhigh : breaks " | High: " = 0 := rfl
  have hmedium : breaks " | Medium: " = 0 := rfl
  have hlow : breaks " | Low: " = 0 := rfl
  have hscore : breaks " | Score: " = 0 := rfl
  unfold verdictLine
  simp only [breaks_append, breaks_natString, hopening, hissues, hhigh, hmedium, hlow, hscore, hoverall]

theorem breaks_findingLines
    (h : ∀ f ∈ r.findings, breaksIn [f.pageLine, f.adviceLine] = breaksIn f.foreign) :
    breaksIn r.findingLines = breaksIn (r.findings.flatMap Finding.foreign) := by
  rw [findingLines]
  split
  next hnone => rw [hnone]; rfl
  next => exact breaksIn_flatMap_congr h

/-- The lines of a report about an unbroken zone have the breaks of its foreign texts, no more and no
fewer. -/
theorem Traced.breaks_sheet {s : Scan Float} {zone : String} {session : Session Float}
    (h : r.Traced s zone session) (hmade : r.Made Float) (hzone : breaks zone = 0)
    (hparent : breaks r.parent = 0) (hoverall : breaks r.overall.text = 0) :
    breaksIn r.sheet = breaksIn r.foreign := by
  have habout : breaks r.zone = 0 := h.about ▸ hzone
  have hservers : breaksIn (r.nameservers.map Nameserver.pageLine) =
      breaksIn (r.nameservers.flatMap Nameserver.foreign) := by
    rw [List.map_eq_flatMap]
    refine breaksIn_flatMap_congr fun ns hns => ?_
    rw [breaksIn_singleton, (h.nameservers ns hns).breaks_pageLine]
  have hfindings := breaks_findingLines fun f hf =>
    ((hmade.findings f hf).breaks_lines).trans ((h.findings f hf).breaks_said hzone)
  rw [sheet, foreign]
  simp only [breaksIn_append, breaksIn_cons, breaksIn_nil, breaks_empty, breaks_header habout hparent,
    breaks_verdictLine hoverall, hservers, hfindings]
  omega

end Report

end DelegationAudit
