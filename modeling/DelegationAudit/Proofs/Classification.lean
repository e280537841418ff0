import DelegationAudit.Proofs.Findings
import Mathlib.Data.List.Infix

namespace DelegationAudit

namespace Text

variable {α : Type} {w s t : List α} {c : α}

/-- What does not hold the character between two texts lies in one of them. -/
theorem infix_append_cons_iff (hc : c ∉ w) : w <:+: s ++ c :: t ↔ w <:+: s ∨ w <:+: t := by
  have hempty : ∀ {v}, v <+: c :: t → c ∉ v → v = [] := by
    intro v hv hcv
    rcases List.prefix_cons_iff.mp hv with hnil | ⟨rest, rfl, -⟩
    · exact hnil
    · exact absurd List.mem_cons_self hcv
  constructor
  · intro h
    rcases List.infix_append_iff.mp h with h | h | ⟨u, v, rfl, hu, hv⟩
    · exact .inl h
    · rcases List.infix_cons_iff.mp h with h | h
      · exact .inl (hempty h hc ▸ List.nil_infix)
      · exact .inr h
    · have hnil : v = [] := hempty hv fun hcv => hc (List.mem_append_right u hcv)
      rw [hnil, List.append_nil]
      exact .inl hu.isInfix
  · rintro (h | h)
    · exact h.trans (List.prefix_append _ _).isInfix
    · exact h.trans ((List.suffix_cons c t).trans (List.suffix_append s _)).isInfix

/-- What no beginning of ends an opening lies behind it. -/
theorem infix_opening_iff (hopening : ¬ w <:+: s) (h : ∀ u ∈ w.inits, u <:+ s → u = []) :
    w <:+: s ++ t ↔ w <:+: t := by
  constructor
  · intro hw
    rcases List.infix_append_iff.mp hw with hw | hw | ⟨u, v, rfl, hu, hv⟩
    · exact absurd hw hopening
    · exact hw
    · have hnil : u = [] := h u ((List.mem_inits _ _).mpr (List.prefix_append u v)) hu
      rw [hnil, List.nil_append]
      exact hv.isInfix
  · exact fun hw => hw.trans (List.suffix_append s t).isInfix

end Text

namespace Failure

/-- A failure that is to be expected of a survey: there are no records, or no such name. -/
inductive Expected : Failure → Prop
  | noRecords (type : Dns.RecordType) : Expected (.noRecords type)
  | noSuchName : Expected (.rejected .noSuchName)

/-- A text that holds the words by which an expected outcome is told. -/
def Mentions (text : String) : Prop := ∃ marker ∈ benignMarkers, marker.toList <:+: text.toList

instance (text : String) : Decidable (Mentions text) :=
  inferInstanceAs (Decidable (∃ marker ∈ benignMarkers, marker.toList <:+: text.toList))

/-- A failure that a check reports: none that is to be expected, and none that reads like one. -/
def Reported (e : Failure) : Prop := ¬ e.Expected ∧ ¬ Mentions e.message

theorem any_markers_iff (text : String) :
    (benignMarkers.any fun m => Text.occursIn m.toList text.toList) = true ↔ Mentions text := by
  simp only [List.any_eq_true, Text.occursIn_iff_infix, Mentions]

theorem expected_rejected_iff (code : Dns.ResponseCode) :
    (rejected code).Expected ↔ code = .noSuchName := by
  constructor
  · intro h
    cases h
    rfl
  · rintro rfl
    exact .noSuchName

/-- What is to be expected is told by the class of a failure, or else read out of its text. -/
theorem isBenign_iff (e : Failure) : e.isBenign = true ↔ e.Expected ∨ Mentions e.message := by
  have hother : ¬ e.Expected →
      ((benignMarkers.any fun m => Text.occursIn m.toList e.message.toList) = true ↔
        e.Expected ∨ Mentions e.message) := by
    intro hunexpected
    rw [any_markers_iff, or_iff_right hunexpected]
  cases e with
  | noRecords type =>
    have hexpected : (noRecords type).Expected := .noRecords type
    exact ⟨fun _ => .inl hexpected, fun _ => rfl⟩
  | rejected code => rw [isBenign, Bool.or_eq_true, beq_iff_eq, any_markers_iff, expected_rejected_iff]
  | plain => exact hother nofun
  | transport => exact hother nofun
  | invalidQuestion => exact hother nofun
  | noNameservers => exact hother nofun
  | absent => exact hother nofun

theorem mentions_append_colon (s t : String) : Mentions (s ++ ":" ++ t) ↔ Mentions s ∨ Mentions t := by
  have hcolon : ∀ marker ∈ benignMarkers, ':' ∉ marker.toList := by decide +kernel
  have hacross : ∀ marker ∈ benignMarkers, marker.toList <:+: (s ++ ":" ++ t).toList ↔
      marker.toList <:+: s.toList ∨ marker.toList <:+: t.toList := by
    intro marker hmarker
    rw [← Text.infix_append_cons_iff (hcolon marker hmarker)]
    simp
  constructor
  · rintro ⟨marker, hmarker, h⟩
    exact ((hacross marker hmarker).mp h).imp (fun h => ⟨marker, hmarker, h⟩) fun h =>
      ⟨marker, hmarker, h⟩
  · rintro (⟨marker, hmarker, h⟩ | ⟨marker, hmarker, h⟩)
    · exact ⟨marker, hmarker, (hacross marker hmarker).mpr (.inl h)⟩
    · exact ⟨marker, hmarker, (hacross marker hmarker).mpr (.inr h)⟩

/-- An opening with which none of the words has anything in common. -/
def Mute (opening : String) : Prop :=
  ∀ marker ∈ benignMarkers, ¬ marker.toList <:+: opening.toList ∧
    ∀ u ∈ marker.toList.inits, u <:+ opening.toList → u = []

instance (opening : String) : Decidable (Mute opening) :=
  inferInstanceAs (Decidable (∀ marker ∈ benignMarkers, ¬ marker.toList <:+: opening.toList ∧
    ∀ u ∈ marker.toList.inits, u <:+ opening.toList → u = []))

theorem Mute.mentions_append {opening : String} (h : Mute opening) (text : String) :
    Mentions (opening ++ text) ↔ Mentions text := by
  have hbehind : ∀ marker ∈ benignMarkers,
      marker.toList <:+: (opening ++ text).toList ↔ marker.toList <:+: text.toList := by
    intro marker hmarker
    obtain ⟨hopening, hinits⟩ := h marker hmarker
    rw [String.toList_append]
    exact Text.infix_opening_iff hopening hinits
  constructor
  · rintro ⟨marker, hmarker, h⟩
    exact ⟨marker, hmarker, (hbehind marker hmarker).mp h⟩
  · rintro ⟨marker, hmarker, h⟩
    exact ⟨marker, hmarker, (hbehind marker hmarker).mpr h⟩

theorem not_mentions_kindName (e : Failure) : ¬ Mentions e.kindName := by
  have hkinds : ∀ k ∈ Kind.all, ¬ Mentions k.name := by decide +kernel
  have hothers : ∀ word ∈ ["TransportError", "InvalidQuestion", "ServerRejected", "NoRecords",
      "NoNameservers", "NoneType"], ¬ Mentions word := by decide +kernel
  cases e with
  | plain kind text => exact hkinds kind (by cases kind <;> decide)
  | transport => exact hothers "TransportError" (by simp)
  | invalidQuestion => exact hothers "InvalidQuestion" (by simp)
  | rejected => exact hothers "ServerRejected" (by simp)
  | noRecords => exact hothers "NoRecords" (by simp)
  | noNameservers => exact hothers "NoNameservers" (by simp)
  | absent => exact hothers "NoneType" (by simp)

/-- A transport failure reads like an expected outcome when the server's name or the text of what the
transport met does. -/
theorem mentions_transport (server : String) (cause : Failure) :
    Mentions (transport server cause).message ↔ Mentions server ∨ Mentions cause.message := by
  have hopening : Mute "transport failure talking to " := by decide +kernel
  have hblank : Mute " " := by decide +kernel
  have hcolon : ": " = ":" ++ " " := by decide +kernel
  have hmessage : (transport server cause).message = "transport failure talking to " ++ server ++
      ": " ++ cause.kindName ++ ": " ++ cause.message := rfl
  have hparts : (transport server cause).message = "transport failure talking to " ++ server ++ ":" ++
      (" " ++ cause.kindName ++ ":" ++ (" " ++ cause.message)) := by
    rw [hmessage, hcolon]
    simp only [String.append_assoc]
  rw [hparts, mentions_append_colon, mentions_append_colon, hopening.mentions_append,
    hblank.mentions_append, hblank.mentions_append]
  have hkind := cause.not_mentions_kindName
  tauto

/-- No number is told by letters. -/
theorem not_mentions_natString (n : Nat) : ¬ Mentions (Number.natString n) := by
  have hletter : ∀ marker ∈ benignMarkers, (marker.toList.all Char.isDigit) = false := by
    decide +kernel
  rintro ⟨marker, hmarker, h⟩
  rw [Number.natString, String.toList_ofList] at h
  have hdigits : (marker.toList.all Char.isDigit) = true := by
    rw [List.all_eq_true]
    intro c hc
    exact Nat.isDigit_of_mem_toDigits (by decide) (by decide) (h.subset hc)
  rw [hletter marker hmarker] at hdigits
  cases hdigits

theorem mentions_codeText (code : Dns.ResponseCode) :
    Mentions code.text ↔ code = .noSuchName := by
  have hwords : ∀ row ∈ Dns.ResponseCode.names, Mentions row.2 ↔ row.1 = 3 := by decide +kernel
  have hmissing : code = .noSuchName ↔ code.code.val = 3 := by
    obtain ⟨n⟩ := code
    rw [Dns.ResponseCode.noSuchName, Dns.ResponseCode.mk.injEq, Fin.ext_iff]
    rfl
  rw [hmissing, Dns.ResponseCode.text]
  rcases hlookup : Dns.ResponseCode.names.lookup code.code.val with _ | text
  · have hother : (code.code.val != 3) = true :=
      List.lookup_eq_none_iff.mp hlookup (3, "NXDOMAIN") (by decide)
    exact iff_of_false (not_mentions_natString _) (bne_iff_ne.mp hother)
  · obtain ⟨before, after, hnames, -⟩ := List.lookup_eq_some_iff.mp hlookup
    exact hwords (code.code.val, text) (by rw [hnames]; simp)

/-- Of the refusals only that of a missing name reads like an expected outcome. -/
theorem mentions_rejected (code : Dns.ResponseCode) :
    Mentions (rejected code).message ↔ code = .noSuchName := by
  have hfailure : ¬ Mentions "failure" := by decide +kernel
  have hblank : Mute " " := by decide +kernel
  have hopening : "failure: " = "failure" ++ ":" ++ " " := by decide +kernel
  have hmessage : (rejected code).message = "failure: " ++ code.text := rfl
  rw [hmessage, hopening, String.append_assoc, mentions_append_colon, or_iff_right hfailure,
    hblank.mentions_append, mentions_codeText]

theorem reported_rejected_iff (code : Dns.ResponseCode) :
    (rejected code).Reported ↔ code ≠ .noSuchName := by
  rw [Reported, mentions_rejected, expected_rejected_iff, and_self]

theorem reported_transport_iff (server : String) (cause : Failure) :
    (transport server cause).Reported ↔ ¬ Mentions server ∧ ¬ Mentions cause.message := by
  have hunexpected : ¬ (transport server cause).Expected := nofun
  rw [Reported, mentions_transport, not_or, and_iff_right hunexpected]

theorem reported_plain_iff (kind : Kind) (text : String) :
    (plain kind text).Reported ↔ ¬ Mentions text := by
  have hunexpected : ¬ (plain kind text).Expected := nofun
  have hmessage : (plain kind text).message = text := rfl
  rw [Reported, hmessage, and_iff_right hunexpected]

theorem not_reported_noRecords (type : Dns.RecordType) : ¬ (noRecords type).Reported :=
  fun h => h.1 (.noRecords type)

theorem isBenign_eq_false_iff (e : Failure) : e.isBenign = false ↔ e.Reported := by
  rw [Bool.eq_false_iff, Ne, isBenign_iff, not_or, Reported]

end Failure

theorem Finding.between_some {opening closing s : String} (h : s ≠ "") :
    between opening closing (some s) = opening ++ s ++ closing := by
  have hempty : ¬ s.isEmpty = true := by rwa [String.isEmpty_iff]
  rw [between, if_neg hempty]

namespace Check

open Finding

variable {τ : Type}

theorem failure_line (c : Check) (e : Failure) :
    (c.failure e).line = "ERR : CHECK_FAILED [" ++ c.place ++ "]: " ++ c.name ++ " failed on " ++
      c.place ++ " for " ++ c.zone ++ ": " ++ e.message := by
  have hplace : c.place ≠ "" := by simp [place]
  have hdetail : c.name ++ " failed on " ++ c.place ++ " for " ++ c.zone ++ ": " ++ e.message ≠ "" := by
    simp
  have hopening : Severity.high.label ++ " : " ++ Issue.checkFailed.text ++ " [" =
      "ERR : CHECK_FAILED [" := by decide +kernel
  have hclosing : "]: " = "]" ++ ": " := by decide +kernel
  have hline : (c.failure e).line = Severity.high.label ++ " : " ++ Issue.checkFailed.text ++
      Finding.between " [" "]" (some c.place) ++ Finding.between ": " "" (some
        (c.name ++ " failed on " ++ c.place ++ " for " ++ c.zone ++ ": " ++ e.message)) := rfl
  rw [hline, between_some hplace, between_some hdetail, ← hopening, hclosing]
  simp only [String.append_assoc, String.append_empty]

theorem record_reported {e : Failure} (h : e.Reported) (c : Check) (found : Bool) (p : Progress τ) :
    (Scan.record (c.classify (some e) found) p).report = p.report.add (c.failure e) := by
  have hbenign : e.isBenign = false := e.isBenign_eq_false_iff.mpr h
  rw [Scan.record_report, classify, hbenign]
  rfl

theorem record_unreported {error : Option Failure} (h : ¬ ∃ e, error = some e ∧ e.Reported) (c : Check)
    (found : Bool) (p : Progress τ) :
    (Scan.record (c.classify error found) p).report = p.report := by
  have hnone : (c.classify error found).finding = none := by
    cases error with
    | none => cases found <;> rfl
    | some e =>
      have hbenign : e.isBenign = true := by
        rw [← Bool.not_eq_false, e.isBenign_eq_false_iff]
        exact fun hreported => h ⟨e, rfl, hreported⟩
      rw [classify, hbenign]
      rfl
  rw [Scan.record_report, hnone]
  exact Report.addAll_nil p.report

/-- A check fails when there is a failure or nothing was found. Its one finding is about a failure that is
neither to be expected nor reads as if it were: a refusal is reported unless the name is missing, and a
transport failure unless the server's name, or the text of what the transport met, holds one of the
words. Without such a failure the report stays as it is. -/
theorem classify_reports {α : Type} (c : Check) (error : Option Failure) (records : List α)
    (p : Progress τ) :
    ((c.classify error (!records.isEmpty)).failed = true ↔ error ≠ none ∨ records = []) ∧
    ((∃ e, error = some e ∧ e.Reported ∧
        (Scan.record (c.classify error (!records.isEmpty)) p).report = p.report.add (c.failure e)) ∨
      ((¬ ∃ e, error = some e ∧ e.Reported) ∧
        (Scan.record (c.classify error (!records.isEmpty)) p).report = p.report)) ∧
    (∀ e, (c.failure e).issue = .checkFailed ∧ (c.failure e).severity = .high ∧
      (c.failure e).line = "ERR : CHECK_FAILED [" ++ c.place ++ "]: " ++ c.name ++ " failed on " ++
        c.place ++ " for " ++ c.zone ++ ": " ++ e.message) ∧
    (∀ type, ¬ (Failure.noRecords type).Reported) ∧
    (∀ code, (Failure.rejected code).Reported ↔ code ≠ .noSuchName) ∧
    (∀ kind text, (Failure.plain kind text).Reported ↔ ¬ Failure.Mentions text) ∧
    (∀ server cause, (Failure.transport server cause).Reported ↔
      ¬ Failure.Mentions server ∧ ¬ Failure.Mentions cause.message) := by
  have hfailed : (c.classify error (!records.isEmpty)).failed = true ↔ error ≠ none ∨ records = [] := by
    cases error with
    | none => cases records <;> simp [classify]
    | some e => simp [classify]
  refine ⟨hfailed, ?_, fun e => ⟨rfl, rfl, c.failure_line e⟩, Failure.not_reported_noRecords,
    Failure.reported_rejected_iff, Failure.reported_plain_iff, Failure.reported_transport_iff⟩
  by_cases hreported : ∃ e, error = some e ∧ e.Reported
  · obtain ⟨e, rfl, he⟩ := hreported
    exact .inl ⟨e, rfl, he, record_reported he c _ p⟩
  · exact .inr ⟨hreported, record_unreported hreported c _ p⟩

/-- A system error of a transport goes unreported for the words of its text. -/
theorem classify_reports_hidden :
    let e := Failure.transport "203.0.113.1" (.plain .os "no records for ns1")
    let c : Check := ⟨"SOA", "ns1.example.com.", "203.0.113.1", "example.com"⟩
    let p : Progress Float := ⟨.start "example.com" "8.8.8.8" "com.", ⟨.start 0 1 [] [], []⟩, []⟩
    ¬ e.Expected ∧ ¬ e.Reported ∧ (Scan.record (c.classify (some e) false) p).report = p.report := by
  intro e c p
  have hunexpected : ¬ (Failure.transport "203.0.113.1" (.plain .os "no records for ns1")).Expected :=
    nofun
  have hwords : Failure.Mentions "no records for ns1" := by decide +kernel
  obtain ⟨-, hreport, -, -, -, -, htransport⟩ := classify_reports c (some e) ([] : List Dns.Record) p
  have hunreported : ¬ e.Reported := fun h => ((htransport _ _).mp h).2 hwords
  rcases hreport with ⟨_, he, hreported, -⟩ | ⟨-, hsame⟩
  · cases he
    exact absurd hreported hunreported
  · exact ⟨hunexpected, hunreported, hsame⟩

end Check

end DelegationAudit
