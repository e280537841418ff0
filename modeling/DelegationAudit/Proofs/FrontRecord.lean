import DelegationAudit.Proofs.TextAnswers
import DelegationAudit.Proofs.Upshot

namespace DelegationAudit

open Dns

def Dns.Record.alone (r : Record) : RecordSet := ⟨r.owner, r.ttl, [r.data]⟩

theorem Dns.recordsOf_alone (records : List Record) : recordsOf (records.map Record.alone) = records := by
  rw [recordsOf, List.flatMap_map]
  exact List.flatMap_singleton' records

/-- The first text record of an answer, alone. -/
def Answer.foremost (answer : Answer) : Answer :=
  ⟨answer.code, ((answer.holding .txt).take 1).map Record.alone⟩

theorem Answer.filterByType_foremost (answer : Answer) :
    filterByType [.txt] (recordsOf answer.foremost.sets) = (answer.holding .txt).take 1 := by
  have hkept : ∀ r ∈ answer.holding .txt, [RecordType.txt].contains r.type = true := by
    rw [← filterByType_recordsOf]
    exact fun r hr => (List.mem_filter.mp hr).2
  rw [foremost, recordsOf_alone, filterByType, List.filter_eq_self]
  exact fun r hr => hkept r (List.mem_of_mem_take hr)

variable {τ : Type}

/-- A network that tells only the first text record of each reply. -/
def Network.foremost (w : Network τ) : Network τ := w.mapText Answer.foremost

variable [Instant τ]

namespace Client

variable (c : Client τ) (name : String) (server : String) (secure : Bool) (w : Network τ)

theorem ask_foremost {type : RecordType} (h : type ≠ .txt) :
    c.ask name type server secure w.foremost =
      ((c.ask name type server secure w).1, (c.ask name type server secure w).2.foremost) := by
  unfold ask
  cases hquery : buildQuery name type secure with
  | error e => rfl
  | ok query =>
    obtain rfl := buildQuery_type hquery
    dsimp only
    rw [Network.foremost, Network.exchange_mapText, mapText_of_ne _ h]
    generalize w.exchange ⟨server, c.port, c.timeout, query⟩ = x
    obtain ⟨reply, u⟩ := x
    cases reply with
    | error e =>
      dsimp only
      split <;> rfl
    | ok answer =>
      dsimp only
      split <;> rfl

theorem resolve_foremost {type : RecordType} (h : type ≠ .txt) :
    c.resolve name type server secure w.foremost =
      ((c.resolve name type server secure w).1, (c.resolve name type server secure w).2.foremost) := by
  unfold resolve
  rw [c.ask_foremost name server secure w h]
  generalize c.ask name type server secure w = x
  obtain ⟨result, u⟩ := x
  cases result with
  | error e => rfl
  | ok outcome =>
    dsimp only
    split <;> rfl

theorem resolve_txt_foremost :
    c.resolve name .txt server secure w.foremost =
      ((c.resolve name .txt server secure w).1.map (Prod.map (List.take 1) id),
        (c.resolve name .txt server secure w).2.foremost) := by
  unfold resolve ask
  cases hquery : buildQuery name .txt secure with
  | error e => rfl
  | ok query =>
    have htype := buildQuery_type hquery
    dsimp only
    rw [Network.foremost, Network.exchange_mapText, htype, mapText_txt]
    generalize w.exchange ⟨server, c.port, c.timeout, query⟩ = x
    obtain ⟨reply, u⟩ := x
    cases reply with
    | error e =>
      dsimp only [Except.map]
      cases e.isAbsorbed <;> rfl
    | ok answer =>
      have hcode : answer.foremost.code = answer.code := rfl
      dsimp only [Except.map]
      rw [hcode]
      cases answer.code == .noError with
      | false => rfl
      | true =>
        simp only [↓reduceIte]
        -- Nothing is left of the records but what is asked for, so there are none just where there were none.
        rw [Answer.filterByType_foremost, Answer.filterByType_recordsOf]
        cases answer.holding .txt <;> rfl

end Client

namespace Discovery

variable (client : Client τ) (server : String) (w : Network τ)

theorem addresses_foremost (host : String) {type : RecordType} (h : type ≠ .txt) :
    addresses client server host type w.foremost =
      ((addresses client server host type w).1, (addresses client server host type w).2.foremost) := by
  unfold addresses
  rw [client.resolve_foremost host server false w h]
  generalize client.resolve host type server false w = x
  obtain ⟨result, u⟩ := x
  cases result with
  | ok found => rfl
  | error e =>
    dsimp only
    split <;> rfl

theorem nameserver_foremost (host : String) :
    nameserver client server host w.foremost =
      ((nameserver client server host w).1, (nameserver client server host w).2.foremost) := by
  unfold nameserver
  rw [addresses_foremost client server w host (by decide)]
  generalize addresses client server host .a w = x
  obtain ⟨result, u⟩ := x
  cases result with
  | error e => rfl
  | ok v4 =>
    dsimp only
    rw [addresses_foremost client server u host (by decide)]
    generalize addresses client server host .aaaa u = x
    obtain ⟨result, u'⟩ := x
    cases result <;> rfl

theorem nameservers_foremost (hosts : List String) :
    nameservers client server hosts w.foremost =
      ((nameservers client server hosts w).1, (nameservers client server hosts w).2.foremost) := by
  induction hosts generalizing w with
  | nil => rfl
  | cons host rest ih =>
    unfold nameservers
    rw [nameserver_foremost]
    generalize nameserver client server host w = x
    obtain ⟨result, u⟩ := x
    cases result with
    | error e => rfl
    | ok ns =>
      dsimp only
      rw [ih]
      generalize nameservers client server rest u = x
      obtain ⟨result, u'⟩ := x
      cases result <;> rfl

end Discovery

theorem discover_foremost (client : Client τ) (server domain : String) (w : Network τ) :
    discover client server domain w.foremost =
      ((discover client server domain w).1, (discover client server domain w).2.foremost) := by
  unfold discover
  rw [client.resolve_foremost domain server false w (by decide)]
  generalize client.resolve domain .ns server false w = x
  obtain ⟨result, u⟩ := x
  cases result with
  | error e => rfl
  | ok found =>
    dsimp only
    rw [Discovery.nameservers_foremost]
    generalize Discovery.nameservers client server (targetsOf found.1) u = x
    obtain ⟨result, u'⟩ := x
    cases result with
    | error e => rfl
    | ok more => cases more <;> rfl

def Session.foremost (s : Session τ) : Session τ := ⟨s.network.foremost, s.cache⟩

namespace Ownership.Source

variable (source : Source τ)

theorem ask_foremost (name : String) (w : Network τ) :
    source.ask name w.foremost = ((source.ask name w).1, (source.ask name w).2.foremost) := by
  unfold ask
  rw [source.client.resolve_txt_foremost]
  generalize source.client.resolve name .txt source.server false w = x
  obtain ⟨result, u⟩ := x
  cases result with
  | error e => rfl
  | ok found =>
    obtain ⟨records, span⟩ := found
    have hfirst : (records.take 1).head? = records.head? := by cases records <;> rfl
    dsimp only [Except.map, Prod.map]
    rw [hfirst]
    split <;> rfl

theorem organization_foremost (asn : Int) (w : Network τ) :
    source.organization asn w.foremost =
      ((source.organization asn w).1, (source.organization asn w).2.foremost) := by
  unfold organization
  rw [ask_foremost]
  generalize source.ask (networkName asn) w = x
  obtain ⟨result, u⟩ := x
  cases result with
  | ok parts => rfl
  | error e =>
    dsimp only
    split <;> rfl

theorem readOrigin_foremost (key : String) (parts : List (List Char)) (w : Network τ) :
    source.readOrigin key parts w.foremost =
      ((source.readOrigin key parts w).1, (source.readOrigin key parts w).2.foremost) := by
  unfold readOrigin
  split
  next networks block country more =>
    split
    next => rfl
    next asn _ =>
      rw [organization_foremost]
      generalize source.organization asn w = x
      obtain ⟨result, u⟩ := x
      cases result <;> rfl
  next => rfl

theorem fetch_foremost (a : Net.Address) (w : Network τ) :
    source.fetch a w.foremost = ((source.fetch a w).1, (source.fetch a w).2.foremost) := by
  unfold fetch
  split
  next => rfl
  next name _ =>
    rw [ask_foremost]
    generalize source.ask name w = x
    obtain ⟨result, u⟩ := x
    cases result with
    | error e => rfl
    | ok parts => exact source.readOrigin_foremost a.text parts u

theorem remembered_foremost (key : String) (s : Session τ) :
    source.remembered key s.foremost =
      ((source.remembered key s).1, (source.remembered key s).2.foremost) := by
  unfold remembered
  have hcache : s.foremost.cache = s.cache := rfl
  rw [hcache]
  cases s.cache.find? key with
  | none => rfl
  | some entry =>
    have hclock : s.foremost.network.clock = s.network.clock := rfl
    dsimp only
    rw [hclock]
    split <;> rfl

theorem lookup_foremost (a : Net.Address) (s : Session τ) :
    source.lookup a s.foremost = ((source.lookup a s).1, (source.lookup a s).2.foremost) := by
  unfold lookup
  rw [remembered_foremost]
  generalize source.remembered a.text s = x
  obtain ⟨known, t⟩ := x
  cases known with
  | some info => rfl
  | none =>
    dsimp only [Session.foremost]
    rw [fetch_foremost]
    generalize source.fetch a t.network = x
    obtain ⟨result, u⟩ := x
    cases result <;> rfl

end Ownership.Source

def Progress.foremost (p : Progress τ) : Progress τ := { p with session := p.session.foremost }

omit [Instant τ] in
theorem Progress.looked_foremost (p : Progress τ) : p.foremost.looked = p.looked.foremost := rfl

namespace Scan

variable (s : Scan τ)

theorem owners_foremost (host : String) (addresses : List Net.Address)
    (known : List (String × Ownership)) (session : Session τ) :
    s.owners host addresses known session.foremost =
      ((s.owners host addresses known session).1,
        (s.owners host addresses known session).2.foremost) := by
  induction addresses generalizing known session with
  | nil => rfl
  | cons a rest ih =>
    unfold owners
    rw [s.source.lookup_foremost]
    generalize s.source.lookup a session = x
    obtain ⟨result, t⟩ := x
    cases result with
    | ok o => exact ih (setOwner a.text o known) t
    | error e =>
      dsimp only
      split
      · exact ih known (noteMissing host a e t)
      · rfl

theorem inTime_foremost (p : Progress τ) : s.inTime p.foremost = s.inTime p := rfl

theorem skip_foremost (step : Step) (p : Progress τ) :
    s.skip step p.foremost = (s.skip step p).foremost := by
  have hreport : p.foremost.report = p.report := rfl
  rw [skip, skip, hreport]
  split <;> rfl

theorem enrichOne_foremost (ns : Nameserver) (p : Progress τ) :
    s.enrichOne ns p.foremost = ((s.enrichOne ns p).1, (s.enrichOne ns p).2.foremost) := by
  have hsession : p.foremost.session = p.session.foremost := rfl
  unfold enrichOne
  rw [inTime_foremost, hsession, owners_foremost, p.looked_foremost, skip_foremost]
  split
  · generalize s.owners ns.name ns.addresses [] p.session = x
    obtain ⟨result, t⟩ := x
    cases result <;> rfl
  · rfl

theorem enrichAll_foremost (nameservers : List Nameserver) (p : Progress τ) :
    s.enrichAll nameservers p.foremost =
      ((s.enrichAll nameservers p).1, (s.enrichAll nameservers p).2.foremost) := by
  induction nameservers generalizing p with
  | nil => rfl
  | cons ns rest ih =>
    unfold enrichAll
    rw [enrichOne_foremost]
    generalize s.enrichOne ns p = x
    obtain ⟨result, q⟩ := x
    cases result with
    | error e => rfl
    | ok ns' =>
      dsimp only
      rw [ih]
      generalize s.enrichAll rest q = x
      obtain ⟨result, q'⟩ := x
      cases result <;> rfl

theorem enrich_foremost (nameservers : List Nameserver) (p : Progress τ) :
    s.enrich nameservers p.foremost =
      ((s.enrich nameservers p).1, (s.enrich nameservers p).2.foremost) := by
  unfold enrich
  split
  · exact s.enrichAll_foremost nameservers p
  · rfl

theorem question_foremost (name : String) {type : RecordType} (h : type ≠ .txt) (address : String)
    (w : Network τ) :
    s.question name type address w.foremost =
      ((s.question name type address w).1, (s.question name type address w).2.foremost) := by
  unfold question
  rw [(s.client.withPort authoritativePort).resolve_foremost name address false w h]
  generalize (s.client.withPort authoritativePort).resolve name type address false w = x
  obtain ⟨result, u⟩ := x
  cases result with
  | ok found => rfl
  | error e =>
    dsimp only
    split <;> rfl

omit [Instant τ] in
theorem record_foremost (verdict : Verdict) (p : Progress τ) :
    record verdict p.foremost = (record verdict p).foremost := by
  unfold record
  cases verdict.note <;> cases verdict.finding <;> rfl

theorem check_foremost (name : String) {type : RecordType} (h : type ≠ .txt) (host address : String)
    (p : Progress τ) :
    s.check name type host address p.foremost =
      ((s.check name type host address p).1, (s.check name type host address p).2.foremost) := by
  have hnetwork : p.foremost.session.network = p.session.network.foremost := rfl
  unfold check
  rw [hnetwork, s.question_foremost name h]
  generalize s.question name type address p.session.network = x
  obtain ⟨result, u⟩ := x
  cases result with
  | error e => rfl
  | ok answer => exact congrArg (_, ·) (record_foremost _ ⟨p.report, ⟨u, p.session.cache⟩, p.readings⟩)

theorem probeOne_foremost (name : String) (delegated : List String) (host : String) (a : Net.Address)
    (h : Harvest) (p : Progress τ) :
    s.probeOne name delegated host a h p.foremost =
      ((s.probeOne name delegated host a h p).1,
        (s.probeOne name delegated host a h p).2.foremost) := by
  unfold probeOne
  rw [s.check_foremost name (by decide)]
  generalize s.check name .soa host a.text p = x
  obtain ⟨result, q⟩ := x
  cases result with
  | error e => rfl
  | ok soa =>
    dsimp only
    rw [s.check_foremost name (by decide)]
    generalize s.check name .ns host a.text q = x
    obtain ⟨result, q'⟩ := x
    cases result with
    | error e => rfl
    | ok answer =>
      dsimp only
      split <;> rfl

theorem probeAll_foremost (name : String) (delegated : List String)
    (targets : List (String × Net.Address)) (h : Harvest) (p : Progress τ) :
    s.probeAll name delegated targets h p.foremost =
      ((s.probeAll name delegated targets h p).1,
        (s.probeAll name delegated targets h p).2.foremost) := by
  induction targets generalizing h p with
  | nil => rfl
  | cons target rest ih =>
    obtain ⟨host, a⟩ := target
    unfold probeAll
    rw [inTime_foremost, p.looked_foremost, probeOne_foremost, skip_foremost]
    split
    · generalize s.probeOne name delegated host a h p.looked = x
      obtain ⟨result, q⟩ := x
      cases result with
      | error e => rfl
      | ok h' => exact ih h' q
    · rfl

theorem probe_foremost (name : String) (p : Progress τ) :
    s.probe name p.foremost = ((s.probe name p).1, (s.probe name p).2.foremost) := by
  have hreport : p.foremost.report = p.report := rfl
  unfold probe
  rw [hreport, probeAll_foremost]
  generalize s.probeAll name (delegation p.report.nameservers) (targets p.report.nameservers)
    ⟨[], []⟩ p = x
  obtain ⟨result, q⟩ := x
  cases result <;> rfl

theorem examine_foremost (name : String) (nameservers : List Nameserver) (p : Progress τ) :
    s.examine name nameservers p.foremost =
      ((s.examine name nameservers p).1, (s.examine name nameservers p).2.foremost) := by
  unfold examine
  rw [enrich_foremost]
  generalize s.enrich nameservers p = x
  obtain ⟨result, q⟩ := x
  cases result with
  | error e => rfl
  | ok enriched =>
    have hinspect : inspect enriched q.foremost = (inspect enriched q).foremost := rfl
    dsimp only
    rw [hinspect, probe_foremost]
    split <;> rfl

theorem survey_foremost (zone : String) (session : Session τ) :
    s.survey zone session.foremost =
      ((s.survey zone session).1, (s.survey zone session).2.foremost) := by
  have hnetwork : session.foremost.network = session.network.foremost := rfl
  unfold survey
  rw [hnetwork, discover_foremost]
  generalize discover s.client s.settings.resolver (absolute zone) session.network = x
  obtain ⟨result, u⟩ := x
  cases result with
  | error e =>
    dsimp only
    split <;> rfl
  | ok nameservers =>
    exact s.examine_foremost (absolute zone) nameservers (s.begin zone ⟨u, session.cache⟩)

end Scan

theorem auditZone_foremost (settings : Settings τ) (target : String) (session : Session τ) :
    auditZone settings target session.foremost =
      ((auditZone settings target session).1, (auditZone settings target session).2.foremost) := by
  have hclock : session.foremost.network.clock = session.network.clock := rfl
  unfold auditZone
  dsimp only
  rw [hclock, Scan.survey_foremost]
  generalize (Scan.start settings session.network.clock).survey (Zone.normalize target) session = x
  obtain ⟨result, p⟩ := x
  cases result <;> rfl

end DelegationAudit
