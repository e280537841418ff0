import DelegationAudit.Audit.Classify
import DelegationAudit.Audit.Settings
import DelegationAudit.Audit.Topology
import DelegationAudit.Dns.Presentation
import DelegationAudit.Ownership.Lookup
import DelegationAudit.Zone

namespace DelegationAudit

open Dns

def authoritativePort : Int := 53

/-- The report so far, what it was made with, and what the clock will show. -/
structure Progress (τ : Type) where
  report : Report
  session : Session τ
  readings : List τ

namespace Progress

variable {τ : Type}

def add (f : Finding) (p : Progress τ) : Progress τ := { p with report := p.report.add f }

def observe (o : Observation) (p : Progress τ) : Progress τ := { p with report := p.report.observe o }

def note (level : Level) (source message : String) (p : Progress τ) : Progress τ :=
  { p with session := { p.session with network := p.session.network.note level source message } }

def apply (change : Report → Report) (p : Progress τ) : Progress τ := { p with report := change p.report }

def reading (p : Progress τ) : τ := p.readings.headD p.session.network.clock

/-- Each look takes one of the readings, and the last of them repeats. -/
def later : List τ → List τ
  | _ :: next :: rest => next :: rest
  | readings => readings

def looked (p : Progress τ) : Progress τ := { p with readings := later p.readings }

@[simp] theorem looked_report (p : Progress τ) : p.looked.report = p.report := rfl

@[simp] theorem looked_session (p : Progress τ) : p.looked.session = p.session := rfl

end Progress

structure Scan (τ : Type) where
  settings : Settings τ
  expires : Option τ

namespace Scan

variable {τ : Type} [Instant τ]

def client (s : Scan τ) : Client τ := ⟨s.settings.timeout, s.settings.port⟩

def source (s : Scan τ) : Ownership.Source τ := ⟨s.client, s.settings.resolver, s.settings.lifetime⟩

def deadlineFinding (s : Scan τ) (zone : String) (step : Step) : Finding where
  zone := zone
  issue := .deadline
  severity := .medium
  server := none
  detail := some ("Scan deadline of " ++ Instant.brief s.settings.deadline ++ "s reached; " ++
    step.text ++ " and later steps were cut short.")
  data := [("deadline", .real (Instant.text s.settings.deadline)), ("skipped", .str step.text)]

/-- Says once that time has run out. -/
def skip (s : Scan τ) (step : Step) (p : Progress τ) : Progress τ :=
  if p.report.wasSkipped then p
  else
    ((p.observe (.skipped step)).note .warning "nsaudit.tool"
      ("scan of " ++ p.report.zone ++ " hit its " ++ Instant.text s.settings.deadline ++
        "s deadline; skipping " ++ step.text)).add (s.deadlineFinding p.report.zone step)

def inTime (s : Scan τ) (p : Progress τ) : Bool :=
  match s.expires with
  | none => true
  | some t => Instant.before p.reading t

/-- Sets an entry: one that is there keeps its place. -/
def setOwner (key : String) (o : Ownership) : List (String × Ownership) → List (String × Ownership)
  | [] => [(key, o)]
  | (k, v) :: rest => if k == key then (k, o) :: rest else (k, v) :: setOwner key o rest

def noteMissing (host : String) (a : Net.Address) (e : Failure) (session : Session τ) : Session τ :=
  ⟨session.network.note .warning "nsaudit.tool"
    ("ownership lookup failed for " ++ host ++ " (" ++ a.text ++ "): " ++ e.message), session.cache⟩

/-- Addresses whose owner cannot be found are left out. -/
def owners (s : Scan τ) (host : String) :
    List Net.Address → List (String × Ownership) → Session τ →
      Except Failure (List (String × Ownership)) × Session τ
  | [], known, session => (.ok known, session)
  | a :: rest, known, session =>
    match s.source.lookup a session with
    | (.ok o, session') => s.owners host rest (setOwner a.text o known) session'
    | (.error e, session') =>
      if e.isOwnership then s.owners host rest known (noteMissing host a e session')
      else (.error e, session')

/-- A nameserver that it is too late for stays as it is. -/
def enrichOne (s : Scan τ) (ns : Nameserver) (p : Progress τ) :
    Except Failure Nameserver × Progress τ :=
  if s.inTime p then
    match s.owners ns.name ns.addresses [] p.session with
    | (.error e, session) => (.error e, { p.looked with session := session })
    | (.ok known, session) => (.ok { ns with ownership := known }, { p.looked with session := session })
  else (.ok ns, s.skip .enrichment p.looked)

def enrichAll (s : Scan τ) :
    List Nameserver → Progress τ → Except Failure (List Nameserver) × Progress τ
  | [], p => (.ok [], p)
  | ns :: rest, p =>
    match s.enrichOne ns p with
    | (.error e, p') => (.error e, p')
    | (.ok ns', p') =>
      match s.enrichAll rest p' with
      | (.error e, p'') => (.error e, p'')
      | (.ok more, p'') => (.ok (ns' :: more), p'')

def question (s : Scan τ) (name : String) (type : RecordType) (address : String) (w : Network τ) :
    Except Failure (List Record × Option Failure) × Network τ :=
  match (s.client.withPort authoritativePort).resolve name type address false w with
  | (.ok (records, _), w') => (.ok (records, none), w')
  | (.error e, w') => if e.isResolution then (.ok ([], some e), w') else (.error e, w')

def record (v : Verdict) (p : Progress τ) : Progress τ :=
  let noted := match v.note with
    | none => p
    | some message => p.note .debug "nsaudit.classify" message
  match v.finding with
  | none => noted
  | some f => noted.add f

def check (s : Scan τ) (name : String) (type : RecordType) (host address : String) (p : Progress τ) :
    Except Failure (List Record × Bool) × Progress τ :=
  match s.question name type address p.session.network with
  | (.error e, w) => (.error e, { p with session := { p.session with network := w } })
  | (.ok (records, error), w) =>
    let v := Check.classify ⟨type.text, host, address, p.report.zone⟩ error (!records.isEmpty)
    (.ok (records, v.failed), record v { p with session := { p.session with network := w } })

def sortTexts (texts : List String) : List String := texts.mergeSort (fun a b => !(b < a))

def delegation (nameservers : List Nameserver) : List String :=
  sortTexts (nameservers.map (fun ns => lowerText ns.name))

def inconsistent (zone host address : String) (delegated served : List String) : Finding where
  zone := zone
  issue := .inconsistent
  severity := .low
  server := some (host ++ " (" ++ address ++ ")")
  detail := some "Nameserver serves an NS RRset that differs from the delegation."
  data := [("delegation", .strings delegated), ("served", .strings served)]

/-- Everything served so far, each record once, and the probes made. -/
structure Harvest where
  served : List Record
  probes : List Probe

def probeOne (s : Scan τ) (name : String) (delegated : List String) (host : String)
    (address : Net.Address) (h : Harvest) (p : Progress τ) : Except Failure Harvest × Progress τ :=
  match s.check name .soa host address.text p with
  | (.error e, p') => (.error e, p')
  | (.ok (_, soaFailed), p') =>
    match s.check name .ns host address.text p' with
    | (.error e, p'') => (.error e, p'')
    | (.ok (served, nsFailed), p'') =>
      let child := sortTexts ((targetsOf served).map lowerText)
      let harvest : Harvest :=
        ⟨merge [h.served, served], h.probes ++ [⟨host, address.text, !soaFailed, !nsFailed, child⟩]⟩
      let differs := !nsFailed && child != delegated
      (.ok harvest,
        if differs then p''.add (inconsistent p''.report.zone host address.text delegated child) else p'')

def probeAll (s : Scan τ) (name : String) (delegated : List String) :
    List (String × Net.Address) → Harvest → Progress τ → Except Failure Harvest × Progress τ
  | [], h, p => (.ok h, p)
  | (host, a) :: rest, h, p =>
    if s.inTime p then
      match s.probeOne name delegated host a h p.looked with
      | (.error e, p') => (.error e, p')
      | (.ok h', p') => s.probeAll name delegated rest h' p'
    else (.ok h, s.skip .probes p.looked)

def targets (nameservers : List Nameserver) : List (String × Net.Address) :=
  nameservers.flatMap fun ns => ns.addresses.map fun a => (ns.name, a)

def probe (s : Scan τ) (name : String) (p : Progress τ) : Except Failure Unit × Progress τ :=
  match s.probeAll name (delegation p.report.nameservers) (targets p.report.nameservers) ⟨[], []⟩ p with
  | (.error e, p') => (.error e, p')
  | (.ok h, p') =>
    (.ok (), (p'.observe (.probes h.probes)).observe
      (.servedNames ((targetsOf h.served).map lowerText)))

def noNameservers (s : Scan τ) (zone name : String) (cause : Failure) : Finding where
  zone := zone
  issue := .noNameservers
  severity := .high
  server := some s.settings.resolver
  detail := some ("No NS records could be resolved for " ++ name ++ ": " ++ cause.message)
  data := [("qname", .str name), ("error", .str cause.message)]

def rootCause : Failure → Failure
  | .noNameservers domain .absent => .noNameservers domain .absent
  | .noNameservers _ cause => cause
  | e => e

def isNoNameservers : Failure → Bool
  | .noNameservers _ _ => true
  | _ => false

def enrich (s : Scan τ) (nameservers : List Nameserver) (p : Progress τ) :
    Except Failure (List Nameserver) × Progress τ :=
  if s.settings.enrich then s.enrichAll nameservers p else (.ok nameservers, p)

def inspect (nameservers : List Nameserver) (p : Progress τ) : Progress τ :=
  p.apply fun r => Topology.checkTopology (Topology.checkAddresses { r with nameservers := nameservers })

def examine (s : Scan τ) (name : String) (nameservers : List Nameserver) (p : Progress τ) :
    Except Failure Unit × Progress τ :=
  match s.enrich nameservers p with
  | (.error e, p') => (.error e, p')
  | (.ok enriched, p') =>
    if s.settings.probe then s.probe name (inspect enriched p') else (.ok (), inspect enriched p')

def start (settings : Settings τ) (now : τ) : Scan τ where
  settings := settings
  expires :=
    if Instant.before Instant.zero settings.deadline then some (Instant.add now settings.deadline)
    else none

def begin (s : Scan τ) (zone : String) (session : Session τ) : Progress τ :=
  ⟨.start zone s.settings.resolver (parentOf (absolute zone)), session, session.network.readings⟩

def abandon (s : Scan τ) (zone : String) (e : Failure) (p : Progress τ) : Progress τ :=
  (p.note .info "nsaudit.tool" ("no nameservers for " ++ absolute zone ++ ": " ++ e.message)).add
    (s.noNameservers zone (absolute zone) (rootCause e))

def survey (s : Scan τ) (zone : String) (session : Session τ) : Except Failure Unit × Progress τ :=
  match discover s.client s.settings.resolver (absolute zone) session.network with
  | (.error e, w) =>
    let p := s.begin zone { session with network := w }
    if isNoNameservers e then (.ok (), s.abandon zone e p) else (.error e, p)
  | (.ok nameservers, w) =>
    s.examine (absolute zone) nameservers (s.begin zone { session with network := w })

def stamp (elapsed : Except Number.NotFinite Int) (r : Report) : Except Failure Report :=
  match elapsed with
  | .error e => .error (.ofNotFinite e)
  | .ok millis => .ok (r.observe (.timing millis))

def finish (started : τ) (p : Progress τ) : Except Failure Report × Session τ :=
  (stamp (Instant.millis (Instant.sub p.session.network.clock started)) p.report.finalize, p.session)

end Scan

def auditZone {τ : Type} [Instant τ] (settings : Settings τ) (target : String) (session : Session τ) :
    Except Failure Report × Session τ :=
  let started := session.network.clock
  match (Scan.start settings started).survey (Zone.normalize target) session with
  | (.error e, p) => (.error e, p.session)
  | (.ok (), p) => Scan.finish started p

end DelegationAudit
