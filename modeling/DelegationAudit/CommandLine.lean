import DelegationAudit.Audit.Scan
import DelegationAudit.CommandLine.Options
import DelegationAudit.Journal
import DelegationAudit.Json.Printer
import DelegationAudit.Response.Assembly
import DelegationAudit.Response.Page

namespace DelegationAudit

def programVersion : String := "0.1.0"

def programName : String := "nsaudit"

def origin (source : String) : Json :=
  .obj [("version", .str programVersion), ("source", .str source)]

def respond {τ : Type} [Instant τ] (settings : Settings τ) (source zone : String) (session : Session τ) :
    Except Failure Response × Session τ :=
  match auditZone settings zone session with
  | (.error e, s) => (.error e, s)
  | (.ok report, s) => (Response.build zone [("delegation", .report report)] (origin source), s)

namespace CommandLine

structure Run where
  exit : Except Failure Nat
  output : String
  complaint : Option Fault
  log : List String
  network : Network Float

/-- The zones in the form in which they are audited, or a line for each that is refused. -/
inductive Gate
  | accepted (zones : List String)
  | refused (lines : List String)

def refusal (target : String) (e : Zone.Rejection) : String :=
  "Invalid input: " ++ target ++ ": " ++ e.message

def gate : List String → Gate
  | [] => .accepted []
  | target :: rest =>
    match Zone.accept target, gate rest with
    | .ok zone, .accepted zones => .accepted (zone :: zones)
    | .ok _, .refused lines => .refused lines
    | .error e, .accepted _ => .refused [refusal target e]
    | .error e, .refused lines => .refused (refusal target e :: lines)

/-- A response with those that come after it, unless one of them fails. -/
def followedBy (first : Except Failure Response × Session Float)
    (others : Session Float → Except Failure (List Response) × Session Float) :
    Except Failure (List Response) × Session Float :=
  match first with
  | (.error e, s) => (.error e, s)
  | (.ok r, s) =>
    match others s with
    | (.error e, s') => (.error e, s')
    | (.ok more, s') => (.ok (r :: more), s')

def respondAll (settings : Settings Float) :
    List String → Session Float → Except Failure (List Response) × Session Float
  | [], s => (.ok [], s)
  | zone :: rest, s => followedBy (respond settings "cli" zone s) (respondAll settings rest)

def usualLifetime : Float := 3600

/-- Options that an audit cannot do without, in the order in which they are used. -/
inductive Lack
  | server
  | timeout
  | port
  | deadline
  deriving DecidableEq

def Lack.message : Lack → String
  | server => "unhashable type: 'list'"
  | timeout => "float() argument must be a string or a real number, not 'list'"
  | port => "int() argument must be a string, a bytes-like object or a real number, not 'list'"
  | deadline => "'>' not supported between instances of 'list' and 'int'"

def settingsOf (o : Options) (w : Network Float) : Except Lack (Settings Float) :=
  match o.server, o.timeout, o.port, o.deadline with
  | none, _, _, _ => .error .server
  | _, none, _, _ => .error .timeout
  | _, _, none, _ => .error .port
  | _, _, _, none => .error .deadline
  | some server, some timeout, some port, some deadline =>
    .ok ⟨w.resolveHost server, port, timeout, deadline, o.enrich, o.probe, usualLifetime, o.logLevel⟩

def jsonText (zones : List String) (responses : List Response) : String :=
  (Json.obj [("targets", .strings zones), ("results", .arr (responses.map fun r => .obj r.toJson))]).indented
    ++ "\n"

def pages (responses : List Response) : Except Failure String :=
  (responses.mapM fun r => Page.text r.toJson).map String.join

def audit (o : Options) (settings : Settings Float) (zones : List String) (w : Network Float) : Run :=
  let lowest := Journal.threshold o.logLevel
  match respondAll settings zones ⟨w, []⟩ with
  | (.error e, s) => ⟨.error e, "", none, Journal.bodies lowest s.network.log, s.network⟩
  | (.ok responses, s) =>
    let log := Journal.bodies lowest s.network.log
    if o.json then ⟨.ok 0, jsonText zones responses, none, log, s.network⟩
    else
      match pages responses with
      | .ok text => ⟨.ok 0, text, none, log, s.network⟩
      | .error e => ⟨.error e, "", none, log, s.network⟩

def run (env : Environment) (words : List String) (w : Network Float) : Run :=
  match Settings.fromEnvironment env w with
  | .error e => ⟨.error e, "", none, [], w⟩
  | .ok settings =>
    match read settings words with
    | .error .help => ⟨.ok 0, "", none, [], w⟩
    | .error .version => ⟨.ok 0, programName ++ " " ++ programVersion ++ "\n", none, [], w⟩
    | .error (.fault e) => ⟨.ok 2, "", some e, [], w⟩
    | .ok o =>
      match gate o.zones with
      | .refused lines => ⟨.ok 2, String.join (lines.map (· ++ "\n")), none, [], w⟩
      | .accepted zones =>
        match settingsOf o w with
        | .error e => ⟨.error (.plain .typeMismatch e.message), "", none, [], w⟩
        | .ok audited => audit o audited zones w

end CommandLine

end DelegationAudit
