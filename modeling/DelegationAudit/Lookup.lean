import DelegationAudit.Dns.Name.Reader
import DelegationAudit.Network

namespace DelegationAudit

open Dns

structure Client (τ : Type) where
  timeout : τ
  port : Int

structure Outcome (τ : Type) where
  records : List Record
  server : String
  roundTrip : τ

/-- The message for a question: a name that cannot be read has no message. -/
def buildQuery (name : String) (type : RecordType) (secure : Bool) : Except Failure Query :=
  match Name.read name with
  | .ok n => .ok ⟨n, type, secure⟩
  | .error e => .error (.invalidQuestion name (.ofNameError e))

namespace Client

variable {τ : Type} [Instant τ]

def withPort (c : Client τ) (port : Int) : Client τ := { c with port := port }

def failureNote (name : String) (type : RecordType) (server : String) (port : Int) (e : Failure) : String :=
  "query " ++ name ++ "/" ++ Number.natString type.code.toNat ++ " to " ++ server ++ ":" ++
    Number.intString port ++ " failed: " ++ e.message

def ask (c : Client τ) (name : String) (type : RecordType) (server : String) (secure : Bool)
    (w : Network τ) : Except Failure (Outcome τ) × Network τ :=
  match buildQuery name type secure with
  | .error e => (.error e, w)
  | .ok query =>
    match w.exchange ⟨server, c.port, c.timeout, query⟩ with
    | (.error e, w') =>
      if e.isAbsorbed then
        (.error (.transport server e),
          w'.note .debug "nsaudit.query" (failureNote name type server c.port e))
      else (.error e, w')
    | (.ok answer, w') =>
      if answer.code == .noError then
        (.ok ⟨recordsOf answer.sets, server, Instant.sub w'.clock w.clock⟩, w')
      else (.error (.rejected answer.code), w')

def resolve (c : Client τ) (name : String) (type : RecordType) (server : String) (secure : Bool)
    (w : Network τ) : Except Failure (List Record × τ) × Network τ :=
  match c.ask name type server secure w with
  | (.error e, w') => (.error e, w')
  | (.ok outcome, w') =>
    match filterByType [type] outcome.records with
    | [] => (.error (.noRecords type), w')
    | r :: rest => (.ok (r :: rest, outcome.roundTrip), w')

/-- A number that is no type ends the question before its name is read. -/
def askCode (c : Client τ) (name : String) (type : Int) (server : String) (secure : Bool)
    (w : Network τ) : Except Failure (Outcome τ) × Network τ :=
  match RecordType.ofInt? type with
  | some t => c.ask name t server secure w
  | none => (.error .badType, w)

def resolveCode (c : Client τ) (name : String) (type : Int) (server : String) (secure : Bool)
    (w : Network τ) : Except Failure (List Record × τ) × Network τ :=
  match RecordType.ofInt? type with
  | some t => c.resolve name t server secure w
  | none => (.error .badType, w)

end Client

end DelegationAudit
