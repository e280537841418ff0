import DelegationAudit.Dns.Message
import DelegationAudit.Dns.Record
import DelegationAudit.Failure
import DelegationAudit.Text.Case

namespace DelegationAudit

/-- Readings of a clock and spans of time, in seconds. -/
class Instant (τ : Type) where
  zero : τ
  add : τ → τ → τ
  sub : τ → τ → τ
  before : τ → τ → Bool
  /-- A span in whole thousandths, cut off towards zero. -/
  millis : τ → Except Number.NotFinite Int
  text : τ → String
  brief : τ → String

instance : Instant Float where
  zero := 0
  add := (· + ·)
  sub := (· - ·)
  before x y := x < y
  millis x := (Number.Binary.ofFloat (x * 1000)).truncate
  text := Number.floatText
  brief := Number.floatBrief

inductive Level
  | debug
  | info
  | warning
  deriving DecidableEq, Repr

def Level.name : Level → String
  | debug => "DEBUG"
  | info => "INFO"
  | warning => "WARNING"

def Level.number : Level → Nat
  | debug => 10
  | info => 20
  | warning => 30

structure LogEntry where
  level : Level
  source : String
  message : String
  deriving DecidableEq

structure Call (τ : Type) where
  server : String
  port : Int
  timeout : τ
  query : Dns.Query

structure Answer where
  code : Dns.ResponseCode
  sets : List Dns.RecordSet

/-- What comes back, and how long it takes where that differs from the network's usual cost. -/
structure Reply (τ : Type) where
  outcome : Except Failure Answer
  cost : Option τ

/-- The replies of one server, or of any server, to one question. The last reply repeats. -/
structure Rule (τ : Type) where
  server : Option String
  name : String
  type : String
  replies : List (Reply τ)
  uses : Nat

structure Network (τ : Type) where
  clock : τ
  cost : τ
  /-- What an audit reads off its clock, look by look. Without readings it sees the clock of the network. -/
  readings : List τ
  rules : List (Rule τ)
  hosts : List (String × String)
  calls : List (Call τ)
  log : List LogEntry

def lowerText (s : String) : String := String.ofList (Text.lower s.toList)

namespace Rule

variable {τ : Type}

def sameKey (r s : Rule τ) : Bool := r.server == s.server && r.name == s.name && r.type == s.type

def matchesCall (server : Option String) (call : Call τ) (r : Rule τ) : Bool :=
  r.server == server && r.name == lowerText call.query.name.text && r.type == call.query.type.text

def reply? (r : Rule τ) : Option (Reply τ) := (r.replies.drop r.uses).head? <|> r.replies.getLast?

end Rule

/-- A rule with the key of an earlier one takes its place. -/
def addRule {τ : Type} (rules : List (Rule τ)) (r : Rule τ) : List (Rule τ) :=
  match rules with
  | [] => [r]
  | s :: rest => if s.sameKey r then r :: rest else s :: addRule rest r

/-- The reply of the first rule that fits, and the rules with that use counted. -/
def takeReply {τ : Type} (fits : Rule τ → Bool) : List (Rule τ) → Option (Reply τ × List (Rule τ))
  | [] => none
  | r :: rest =>
    if fits r then r.reply?.map fun reply => (reply, { r with uses := r.uses + 1 } :: rest)
    else (takeReply fits rest).map fun t => (t.1, r :: t.2)

namespace Network

variable {τ : Type} [Instant τ]

def start (clock cost : τ) (rules : List (Rule τ)) (hosts : List (String × String)) : Network τ :=
  ⟨clock, cost, [], rules.foldl addRule [], hosts, [], []⟩

def advance (span : τ) (w : Network τ) : Network τ := { w with clock := Instant.add w.clock span }

def addRules (rules : List (Rule τ)) (w : Network τ) : Network τ :=
  { w with rules := rules.foldl addRule w.rules }

def note (level : Level) (source message : String) (w : Network τ) : Network τ :=
  { w with log := w.log ++ [⟨level, source, message⟩] }

/-- A name that cannot be looked up stands for itself: it may be an address already. -/
def resolveHost (w : Network τ) (host : String) : String := (w.hosts.lookup host).getD host

/-- A rule for the server goes before a rule for all servers. -/
def select (call : Call τ) (rules : List (Rule τ)) : Option (Reply τ × List (Rule τ)) :=
  match takeReply (Rule.matchesCall (some call.server) call) rules with
  | some t => some t
  | none => takeReply (Rule.matchesCall none call) rules

/-- Sends one message. A question that no rule answers times out. -/
def exchange (call : Call τ) (w : Network τ) : Except Failure Answer × Network τ :=
  let sent := { w with calls := w.calls ++ [call] }
  match select call w.rules with
  | none => (.error .timedOut, sent.advance w.cost)
  | some (reply, rules) =>
    (reply.outcome, { sent with rules := rules }.advance (reply.cost.getD w.cost))

end Network

end DelegationAudit
