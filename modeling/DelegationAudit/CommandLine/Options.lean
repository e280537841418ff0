import DelegationAudit.Audit.Environment
import DelegationAudit.Json.Shape

namespace DelegationAudit.CommandLine

inductive Flag
  | help
  | server
  | port
  | timeout
  | deadline
  | json
  | noEnrich
  | noProbe
  | logLevel
  | version
  deriving DecidableEq

namespace Flag

def all : List Flag :=
  [help, server, port, timeout, deadline, json, noEnrich, noProbe, logLevel, version]

def spellings : Flag → List String
  | help => ["-h", "--help"]
  | server => ["-s", "--server"]
  | port => ["--port"]
  | timeout => ["--timeout"]
  | deadline => ["--deadline"]
  | json => ["--json"]
  | noEnrich => ["--no-enrich"]
  | noProbe => ["--no-probe"]
  | logLevel => ["--log-level"]
  | version => ["--version"]

def takesValue : Flag → Bool
  | server | port | timeout | deadline | logLevel => true
  | _ => false

def title (f : Flag) : String := Json.joinTexts "/" f.spellings

def table : List (String × Flag) := all.flatMap fun f => f.spellings.map fun s => (s, f)

end Flag

inductive Fault
  | ambiguous (word : String) (matching : List String)
  | ignoredValue (flag : Flag) (value : String)
  | valueMissing (flag : Flag)
  | badValue (flag : Flag) (kind value : String)
  | zonesMissing
  | unrecognized (words : List String)
  deriving DecidableEq

def Fault.message : Fault → String
  | ambiguous word matching =>
    "ambiguous option: " ++ word ++ " could match " ++ Json.joinTexts ", " matching
  | ignoredValue flag value =>
    "argument " ++ flag.title ++ ": ignored explicit argument " ++ Text.quote value
  | valueMissing flag => "argument " ++ flag.title ++ ": expected one argument"
  | badValue flag kind value =>
    "argument " ++ flag.title ++ ": invalid " ++ kind ++ " value: " ++ Text.quote value
  | zonesMissing => "the following arguments are required: zones"
  | unrecognized words => "unrecognized arguments: " ++ Json.joinTexts " " words

/-- What a word of the command line is: an option, known or not and perhaps with a value in the same
word, the mark after which no more options come, or neither. -/
inductive Word
  | plain
  | mark
  | option (flag : Option Flag) (short : Bool) (value : Option (List Char))

def splitEquals (s : List Char) : List Char × Option (List Char) :=
  match s.dropWhile (· != '=') with
  | [] => (s, none)
  | _ :: value => (s.takeWhile (· != '='), some value)

def flagOf? (s : List Char) : Option Flag := Flag.table.lookup (String.ofList s)

def isNegativeNumber (s : List Char) : Bool :=
  let digits (cs : List Char) := !cs.isEmpty && cs.all fun c => (Text.decimalValue? c).isSome
  match s with
  | '-' :: rest =>
    let body := if rest.getLast? == some '\n' then rest.dropLast else rest
    digits body ||
      match body.dropWhile (fun c => (Text.decimalValue? c).isSome) with
      | '.' :: places => digits places
      | _ => false
  | _ => false

/-- The spellings that a word could be short for, each with the value that the word then holds. -/
def candidates (s : List Char) : List (String × Flag × Bool × Option (List Char)) :=
  match s with
  | '-' :: '-' :: _ =>
    let parts := splitEquals s
    (Flag.table.filter fun e => parts.1.isPrefixOf e.1.toList).map
      fun e => (e.1, e.2, false, parts.2)
  | '-' :: c :: rest =>
    (Flag.table.filter fun e => e.1.toList == ['-', c]).map fun e => (e.1, e.2, true, some rest)
  | _ => []

def classify (word : String) : Except Fault Word :=
  let s := word.toList
  match s with
  | '-' :: c :: _ =>
    match flagOf? s with
    | some f => .ok (.option (some f) (c != '-') none)
    | none =>
      let parts := splitEquals s
      match flagOf? parts.1, parts.2 with
      | some f, some value => .ok (.option (some f) (c != '-') (some value))
      | _, _ =>
        match candidates s with
        | [(_, f, short, value)] => .ok (.option (some f) short value)
        | _ :: _ :: _ => .error (.ambiguous word ((candidates s).map (·.1)))
        | [] =>
          if isNegativeNumber s || s.contains ' ' then .ok .plain
          else .ok (.option none (c != '-') none)
  | _ => .ok .plain

/-- The word after which no more options come. As the value of an option it is none: the option is
left without a value. -/
def markWord : String := "--"

/-- After the mark every word is plain. -/
def classifyAll : List String → Except Fault (List (String × Word))
  | [] => .ok []
  | w :: rest =>
    if w == markWord then .ok ((w, .mark) :: rest.map fun r => (r, .plain))
    else
      match classify w with
      | .error e => .error e
      | .ok k => (classifyAll rest).map ((w, k) :: ·)

structure Options where
  zones : List String
  server : Option String
  port : Option Int
  timeout : Option Float
  deadline : Option Float
  json : Bool
  enrich : Bool
  probe : Bool
  logLevel : String

def Options.ofSettings (s : Settings Float) : Options :=
  ⟨[], some s.resolver, some s.port, some s.timeout, some s.deadline, false, true, true, s.logLevel⟩

inductive Stop
  | help
  | version
  | fault (e : Fault)

structure Reading where
  options : Options
  zonesMet : Bool
  extras : List String

def setFlag (f : Flag) (r : Reading) : Except Stop Reading :=
  let o := r.options
  match f with
  | .help => .error .help
  | .version => .error .version
  | .json => .ok { r with options := { o with json := true } }
  | .noEnrich => .ok { r with options := { o with enrich := false } }
  | .noProbe => .ok { r with options := { o with probe := false } }
  | _ => .ok r

def clearValue (f : Flag) (o : Options) : Options :=
  match f with
  | .server => { o with server := none }
  | .port => { o with port := none }
  | .timeout => { o with timeout := none }
  | .deadline => { o with deadline := none }
  | .logLevel => { o with logLevel := "" }
  | _ => o

def setText (f : Flag) (value : String) (r : Reading) : Except Stop Reading :=
  let o := r.options
  let real (set : Float → Options) : Except Stop Reading :=
    match Number.readFloat value.toList with
    | some x => .ok { r with options := set x }
    | none => .error (.fault (.badValue f "float" value))
  match f with
  | .server => .ok { r with options := { o with server := some value } }
  | .logLevel => .ok { r with options := { o with logLevel := value } }
  | .port =>
    match Number.readInteger value.toList with
    | .ok n => .ok { r with options := { o with port := some n } }
    | .error _ => .error (.fault (.badValue f "int" value))
  | .timeout => real fun x => { o with timeout := some x }
  | .deadline => real fun x => { o with deadline := some x }
  | _ => .ok r

def setValue (f : Flag) (value : String) (r : Reading) : Except Stop Reading :=
  if value == markWord then .ok { r with options := clearValue f r.options } else setText f value r

structure Cluster where
  before : List Flag
  last : Flag
  value : Option (List Char)

def Cluster.behind (f : Flag) (k : Cluster) : Cluster := { k with before := f :: k.before }

/-- What stands in the same word as an option that takes no value has to be more options, and only
behind a single dash. -/
def unfoldCluster (f : Flag) (short : Bool) : List Char → Except Fault Cluster
  | [] => if f.takesValue then .ok ⟨[], f, some []⟩ else .error (.ignoredValue f "")
  | c :: rest =>
    if f.takesValue then .ok ⟨[], f, some (c :: rest)⟩
    else
      match short, flagOf? ['-', c] with
      | true, some g =>
        if rest.isEmpty then .ok ⟨[f], g, none⟩ else (unfoldCluster g true rest).map (Cluster.behind f)
      | _, _ => .error (.ignoredValue f (String.ofList (c :: rest)))

def clusterOf (f : Flag) (short : Bool) (value : Option (List Char)) : Except Fault Cluster :=
  match value with
  | none => .ok ⟨[], f, none⟩
  | some v => unfoldCluster f short v

def setFlags (fs : List Flag) (r : Reading) : Except Stop Reading := fs.foldlM (fun r f => setFlag f r) r

/-- Zones that stand together; the mark is not one of them. -/
def takeZones (run : List String) (r : Reading) : Reading :=
  { r with options := { r.options with zones := run.erase markWord }, zonesMet := true }

/-- Words between options: the zones if these have not been met, left over otherwise. -/
def takeRun (run : List (String × Word)) (r : Reading) : Reading :=
  let hasPlain := run.any fun
    | (_, .plain) => true
    | _ => false
  if run.isEmpty then r
  else if !r.zonesMet && hasPlain then takeZones (run.map (·.1)) r
  else { r with extras := r.extras ++ run.map (·.1) }

def finishCluster (k : Cluster) (value : String) (r : Reading) : Except Stop Reading :=
  match setFlags k.before r with
  | .error e => .error e
  | .ok r' => setValue k.last value r'

/-- `run` holds the words since the last option, nearest first; `wanting` holds that option if its
value is to be the next word. -/
def readWords (wanting : Option Cluster) (run : List (String × Word)) :
    List (String × Word) → Reading → Except Stop Reading
  | [], r =>
    match wanting with
    | none => .ok (takeRun run.reverse r)
    | some k => .error (.fault (.valueMissing k.last))
  | (w, kind) :: rest, r =>
    match wanting, kind with
    | some k, .plain =>
      match finishCluster k w r with
      | .error e => .error e
      | .ok r' => readWords none [] rest r'
    | some k, _ => .error (.fault (.valueMissing k.last))
    | none, .option none _ _ =>
      let met := takeRun run.reverse r
      readWords none [] rest { met with extras := met.extras ++ [w] }
    | none, .option (some f) short value =>
      let met := takeRun run.reverse r
      match clusterOf f short value with
      | .error e => .error (.fault e)
      | .ok k =>
        if !k.last.takesValue then
          match setFlags (k.before ++ [k.last]) met with
          | .error e => .error e
          | .ok r' => readWords none [] rest r'
        else
          match k.value with
          | none => readWords (some k) [] rest met
          | some v =>
            match finishCluster k (String.ofList v) met with
            | .error e => .error e
            | .ok r' => readWords none [] rest r'
    | none, _ => readWords none ((w, kind) :: run) rest r

def read (defaults : Settings Float) (words : List String) : Except Stop Options :=
  match classifyAll words with
  | .error e => .error (.fault e)
  | .ok kinds =>
    match readWords none [] kinds ⟨Options.ofSettings defaults, false, []⟩ with
    | .error e => .error e
    | .ok r =>
      if !r.zonesMet then .error (.fault .zonesMissing)
      else if !r.extras.isEmpty then .error (.fault (.unrecognized r.extras))
      else .ok r.options

end DelegationAudit.CommandLine
