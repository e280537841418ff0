import DelegationAudit.CommandLine
import DelegationAudit.Web.Path

namespace DelegationAudit.Web

/-- A status and a body; a request of the wrong form has no body here. -/
structure Page where
  status : Nat
  body : Option Json

def detail (status : Nat) (message : String) : Page := ⟨status, some (.obj [("detail", .str message)])⟩

def health {τ : Type} (settings : Settings τ) : Page :=
  ⟨200, some (.obj [("ok", .bool true), ("resolver", .str settings.resolver)])⟩

/-- Of a parameter that comes more than once the last counts. -/
def parameter? (key : String) (params : List (String × String)) : Option String :=
  params.reverse.lookup key

def zoneOf? (params : List (String × String)) : Option String :=
  match parameter? "zone" params with
  | some z => if 1 ≤ z.length && z.length ≤ 253 then some z else none
  | none => none

def check {τ : Type} [Instant τ] (settings : Settings τ) (target : String) (s : Session τ) :
    Except Failure Page × Session τ :=
  match Zone.accept target with
  | .error e => (.ok (detail 400 e.message), s)
  | .ok zone =>
    match respond settings "api" zone s with
    | (.error e, s') => (.error e, s')
    | (.ok r, s') => (.ok ⟨200, some (.obj r.toJson)⟩, s')

inductive Route
  | health
  | check
  deriving DecidableEq

def Route.path : Route → List Char
  | health => "/health".toList
  | check => "/check".toList

/-- A line break at the end of a path does not count. -/
def Route.fits (path : List Char) (r : Route) : Bool := path == r.path || path == r.path ++ ['\n']

def routeAt? (path : List Char) : Option Route := [Route.health, .check].find? (Route.fits path)

/-- Slashes at the end make no difference where the path leads nowhere with them. -/
def routeOf? (path : List Char) : Option Route :=
  routeAt? path <|> routeAt? (Text.dropEnd (· == '/') path)

def ofTargetFault (e : TargetFault) : Failure :=
  match e with
  | .unknownScheme _ => .plain .missingKey e.message
  | .notPort _ => .plain .value e.message
  | _ => .plain .badTarget e.message

def get {τ : Type} [Instant τ] (settings : Settings τ) (target : String) (params : List (String × String))
    (s : Session τ) : Except Failure Page × Session τ :=
  match pathOf target.toList params with
  | .error e => (.error (ofTargetFault e), s)
  | .ok path =>
    match routeOf? path with
    | none => (.ok (detail 404 "Not Found"), s)
    | some .health => (.ok (health settings), s)
    | some .check =>
      match zoneOf? params with
      | none => (.ok ⟨422, none⟩, s)
      | some zone => check settings zone s

end DelegationAudit.Web
