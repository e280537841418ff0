import DelegationAudit.Web.Escape
import DelegationAudit.Web.Host

namespace DelegationAudit.Web

open Text

def isControl (c : Char) : Bool := c.toNat < 32 || c.toNat == 127

def maxSize : Nat := 65536

def checkText (s : List Char) : Except TargetFault Unit :=
  if maxSize < s.length then .error .tooLong
  else match s.find? isControl with
    | some c => .error (.control c (s.takeWhile (!isControl ·)).length)
    | none => .ok ()

/-- One dot stays where it is, two dots go up, but not above the root. `above` holds the segments passed,
last one first. -/
def followDots (above : List (List Char)) : List (List Char) → List (List Char)
  | [] => above.reverse
  | ['.'] :: rest => followDots above rest
  | ['.', '.'] :: rest => followDots (if above == [[]] then above else above.tail) rest
  | s :: rest => followDots (s :: above) rest

def withoutDots (path : List Char) : List Char :=
  joinWith ['/'] (followDots [] (fields (· == '/') path))

def checkSize (part : String) (s : List Char) : Except TargetFault Unit :=
  if maxSize < s.length then .error (.partTooLong part) else .ok ()

def formPair (param : String × String) : List Char :=
  escape isPlainInForm param.1.toList ++ '=' :: escape isPlainInForm param.2.toList

def checkForm (params : List (String × String)) : Except TargetFault Unit :=
  checkSize "query" (joinWith ['&'] (params.map formPair))

def checkRelative (path : List Char) : Except TargetFault Unit :=
  match path with
  | '/' :: '/' :: _ => .error .leadingSlashes
  | ':' :: _ => .error .leadingColon
  | _ => .ok ()

/-- Relative to the root of the site, however it begins. -/
def sitePath (target : Target) (path : List Char) : Except TargetFault (List Char) := do
  let path := '/' :: path.dropWhile (· == '/')
  checkSize "path" (escape isPlainInPath path)
  checkSize "query" (escape isPlainInQuery target.query)
  return withoutDots path

def servedSchemes : List String := ["http", "https", "ws", "wss"]

def checkScheme (scheme : List Char) : Except TargetFault Unit :=
  if servedSchemes.contains (String.ofList scheme) then .ok () else .error (.unknownScheme scheme)

/-- A name is checked once more as it is written with its escapes. -/
def checkWritten (host : List Char) : Except TargetFault Unit :=
  if isAscii host && !isBracketed host then checkHost (escape isPlainInHost (asciiLower host)) else .ok ()

/-- The port is looked for behind the first colon, and an address in brackets has colons of its own. -/
def checkColons (host : List Char) (port : Option Int) : Except TargetFault Unit :=
  if !isBracketed host then .ok ()
  else
    let place := host ++ match port with
      | some n => ':' :: Number.intText n
      | none => []
    .error (.notPort ((place.dropWhile (· != ':')).drop 1))

/-- The escapes are resolved twice, so a percent sign that was escaped can begin another escape. The
dots are followed before. -/
def pathOf (s : List Char) (params : List (String × String)) : Except TargetFault (List Char) := do
  checkText s
  let target := Target.read s
  let authority := Authority.read target.authority
  checkHost authority.host
  let port ← readPort target.scheme authority.port
  let isBare := target.scheme.isEmpty && authority.user.isEmpty && authority.host.isEmpty && port.isNone
  if isBare then checkRelative target.path
  let path := if isBare then target.path else withoutDots target.path
  if target.scheme.isEmpty || authority.host.isEmpty then
    let path ← sitePath target path
    checkForm params
    return unescape (unescape path)
  else
    checkSize "path" (escape isPlainInPath path)
    checkForm params
    checkWritten authority.host
    checkScheme target.scheme
    checkColons authority.host port
    return unescape (unescape path)

end DelegationAudit.Web
