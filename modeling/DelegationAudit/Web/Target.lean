import DelegationAudit.Number.Integer

namespace DelegationAudit.Web

open Text

inductive TargetFault
  | tooLong
  | control (c : Char) (position : Nat)
  | badIPv4 (host : List Char)
  | badIPv6 (host : List Char)
  | badHost (host : List Char)
  | badPort (port : List Char)
  | leadingSlashes
  | leadingColon
  | partTooLong (part : String)
  | unknownScheme (scheme : List Char)
  | notPort (text : List Char)
  deriving DecidableEq

def quotedString (s : List Char) : String := String.ofList (quoted s)

def TargetFault.message : TargetFault → String
  | tooLong => "URL too long"
  | control c position =>
    "Invalid non-printable ASCII character in URL, " ++ quotedString [c] ++ " at position " ++
      Number.natString position ++ "."
  | badIPv4 host => "Invalid IPv4 address: " ++ quotedString host
  | badIPv6 host => "Invalid IPv6 address: " ++ quotedString host
  | badHost host => "Invalid IDNA hostname: " ++ quotedString host
  | badPort port => "Invalid port: " ++ quotedString port
  | leadingSlashes => "Relative URLs cannot have a path starting with '//'"
  | leadingColon => "Relative URLs cannot have a path starting with ':'"
  | partTooLong part => "URL component '" ++ part ++ "' too long"
  | unknownScheme scheme => quotedString scheme
  | notPort s => Number.IntegerError.malformed.message s

/-- The parts as they are written, but for the scheme, which is in small letters. -/
structure Target where
  scheme : List Char
  authority : List Char
  path : List Char
  query : List Char

structure Authority where
  user : List Char
  host : List Char
  port : List Char

def isSchemeChar (c : Char) : Bool := c.isAlphanum || c == '+' || c == '.' || c == '-'

/-- The colon of a scheme may stand without one. -/
def isScheme : List Char → Bool
  | [] => true
  | c :: rest => c.isAlpha && rest.all isSchemeChar

def takeScheme (s : List Char) : List Char × List Char :=
  match s.span (· != ':') with
  | (front, ':' :: rest) => if isScheme front then (front, rest) else ([], s)
  | _ => ([], s)

def takeAuthority : List Char → List Char × List Char
  | '/' :: '/' :: rest => rest.span fun c => c != '/' && c != '?' && c != '#'
  | s => ([], s)

def takeQuery : List Char → List Char
  | '?' :: rest => rest.takeWhile (· != '#')
  | _ => []

def Target.read (s : List Char) : Target :=
  let (scheme, s) := takeScheme s
  let (authority, s) := takeAuthority s
  let (path, s) := s.span fun c => c != '?' && c != '#'
  ⟨asciiLower scheme, authority, path, takeQuery s⟩

/-- What stands before the last of a character, and what follows it. -/
def splitLast (c : Char) (s : List Char) : List Char × List Char :=
  let tail := (s.reverse.takeWhile (· != c)).reverse
  (s.take (s.length - (tail.length + 1)), tail)

def takeUser (s : List Char) : List Char × List Char :=
  if s.contains '@' then splitLast '@' s else ([], s)

/-- A host in brackets may hold colons, any other ends before the first. -/
def takeHost (s : List Char) : List Char × List Char :=
  if s.head? == some '[' && s.contains ']' then
    let (front, rest) := splitLast ']' s
    (front ++ [']'], rest)
  else s.span (· != ':')

def takePort : List Char → List Char
  | ':' :: rest => rest
  | s => s

def Authority.read (s : List Char) : Authority :=
  let (user, s) := takeUser s
  let (host, s) := takeHost s
  ⟨user, host, takePort s⟩

end DelegationAudit.Web
