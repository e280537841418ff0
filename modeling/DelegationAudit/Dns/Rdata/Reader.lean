import DelegationAudit.Dns.Rdata.Wire
import DelegationAudit.Dns.Token
import DelegationAudit.Net.Address.Reader
import DelegationAudit.Text.Case

namespace DelegationAudit.Dns

open Text

def readDigits (s : List Char) : Except DataFault Nat :=
  if Number.maxDigits < s.length then .error (.longInteger s.length) else .ok (Net.decimalOf s)

def readNat (s : List Char) : Except DataFault Nat :=
  if s.isEmpty || !s.all Char.isDigit then .error .notInteger else readDigits s

def secondsIn? (unit : List Char) : Option Nat :=
  match unit with
  | ['s'] => some 1
  | ['m'] => some 60
  | ['h'] => some 3600
  | ['d'] => some 86400
  | ['w'] => some 604800
  | _ => none

def readUnits (sum current : Nat) (pending : Bool) : List Char → Except SpanFault Nat
  | [] => if pending then .error .trailingInteger else .ok sum
  | c :: rest =>
    if c.isDigit then readUnits sum (current * 10 + (c.toNat - 48)) true rest
    else if !pending then .error .malformed
    else match secondsIn? (lower [c]) with
      | some k => readUnits (sum + k * current) 0 false rest
      | none => .error (.unknownUnit (lower [c]))

def readSeconds (s : List Char) : Except DataFault Nat :=
  if s.isEmpty then .error (.span .malformed)
  else if s.all Char.isDigit then readDigits s
  else match readUnits 0 0 false s with
    | .ok n => .ok n
    | .error e => .error (.span e)

def readSpan (s : List Char) : Except DataFault Nat := do
  let n ← readSeconds s
  if n < 4294967296 then return n else throw (.span .tooLong)

/-- A line feed behind a dotted tail does not count. -/
def dropBreak (s : List Char) : List Char :=
  if s.contains '.' && s.getLast? == some '\n' then s.dropLast else s

namespace Tokens

def unsigned (bits : Nat) (ts : Tokens) : Except DataFault (Nat × Tokens) := do
  let (s, rest) ← ts.word
  let n ← readNat s
  if n < Nat.pow 2 bits then return (n, rest) else throw (.tooLarge n bits)

def span (ts : Tokens) : Except DataFault (Nat × Tokens) := do
  let (s, rest) ← ts.word
  return (← readSpan s, rest)

/-- Names resolve their escapes themselves. -/
def name (ts : Tokens) : Except DataFault (Name × Tokens) := do
  let (s, rest) ← ts.rawWord
  match Name.readChars s with
  | .ok n => return (n, rest)
  | .error e => throw (.name e)

def remainingWords : Tokens → Except DataFault (List Char)
  | [] => .ok []
  | .error e :: _ => .error e
  | .ok (.word s) :: rest => do
    let front ← unescapeChars s
    return front ++ (← remainingWords rest)
  | .ok (.quoted s) :: _ => do
    let _ ← unescapeChars s
    throw .malformed

def strings (ts : Tokens) : Except DataFault (List (List Octet)) := do
  (← ts.all).mapM fun t => do
    let octets ← match t with
      | .word s | .quoted s => unescapeOctets s
    if 255 < octets.length then throw .stringTooLong else return octets

end Tokens

def hexPairs : List Char → Except DataFault (List Octet)
  | a :: b :: rest =>
    match hexValue? a, hexValue? b with
    | some x, some y => (hexPairs rest).map (UInt8.ofNat (16 * x + y) :: ·)
    | _, _ => .error .notHex
  | _ => .ok []

def readHex (s : List Char) : Except DataFault (List Octet) :=
  if (utf8 s).length % 2 == 1 then .error .oddDigits
  else if !s.all (fun c => (hexValue? c).isSome) then .error .notHex
  else hexPairs s

namespace Rdata

def readAddress4 (ts : Tokens) : Except DataFault (Rdata × Tokens) := do
  let (s, rest) ← ts.word
  match Net.readIPv4 s with
  | .ok address => return (.a address, rest)
  | .error _ => throw .malformed

def readAddress6 (ts : Tokens) : Except DataFault (Rdata × Tokens) := do
  let (s, rest) ← ts.word
  match Net.readIPv6Value (dropBreak s) with
  | .ok n => return (.aaaa (BitVec.ofNat 128 n), rest)
  | .error _ => throw .malformed

def readTarget (make : Name → Rdata) (ts : Tokens) : Except DataFault (Rdata × Tokens) := do
  let (name, rest) ← ts.name
  return (make name, rest)

def readExchange (ts : Tokens) : Except DataFault (Rdata × Tokens) := do
  let (preference, rest) ← ts.unsigned 16
  let (exchange, rest) ← rest.name
  return (.mx preference exchange, rest)

def readAuthority (ts : Tokens) : Except DataFault (Rdata × Tokens) := do
  let (primary, rest) ← ts.name
  let (contact, rest) ← rest.name
  let (serial, rest) ← rest.unsigned 32
  let (refresh, rest) ← rest.span
  let (retry, rest) ← rest.span
  let (expire, rest) ← rest.span
  let (minimum, rest) ← rest.span
  return (.soa ⟨primary, contact, serial, refresh, retry, expire, minimum⟩, rest)

def readStrings (ts : Tokens) : Except DataFault (Rdata × Tokens) := do
  match ← ts.strings with
  | [] => throw .endsEarly
  | first :: rest => return (.txt (first :: rest), [])

def readForm (type : String) (ts : Tokens) : Except DataFault (Rdata × Tokens) :=
  match type with
  | "A" => readAddress4 ts
  | "AAAA" => readAddress6 ts
  | "NS" => readTarget .ns ts
  | "CNAME" => readTarget .cname ts
  | "PTR" => readTarget .ptr ts
  | "MX" => readExchange ts
  | "SOA" => readAuthority ts
  | "TXT" => readStrings ts
  | _ => .error .unknownType

def genericMark : Token := .word ['\\', '#']

def readGeneric (type : String) (ts : Tokens) : Except DataFault Rdata := do
  let (s, rest) ← ts.word
  let length ← readNat s
  let octets ← readHex (← rest.remainingWords)
  if octets.length != length then throw .wrongLength
  ofWire type octets

def readTokens (type : String) : Tokens → Except DataFault Rdata
  | .ok t :: ts =>
    if t == genericMark then readGeneric type ts
    else do
      let (data, rest) ← readForm type (.ok t :: ts)
      rest.atEnd
      return data
  | ts => do
    let (data, rest) ← readForm type ts
    rest.atEnd
    return data

def read (type : String) (s : String) : Except DataFault Rdata := readTokens type (tokens s.toList)

end Rdata

end DelegationAudit.Dns
