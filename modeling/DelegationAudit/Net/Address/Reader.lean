import DelegationAudit.Net.Address
import DelegationAudit.Text.Quoted

namespace DelegationAudit.Net

open Text

inductive OctetFault
  | empty
  | notDecimal (s : List Char)
  | tooLong (s : List Char)
  | leadingZero (s : List Char)
  | tooLarge (n : Nat)
  deriving DecidableEq, Repr

inductive IPv4Fault
  | empty
  | slash (s : List Char)
  | count (s : List Char)
  | octet (e : OctetFault) (s : List Char)
  deriving DecidableEq, Repr

inductive GroupFault
  | notHex (s : List Char)
  | tooLong (s : List Char)
  deriving DecidableEq, Repr

inductive IPv6Fault
  | empty
  | tooFewParts
  | tooManyParts
  | twoGaps
  | leadingColon
  | trailingColon
  | noRoomForGap
  | wrongCount
  | tail (e : IPv4Fault)
  | group (e : GroupFault)
  deriving DecidableEq, Repr

def quotedString (s : List Char) : String := String.ofList (quoted s)

def OctetFault.message : OctetFault → String
  | empty => "Empty octet not permitted"
  | notDecimal s => "Only decimal digits permitted in " ++ quotedString s
  | tooLong s => "At most 3 characters permitted in " ++ quotedString s
  | leadingZero s => "Leading zeros are not permitted in " ++ quotedString s
  | tooLarge n => "Octet " ++ Number.natString n ++ " (> 255) not permitted"

def IPv4Fault.message : IPv4Fault → String
  | empty => "Address cannot be empty"
  | slash s => "Unexpected '/' in " ++ quotedString s
  | count s => "Expected 4 octets in " ++ quotedString s
  | octet e s => e.message ++ " in " ++ quotedString s

def GroupFault.message : GroupFault → String
  | notHex s => "Only hex digits permitted in " ++ quotedString s
  | tooLong s => "At most 4 characters permitted in " ++ quotedString s

/-- The message about the text of a whole address. -/
def IPv6Fault.message (s : List Char) : IPv6Fault → String
  | empty => "Address cannot be empty"
  | tooFewParts => "At least 3 parts expected in " ++ quotedString s
  | tooManyParts => "At most 8 colons permitted in " ++ quotedString s
  | twoGaps => "At most one '::' permitted in " ++ quotedString s
  | leadingColon => "Leading ':' only permitted as part of '::' in " ++ quotedString s
  | trailingColon => "Trailing ':' only permitted as part of '::' in " ++ quotedString s
  | noRoomForGap => "Expected at most 7 other parts with '::' in " ++ quotedString s
  | wrongCount => "Exactly 8 parts expected without '::' in " ++ quotedString s
  | tail e => e.message ++ " in " ++ quotedString s
  | group e => e.message ++ " in " ++ quotedString s

def decimalOf (s : List Char) : Nat := fromDigits 10 (s.map (fun c => c.toNat - 48))

def readOctet (s : List Char) : Except OctetFault Nat :=
  if s.isEmpty then .error .empty
  else if !s.all Char.isDigit then .error (.notDecimal s)
  else if 3 < s.length then .error (.tooLong s)
  else if s != ['0'] && s.head? == some '0' then .error (.leadingZero s)
  else if 255 < decimalOf s then .error (.tooLarge (decimalOf s))
  else .ok (decimalOf s)

def readIPv4 (s : List Char) : Except IPv4Fault IPv4 :=
  if s.contains '/' then .error (.slash s)
  else if s.isEmpty then .error .empty
  else
    let parts := fields (· == '.') s
    if parts.length != 4 then .error (.count s)
    else match parts.mapM readOctet with
      | .error e => .error (.octet e s)
      | .ok octets => .ok (IPv4.ofNat (fromDigits 256 octets))

def readGroup (s : List Char) : Except GroupFault Nat :=
  match s.mapM hexValue? with
  | none => .error (.notHex s)
  | some ds => if 4 < s.length then .error (.tooLong s) else .ok (fromDigits 16 ds)

def innerGaps (parts : List (List Char)) : List Nat :=
  (List.range parts.length).filter fun i =>
    1 ≤ i && i + 1 < parts.length && (parts[i]?).any List.isEmpty

def readGroups (parts : List (List Char)) : Except IPv6Fault (List Nat) :=
  match parts.mapM readGroup with
  | .error e => .error (.group e)
  | .ok gs => .ok gs

def startsEmpty (parts : List (List Char)) : Bool := parts.head?.any List.isEmpty

def endsEmpty (parts : List (List Char)) : Bool := parts.getLast?.any List.isEmpty

/-- Groups on both sides of the gap, zeros between. -/
def spreadGap (parts : List (List Char)) (gap : Nat) : Except IPv6Fault (List Nat) :=
  let before := parts.take gap
  let after := parts.drop (gap + 1)
  let high := if startsEmpty before then before.tail else before
  let low := if endsEmpty after then after.dropLast else after
  if startsEmpty before && !high.isEmpty then .error .leadingColon
  else if endsEmpty after && !low.isEmpty then .error .trailingColon
  else if 8 ≤ high.length + low.length then .error .noRoomForGap
  else do
    let hs ← readGroups high
    let ls ← readGroups low
    return hs ++ List.replicate (8 - (hs.length + ls.length)) 0 ++ ls

def groupsOf (parts : List (List Char)) : Except IPv6Fault (List Nat) :=
  if 9 < parts.length then .error .tooManyParts
  else match innerGaps parts with
    | _ :: _ :: _ => .error .twoGaps
    | [gap] => spreadGap parts gap
    | [] =>
      if parts.length != 8 then .error .wrongCount
      else if startsEmpty parts then .error .leadingColon
      else if endsEmpty parts then .error .trailingColon
      else readGroups parts

def expandTail (parts : List (List Char)) : Except IPv6Fault (List (List Char)) :=
  match parts.getLast? with
  | none => .ok parts
  | some last =>
    if last.contains '.' then
      match readIPv4 last with
      | .error e => .error (.tail e)
      | .ok a =>
        .ok (parts.dropLast ++ [groupText (a.value.toNat / 65536), groupText (a.value.toNat % 65536)])
    else .ok parts

/-- The number that an address without zone stands for. -/
def readIPv6Value (s : List Char) : Except IPv6Fault Nat :=
  if s.isEmpty then .error .empty
  else
    let parts := fields (· == ':') s
    if parts.length < 3 then .error .tooFewParts
    else do
      let parts ← expandTail parts
      let groups ← groupsOf parts
      return fromDigits 65536 groups

/-- A zone follows the first percent sign; it is not empty and holds no other one. -/
def readIPv6 (s : List Char) : Option IPv6 :=
  if s.contains '/' then none
  else
    let plain := s.takeWhile (· != '%')
    let zone := (s.dropWhile (· != '%')).drop 1
    let zoneFits := plain.length == s.length || (!zone.isEmpty && !zone.contains '%')
    if !zoneFits then none
    else match readIPv6Value plain with
      | .error _ => none
      | .ok n =>
        some ⟨BitVec.ofNat 128 n,
          if plain.length == s.length then none else some (String.ofList zone)⟩

def notAddress (s : String) : String := quote s ++ " does not appear to be an IPv4 or IPv6 address"

namespace Address

def readChars (s : List Char) : Option Address :=
  match readIPv4 s with
  | .ok a => some (.v4 a)
  | .error _ => (readIPv6 s).map .v6

def read (s : String) : Option Address := readChars s.toList

end Address

end DelegationAudit.Net
