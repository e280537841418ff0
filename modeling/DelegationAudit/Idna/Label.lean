import DelegationAudit.Idna.Punycode
import DelegationAudit.Idna.Rules

namespace DelegationAudit.Idna

open Text

def isAsciiLabel (label : List Nat) : Bool := label.all (· < 128)

def toChars (label : List Nat) : List Char := label.map Char.ofNat

def marker : List Char := ['x', 'n', '-', '-']

/-- An ASCII label that came out of the mapping: behind the marker there has to be the written form of
a valid label. -/
def checkAscii (label : List Char) : Except Fault Unit :=
  let small := asciiLower label
  if !marker.isPrefixOf small then checkLabel (small.map Char.toNat)
  else
    let rest := small.drop 4
    if rest.isEmpty then .error .noContent
    else if rest.getLast? == some '-' then .error .hyphenAtEnd
    else match Punycode.decode rest with
      | none => .error .undecodable
      | some decoded =>
        if Punycode.encode decoded == rest then checkLabel decoded else .error .notCanonical

def shortEnough (label : List Char) : Except Fault (List Char) :=
  if label.length ≤ 63 then .ok label else .error .tooLong

def toAscii (label : List Nat) : Except Fault (List Char) :=
  if 1024 < label.length then .error .tooLong
  else if isAsciiLabel label then
    match checkAscii (toChars label) with
    | .error e => .error e
    | .ok _ => shortEnough (toChars label)
  else
    match checkLabel label with
    | .error e => .error e
    | .ok _ => shortEnough (marker ++ Punycode.encode label)

def encodeLabel (label : List Nat) : Except Fault (List Char) :=
  if label.isEmpty then .ok []
  else if isAsciiLabel label then shortEnough (toChars label)
  else if 1024 < label.length then .error .mappingTooLong
  else
    match mapLabel label with
    | .error e => .error e
    | .ok mapped => toAscii (composed mapped)

end DelegationAudit.Idna
