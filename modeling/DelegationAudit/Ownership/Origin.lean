import DelegationAudit.Failure
import DelegationAudit.Net.Address.Reader
import DelegationAudit.Number.Integer
import DelegationAudit.Text.Octets

namespace DelegationAudit

open Text

/-- What is known of the owner of an address: country, number and name of the network, and the block
that is announced. -/
structure Ownership where
  country : Option String
  asn : Option Int
  organization : Option String
  block : Option String
  deriving DecidableEq

namespace Ownership

def originZone : List Char := "origin.asn.cymru.com.".toList

def origin6Zone : List Char := "origin6.asn.cymru.com.".toList

def networkZone : List Char := "asn.cymru.com.".toList

def origin4Chars (a : Net.IPv4) : List Char :=
  joinWith ['.'] (a.octets.reverse.map Number.natText ++ [originZone])

def origin6Chars (a : Net.IPv6) : List Char :=
  joinWith ['.'] (((Net.digitsIn 16 32 a.value.toNat).reverse.map (fun d => [hexDigit d])) ++ [origin6Zone])

/-- An address that holds on one link only has no name: its text with the zone is no number. -/
def originName : Net.Address → Except Failure String
  | .v4 a => .ok (String.ofList (origin4Chars a))
  | .v6 a =>
    match a.zone with
    | none => .ok (String.ofList (origin6Chars a))
    | some _ =>
      match Net.readIPv6Value a.chars with
      | .error e => .error (.plain .address (e.message a.chars))
      | .ok _ => .ok (String.ofList (origin6Chars a))

def networkName (asn : Int) : String :=
  String.ofList ("AS".toList ++ Number.intText asn ++ '.' :: networkZone)

def fieldsOf (s : List Char) : List (List Char) :=
  (fields (· == '|') (s.filter (· != '"'))).map trim

def textOf (strings : List (List Octet)) : List Char := decodeUtf8 strings.flatten

def nonEmpty (s : List Char) : Option String := if s.isEmpty then none else some (String.ofList s)

def quotedList (parts : List (List Char)) : String :=
  "[" ++ String.ofList (joinWith [',', ' '] (parts.map quoted)) ++ "]"

/-- The number of the first network: a block may be announced by several. -/
def firstNumber (field : List Char) : Option Int :=
  match words field with
  | [] => none
  | w :: _ => (Number.readInteger w).toOption

end Ownership

end DelegationAudit
