import DelegationAudit.Dns.Code
import DelegationAudit.Dns.Rdata.Fault
import DelegationAudit.Number.Decimal

namespace DelegationAudit

inductive Kind
  | resolution
  | ownership
  | runtime
  | value
  | address
  | overflow
  | typeMismatch
  | missingMember
  | missingKey
  | os
  | connectionRefused
  | osTimeout
  | permission
  | timeout
  | malformed
  | tooBig
  | badResponse
  | unexpectedSource
  | shortHeader
  | trailingJunk
  | emptyLabel
  | labelTooLong
  | nameTooLong
  | badEscape
  | idna
  | syntaxFault
  | unexpectedEnd
  | badSpan
  | badTarget
  deriving DecidableEq, Repr, Inhabited

namespace Kind

def name : Kind → String
  | resolution => "ResolutionError"
  | ownership => "OwnershipLookupError"
  | runtime => "RuntimeError"
  | value => "ValueError"
  | address => "AddressValueError"
  | overflow => "OverflowError"
  | typeMismatch => "TypeError"
  | missingMember => "AttributeError"
  | missingKey => "KeyError"
  | os => "OSError"
  | connectionRefused => "ConnectionRefusedError"
  | osTimeout => "TimeoutError"
  | permission => "PermissionError"
  | timeout => "Timeout"
  | malformed => "FormError"
  | tooBig => "TooBig"
  | badResponse => "BadResponse"
  | unexpectedSource => "UnexpectedSource"
  | shortHeader => "ShortHeader"
  | trailingJunk => "TrailingJunk"
  | emptyLabel => "EmptyLabel"
  | labelTooLong => "LabelTooLong"
  | nameTooLong => "NameTooLong"
  | badEscape => "BadEscape"
  | idna => "IDNAException"
  | syntaxFault => "SyntaxError"
  | unexpectedEnd => "UnexpectedEnd"
  | badSpan => "BadTTL"
  | badTarget => "InvalidURL"

def all : List Kind := [resolution, ownership, runtime, value, address, overflow, typeMismatch,
  missingMember, missingKey, os, connectionRefused, osTimeout, permission, timeout, malformed,
  tooBig, badResponse, unexpectedSource, shortHeader, trailingJunk, emptyLabel, labelTooLong,
  nameTooLong, badEscape, idna, syntaxFault, unexpectedEnd, badSpan, badTarget]

def ofName? (s : String) : Option Kind := all.find? (fun k => k.name == s)

def defaultText : Kind → String
  | timeout => "The DNS operation timed out."
  | malformed => "DNS message is malformed."
  | tooBig => "The DNS message is too big."
  | badResponse => "A DNS query response does not respond to the question asked."
  | unexpectedSource => "A DNS query response came from an unexpected address or port."
  | shortHeader => "The DNS packet passed to from_wire() is too short."
  | trailingJunk => "The DNS packet passed to from_wire() has extra junk at the end of it."
  | emptyLabel => Dns.NameError.emptyLabel.message
  | labelTooLong => Dns.NameError.labelTooLong.message
  | nameTooLong => Dns.NameError.nameTooLong.message
  | badEscape => Dns.NameError.badEscape.message
  | _ => ""

/-- Failures of an exchange as such: of the message, of the system, or of a value in it. -/
def isAbsorbed : Kind → Bool
  | resolution | ownership | runtime | overflow | typeMismatch | missingMember | missingKey
  | badTarget => false
  | _ => true

end Kind

/-- Every failure is of one question: what its transport met, why its name is none, how the server
refused, that records are missing, or that a domain has no nameservers. -/
inductive Failure
  | plain (kind : Kind) (text : String)
  | transport (server : String) (cause : Failure)
  | invalidQuestion (name : String) (cause : Failure)
  | rejected (code : Dns.ResponseCode)
  | noRecords (type : Dns.RecordType)
  | noNameservers (domain : String) (cause : Failure)
  | absent
  deriving Inhabited

namespace Failure

def kindName : Failure → String
  | plain kind _ => kind.name
  | transport _ _ => "TransportError"
  | invalidQuestion _ _ => "InvalidQuestion"
  | rejected _ => "ServerRejected"
  | noRecords _ => "NoRecords"
  | noNameservers _ _ => "NoNameservers"
  | absent => "NoneType"

def message : Failure → String
  | plain _ text => text
  | transport server cause =>
    "transport failure talking to " ++ server ++ ": " ++ cause.kindName ++ ": " ++ cause.message
  | invalidQuestion name cause =>
    "invalid query name " ++ Text.quote name ++ ": " ++ cause.message
  | rejected code => "failure: " ++ code.text
  | noRecords type => "no records for " ++ type.text
  | noNameservers domain absent => "no NS found for " ++ domain
  | noNameservers domain cause => "no NS found for " ++ domain ++ ": " ++ cause.message
  | absent => "None"

/-- A question that did not produce usable records, as opposed to a fault of another kind. -/
def isResolution : Failure → Bool
  | plain kind _ => kind == .resolution
  | absent => false
  | _ => true

def isOwnership : Failure → Bool
  | plain kind _ => kind == .ownership
  | _ => false

def isAbsorbed : Failure → Bool
  | plain kind _ => kind.isAbsorbed
  | _ => false

def ofNameError : Dns.NameError → Failure
  | .emptyLabel => plain .emptyLabel Dns.NameError.emptyLabel.message
  | .labelTooLong => plain .labelTooLong Dns.NameError.labelTooLong.message
  | .nameTooLong => plain .nameTooLong Dns.NameError.nameTooLong.message
  | .badEscape => plain .badEscape Dns.NameError.badEscape.message
  | .idna fault => plain .idna (Dns.NameError.idna fault).message

/-- A fault in a name within data keeps its kind where it is one of form. -/
def ofDataFault (e : Dns.DataFault) : Failure :=
  match e with
  | .endsEarly => plain .unexpectedEnd e.message
  | .span _ => plain .badSpan e.message
  | .name .emptyLabel => plain .emptyLabel e.message
  | .name .labelTooLong => plain .labelTooLong e.message
  | .name .badEscape => plain .badEscape e.message
  | _ => plain .syntaxFault e.message

def timedOut : Failure := plain .timeout Kind.timeout.defaultText

def timedOutAfter (seconds : Float) : Failure :=
  plain .timeout ("The DNS operation timed out after " ++ Number.floatPlaces seconds ++ " seconds")

def badType : Failure := plain .value "type must be an int between >= 0 and <= 65535"

def badCode : Failure := plain .value "rcode must be an int between >= 0 and <= 4095"

/-- A code that no reply can carry. -/
def badReplyCode : Failure := plain .value "rcode must be >= 0 and <= 4095"

def ofNotFinite : Number.NotFinite → Failure
  | .nan => plain .value "cannot convert float NaN to integer"
  | .infinite => plain .overflow "cannot convert float infinity to integer"

/-- Words in a message that mark an expected outcome. -/
def benignMarkers : List String := ["NXDOMAIN", "no records for"]

/-- Missing records are to be expected, and so is a name that does not exist. -/
def isBenign (e : Failure) : Bool :=
  match e with
  | noRecords _ => true
  | rejected code =>
    code == .noSuchName || benignMarkers.any (fun m => Text.occursIn m.toList e.message.toList)
  | _ => benignMarkers.any (fun m => Text.occursIn m.toList e.message.toList)

end Failure

end DelegationAudit
