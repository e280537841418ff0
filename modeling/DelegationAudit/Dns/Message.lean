import DelegationAudit.Dns.Code
import DelegationAudit.Dns.Name.Printer

namespace DelegationAudit.Dns

open Text

structure Query where
  name : Name
  type : RecordType
  secure : Bool
  deriving DecidableEq

namespace Query

def recursionDesired : Nat := 0x100

def checkingDisabled : Nat := 0x10

def flags (q : Query) : Nat := recursionDesired + if q.secure then 0 else checkingDisabled

def extension (q : Query) : Option Nat := if q.secure then some 0 else none

def extensionFlags (q : Query) : Nat := if q.secure then 0x8000 else 0

def payload (q : Query) : Nat := if q.secure then 4096 else 0

def word (n : Nat) : List Octet := [UInt8.ofNat (n / 256), UInt8.ofNat (n % 256)]

def classInternet : Nat := 1

def typeExtension : Nat := 41

/-- The root as owner, the type, the payload in place of a class, flags in place of a time to live,
and no data. -/
def extensionWire (q : Query) : List Octet :=
  if q.secure then
    [0] ++ word typeExtension ++ word q.payload ++ word 0 ++ word q.extensionFlags ++ word 0
  else []

/-- Identifier zero, flags, and the number of questions, answers, authorities and additions. -/
def header (q : Query) : List Octet :=
  word 0 ++ word q.flags ++ word 1 ++ word 0 ++ word 0 ++ word (if q.secure then 1 else 0)

def wire (q : Query) : List Octet :=
  q.header ++ q.name.wire ++ word q.type.code.toNat ++ word classInternet ++ q.extensionWire

end Query

end DelegationAudit.Dns
