import DelegationAudit.Dns.Code
import DelegationAudit.Dns.Name.Printer
import DelegationAudit.Net.Address

namespace DelegationAudit.Dns

open Text

structure Authority where
  primary : Name
  contact : Name
  serial : Nat
  refresh : Nat
  retry : Nat
  expire : Nat
  minimum : Nat
  deriving DecidableEq

/-- Data of a type without a form of its own are known by their text. -/
structure PlainData where
  type : RecordType
  chars : List Char
  unformed : type ∉ RecordType.formed
  deriving DecidableEq

theorem PlainData.type_ne (data : PlainData) {t : RecordType} (ht : t ∈ RecordType.formed) :
    data.type ≠ t := by
  rintro rfl
  exact data.unformed ht

/-- An address of version six is sixteen octets here, so it never has a zone. -/
inductive Rdata
  | a (address : Net.IPv4)
  | aaaa (value : BitVec 128)
  | ns (target : Name)
  | cname (target : Name)
  | ptr (target : Name)
  | mx (preference : Nat) (exchange : Name)
  | soa (authority : Authority)
  | txt (strings : List (List Octet))
  | plain (data : PlainData)
  deriving DecidableEq

/-- A group with its number in base 256, as four octets of version four. -/
def dottedTail (groups : List Nat) : List Char :=
  (Net.IPv4.ofNat (Net.fromDigits 65536 groups)).chars

/-- As for any address, but six groups of zeros, or five before `ffff`, leave a tail that is written
in dotted form. -/
def mappedText (a : Net.IPv6) : List Char :=
  let run := Net.zeroRun a.groups
  if run == ⟨0, 6⟩ then ':' :: ':' :: dottedTail (a.groups.drop 6)
  else if run == ⟨0, 5⟩ && a.groups[5]? == some 0xFFFF then
    "::ffff:".toList ++ dottedTail (a.groups.drop 6)
  else a.plainChars

def quotedOctet (b : Octet) : List Char :=
  if b == 34 || b == 92 then ['\\', Char.ofNat b.toNat]
  else if 0x20 ≤ b.toNat && b.toNat < 0x7F then [Char.ofNat b.toNat]
  else '\\' :: Number.padded 3 b.toNat

def quotedOctets (s : List Octet) : List Char := '"' :: (s.flatMap quotedOctet ++ ['"'])

namespace Authority

def chars (s : Authority) : List Char :=
  joinWith [' '] (s.primary.chars :: s.contact.chars ::
    [s.serial, s.refresh, s.retry, s.expire, s.minimum].map Number.natText)

def same (s t : Authority) : Bool :=
  s.primary.same t.primary && s.contact.same t.contact && s.serial == t.serial &&
    s.refresh == t.refresh && s.retry == t.retry && s.expire == t.expire && s.minimum == t.minimum

end Authority

namespace Rdata

def type : Rdata → RecordType
  | a _ => .a
  | aaaa _ => .aaaa
  | ns _ => .ns
  | cname _ => .cname
  | ptr _ => .ptr
  | mx _ _ => .mx
  | soa _ => .soa
  | txt _ => .txt
  | plain data => data.type

def chars : Rdata → List Char
  | a address => address.chars
  | aaaa value => mappedText ⟨value, none⟩
  | ns target | cname target | ptr target => target.chars
  | mx preference exchange => Number.natText preference ++ ' ' :: exchange.chars
  | soa s => s.chars
  | txt strings => joinWith [' '] (strings.map quotedOctets)
  | plain data => data.chars

def text (r : Rdata) : String := String.ofList r.chars

/-- Names are compared without regard to case; octets are compared exactly. -/
def same : Rdata → Rdata → Bool
  | a x, a y => x == y
  | aaaa x, aaaa y => x == y
  | ns x, ns y => x.same y
  | cname x, cname y => x.same y
  | ptr x, ptr y => x.same y
  | mx p x, mx q y => p == q && x.same y
  | soa x, soa y => x.same y
  | txt x, txt y => x == y
  | plain x, plain y => x == y
  | _, _ => false

/-- A name has at most one record of such a type. -/
def isSingleton (t : RecordType) : Bool := [.soa, .nxt, .dname, .nsec, .cname].contains t

end Rdata

end DelegationAudit.Dns
