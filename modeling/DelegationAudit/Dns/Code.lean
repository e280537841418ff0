import DelegationAudit.Number.Integer

namespace DelegationAudit.Dns

structure RecordType where
  code : UInt16
  deriving DecidableEq

namespace RecordType

def a : RecordType := ⟨1⟩
def ns : RecordType := ⟨2⟩
def cname : RecordType := ⟨5⟩
def soa : RecordType := ⟨6⟩
def ptr : RecordType := ⟨12⟩
def mx : RecordType := ⟨15⟩
def txt : RecordType := ⟨16⟩
def aaaa : RecordType := ⟨28⟩
def nxt : RecordType := ⟨30⟩
def dname : RecordType := ⟨39⟩
def nsec : RecordType := ⟨47⟩

/-- The types whose data are kept in a form of their own. -/
def formed : List RecordType := [a, ns, cname, soa, ptr, mx, txt, aaaa]

def names : List (Nat × String) := [
  (1, "A"), (2, "NS"), (3, "MD"), (4, "MF"), (5, "CNAME"), (6, "SOA"), (7, "MB"), (8, "MG"),
  (9, "MR"), (10, "NULL"), (11, "WKS"), (12, "PTR"), (13, "HINFO"), (14, "MINFO"), (15, "MX"),
  (16, "TXT"), (17, "RP"), (18, "AFSDB"), (19, "X25"), (20, "ISDN"), (21, "RT"), (22, "NSAP"),
  (23, "NSAP-PTR"), (24, "SIG"), (25, "KEY"), (26, "PX"), (27, "GPOS"), (28, "AAAA"), (29, "LOC"),
  (30, "NXT"), (33, "SRV"), (35, "NAPTR"), (36, "KX"), (37, "CERT"), (38, "A6"), (39, "DNAME"),
  (41, "OPT"), (42, "APL"), (43, "DS"), (44, "SSHFP"), (45, "IPSECKEY"), (46, "RRSIG"),
  (47, "NSEC"), (48, "DNSKEY"), (49, "DHCID"), (50, "NSEC3"), (51, "NSEC3PARAM"), (52, "TLSA"),
  (53, "SMIMEA"), (55, "HIP"), (56, "NINFO"), (59, "CDS"), (60, "CDNSKEY"), (61, "OPENPGPKEY"),
  (62, "CSYNC"), (63, "ZONEMD"), (64, "SVCB"), (65, "HTTPS"), (66, "DSYNC"), (67, "HHIT"), (68, "BRID"), (99, "SPF"),
  (103, "UNSPEC"), (104, "NID"), (105, "L32"), (106, "L64"), (107, "LP"), (108, "EUI48"),
  (109, "EUI64"), (128, "NXNAME"), (249, "TKEY"), (250, "TSIG"), (251, "IXFR"), (252, "AXFR"),
  (253, "MAILB"), (254, "MAILA"), (255, "ANY"), (256, "URI"), (257, "CAA"), (258, "AVC"),
  (260, "AMTRELAY"), (261, "RESINFO"), (262, "WALLET"), (32768, "TA"), (32769, "DLV")]

/-- A type without a word of its own is `TYPE` and its number. -/
def text (t : RecordType) : String :=
  match names.lookup t.code.toNat with
  | some s => s
  | none => "TYPE" ++ Number.natString t.code.toNat

def ofInt? (n : Int) : Option RecordType :=
  if 0 ≤ n && n ≤ 65535 then some ⟨UInt16.ofNat n.toNat⟩ else none

end RecordType

structure ResponseCode where
  code : Fin 4096
  deriving DecidableEq

namespace ResponseCode

def noError : ResponseCode := ⟨0⟩
def noSuchName : ResponseCode := ⟨3⟩

def names : List (Nat × String) := [
  (0, "NOERROR"), (1, "FORMERR"), (2, "SERVFAIL"), (3, "NXDOMAIN"), (4, "NOTIMP"), (5, "REFUSED"),
  (6, "YXDOMAIN"), (7, "YXRRSET"), (8, "NXRRSET"), (9, "NOTAUTH"), (10, "NOTZONE"),
  (11, "DSOTYPENI"), (16, "BADVERS"), (17, "BADKEY"), (18, "BADTIME"), (19, "BADMODE"),
  (20, "BADNAME"), (21, "BADALG"), (22, "BADTRUNC"), (23, "BADCOOKIE")]

def text (r : ResponseCode) : String :=
  match names.lookup r.code.val with
  | some s => s
  | none => Number.natString r.code.val

def ofInt? (n : Int) : Option ResponseCode :=
  if h : n.toNat < 4096 then
    if 0 ≤ n then some ⟨⟨n.toNat, h⟩⟩ else none
  else none

end ResponseCode

end DelegationAudit.Dns
