import DelegationAudit.Idna.Direction

namespace DelegationAudit.Idna

open Text

def allowedTable : RangeSet := RangeSet.ofLines [
  "hNACJhHZjEXBHBABABABABABABABABABABABABABABABABABABABABABABABABADABBBABABADABABABACABABABABAB",
  "ABABABABABABABABABABABABABABABABABACABABABACABACADBEACADCCACABABACABBBACADABACCBGKABABABABAB",
  "ABABBBABABABABABABABABBEADABABABABABABABABABABABABABABABABABABABABABABABABABABABABABGCACBBAE",
  "ABABABABjAJIELaABARhfCADIBfBABADADCSAbhCIABABABABABABABABABABABABADAEACBhThPBABABABABABABABA",
  "BABABABABABABABABABEDABABABABABABABABABABABABABABABABABABABABABABABABABABACABABABABABABBBABA",
  "BABABABABABABABABABABABABABABABABABABABABABABABABABABABABABABABABABABABABABABABABABABABABABA",
  "hJAGhGBAIhMBABBBBBBHaEDdKFfBeOGEiaBHCJBFKFQhaCjEOhVHAChNSbEKFXBGHiKBjUIDCJBSBHCBCVBGBADDCICB",
  "CDIAIDCLKABACCBFEBCVBGBACACBCABEEBCCDAKAJPLCBIBCBVBGBBBECJBCBCCAPDCJJGBCBHCBCVBGBBBECICBCCFE",
  "HECJBAQBBFDCBDDBBABBDBDCDLEEDCBDCAGAOJQMBCBWBPCIBCBDHBBCBBCDCJQDBHBCBWBJBECIBCBDHBFCBDCJBCMM",
  "BCBhSBCBEFDHECJKFBCBRDXBIBACGDAEFBABHGJCBNhRBGFOBJhHBBABEBXBABLBJCEBABGBJEBhAAKAMBGJLABABAEE",
  "BDBDBDBDBDBLBCEBBAFGBCBMBDBDBDBDBDBLBCJAhZiJGiNhShKCCoAiIBDCGBABDChIBDChABDCGBABDCOBhYBDCiCC",
  "ChAPQiVLzLCQBZFiKGHHVJVLTMMBCBBMhTCdDAEBCJhGJGiYHhKFiFKeBLELKhHCELhLEZGJhGbEheBcCKGJNAINBfBL",
  "UiMDJRIMjTMhXIJDhQMAiFCBhGFhLDALASAcMBhBhFhfBABABABABABABABABABABABABABABABABABABABABABABABA",
  "BABABABABABABABABABABABABABABABABABABABABABABABABABABABABABABABABABABABABABABABABABABABABABA",
  "BABABABABECBBABABABABABABABABABABABABABABABABABABABABABABABABABABABABABABABABABABABABABABABA",
  "BABABABABABABABABIIFKHIHIFKHIHIABABABABABABAhTBEAPAJCDBICBDOAkYAleAhVAi1LhPBADBBABABAEABBBFF",
  "ABABABABABABABABABABABABABABABABABABABABABABABABABABABABABABABABABABABABABABABABABABABABABAB",
  "ABABABBHABDBAMhFBAFAChXXXJGBGBGBGBGBGBGBGBfhPAuVChCDOAEiVCBCBCiZBCGhKjQfhQPwAmtfiA10MiDhNCoM",
  "DbVABABABABABABABABABABABABABABABABABABABABABABCEJBABABABABABABABABABABABABABABACiHKBhFIDABA",
  "BABABABABCBABABABABABABABABABABABABABABABABABABABABABABABABABABABABABABABHBABACABABABABBDABB",
  "BABCBABABABABABABABABABAFAFABABABABABABABAEABACABABABABABABABAaBChNEAThTMiFKJGXDABhQChDhMiAO",
  "KGeBhWJNCJGWDiIYCCPCEKFCFCFJGBGBhKFIiXhKBBCJGq9DozKBBABBKABABBCCnUA4BPiDAsMLBZBSBBBOCNhCjaoC",
  "AkCcDhQPAffNTBHGhKFdChDEHiYjVCJhOhDEhHIhThTKBOBGBBDhTMpWJVKHYAjfFCABhLBBDACWKWJeiBSBBKVKZGZh",
  "GhXGBiADBBFHBCBcCCEAhAcDchDHBdZhVKVKSNRjOiIjXhSNhHIJGPZEBWnahJBBDBQFhShCKAIhAfVhKUbWJiGfPJhb",
  "HANYHJGhUBJEDIhDCAJiEEDBMBAhDRBhEGDheGBABDBOBJHhaFJGDBHCBCVBGBBBEBJCBCCCAGAFGCGDELJBACABhFBJ",
  "BACABDBHNBdiKFJEDeiFBAIJlGhVCIXFhCiADALJhGhYHJGTcaCOEJGGlZhakFhJVHCACHBBBdBBCIMJiGHChNCHBBbh",
  "eIAIiJDASiIjHHiYhAPJGIBhMBIPJYdCVBNiJGBBBhLDABBBIIJGFBBBhEBBBFHJGhLEJnWWJQBhIDENKiVAiP8ZnGmD",
  "iyMjAPhhPQVKj8aFyGm1ZhZh2GxYHeBJGiOBJGdCELhWJDMJJUFStQhMDJnGfhbYhMiKEhYHQiABBBLDMnmVhJfjBjSo",
  "vdDBGBBBpCPAdCCAODIsLioEjKFMDIHJDBkzBhNCWi1ZhWEhRIAOAWEBOhiQfFFmVGBQCGBBBEjEAjQhMDNCJEAqBeRh",
  "ZuWhJmWhKmFeBVIBnAGBDBBBOBmELGiLhJEJl1Ghp2fhAkoeBl0NCnpQPzNktCk6KFopJhm8Grhf"]

def markTable : RangeSet := RangeSet.ofLines [
  "4AjPoTGoHhMBABBBBBAiIKhQUQAjFGCFCBBDhDAeaibKhaIJAYDBIBCBEhLChcHhKXBhAhWCBRBGKBdChYABGCBCCJAK",
  "BaACChYABEEBCCDAeBDALChYABHBCBCUBWFBChYABGCBCCHCKBeAhbEDCBDJAhIEhXABGBCBDHBLBdChYABGBCBDHBLB",
  "cDhXBBGBCBDJAKBdCiGAEFBABHSBhdACGMHjCACILFiKBbABABAEBhRTBBFKBhDJAjETXDECBCCGDDNLBAKD1fC9SDcC",
  "dBeBiAfJAhNCBAjVBhCAjWLELmbEhZJBcCAhQehREhPQhGIMCeMhYNhQTkYCBUEAGACCmGhf2QhAi_eCkNAjAfxKFjJB",
  "9uUDBJhABiQBoQADAEAXEEAiTBhSRaRNAhGHZMhMDhPNhEAiDNMAIBhNChSABCCBFBBAhJEFBnMHBBz5QA3BPQP-NAnC",
  "AkVEh0GCBBFDhICEAlFBxdDsDBkZKhRDjaChVOhJACBKDhNKHAhdChENQBhMAMChQNIDBBicLGAlALVDhXBBGCBCCJAK",
  "BCGDEmARXAiRTnLGCIbBiSQjKMjFOoAOnVFBBCDBABBkNGCGDAcJhIGBDIAJKhOPsVHBHiSVBNjaFDABBBGBAiCEBBBE",
  "qbDy_ZEhbGhgYABhWHDiRALBzlLBkzBhNCWweEDFIHCGeDkUCh9bhWEhRIAOAWEBOhqQGBQCGBBBEoFGrXAhdDhvAGjN",
  "G4l9VnP"]

def greekTable : RangeSet := RangeSet.ofLines [
  "7QDBCCDBAEABABCBABTBheOPmpGEhSEEEiUAqAVCFChFCFCHBABABABeChUBOBNCFBSCCBIpHAhixeA1uaiORAh0ifiF"]

def hebrewTable : RangeSet := RangeSet.ofLines [
  "hsRhWIaEFh9pIZBEBABBBBBJ"]

def hanTable : RangeSet := RangeSet.ofLines [
  "r0AZBiYMmVhPABAZIOD-EmtfiA0vf2oArNCjJ9oIBMGhkgJhp2fhAkoeBl0NCnpQPzNitCwdhvCk6KFopJ"]

def hiraganaTable : RangeSet := RangeSet.ofLines [
  "siBiVGCi_7BoeSAdCwlNA"]

def katakanaTable : RangeSet := RangeSet.ofLines [
  "slBiZCCnQPmQhOBiXhzgOJBhMhsiSDBGBBBAofChSAOD"]

/-- Characters that join on both sides, or before the next one. -/
def joinsAfter : RangeSet := RangeSet.ofLines [
  "hqjSA4yaAJAxIA2KA"]

def joinsBoth : RangeSet := RangeSet.ofLines [
  "hxAAFABABEEMBGBBhDBIPShFBBJABABBhICCASCFDBIBABABBfKDOCDBACCCFiKhAiWECABJBAKABDCAdACEBAQJFBCF",
  "BOj5eAYiYOhBBAhj8VhR4yOEODBEBCKDkRABADCBBBACAcBqShABAsfBBBjICBQMCcDCLhOABBEACBBBBACAFAh2pViD"]

/-- Characters that join with the one before. -/
def joinsBefore : RangeSet := RangeSet.ofLines [
  "hxCDBABAFDVAhICBCQRhGACIBABACBBAYBhAAEEEAJABABACAdALCPBEABBDBmGAFBBAKABCOABBFSLAbCBACBGAigwL",
  "ABABBDEKADACAKAkRABCDACABBBAXDrVAsfAjQAhAAfBheCCBCAEBFA"]

/-- Characters that joining looks through. -/
def joinsThrough : RangeSet := RangeSet.ofLines [
  "lNAySjPoTGoHhMBABBBBBAiIKBAhOUQAjFGCFCBBDhBABAeaibKhaIJAYDBIBCBEhLChbIhKXBfhXABAEHEADGKBdAha",
  "AEDIAUBaACBhZAEBEBCCDAeBDALBhZAEEBBEAUBWFBAhaACABDIAHBLBeAhdAMAhSADAhXABCFCBDHBLBdAhaACAGAFB",
  "UBcBhZBEDIAUBdAiIAHCBAiaACGMHjCACILGiJBbABABAhXNBEBBFKBhDJAjGDBFBBCBZBECQDNACBGAPA1fC9SCdBeB",
  "eBiABBGIACKJAhNCBAjVBhCAjWCEBJAGCmbBCAhaABGBABACHGJCAhQhNCLUDhQABEBAFAhIIMBhADCBBChYABBDABCh",
  "aHCBkYCBMBGEAGADBmGhfwLACBaEhREFFjAhAi_eCkNAjAfxKDjLB9uUDBJhABiQBoQADAEAZBFAkXBaRNAhGHZKhOCh",
  "QACDCBhHAiDFCBCBMAIAhPAhTABCCBFBBAhKBIAnOACAEAz5QA3BPQPmPAnZCwBAnCAkVEh0GCBBFDhICEAlFBxdDiBE",
  "pdBiNFiGKhRDjbAhWOhJACBKChRDCBHAhdChEEBHheAMBhUIKDCAifCCABBGACAkdADHVBhZBDAhFGDEiGFNABABAOBi",
  "VHCCBAXAiUFBAEBBBnODGBBBbBiVHCABBjKABACFBAjFABACDBEoDIBBoABBAEAkQDCBEAhAJhIFCDIAJFCChOMBBmGA",
  "BCBAmJGBFBAiSVCGBBBBjaFDABBBGBAiIBDABAqbBLBhUEFABAXAlmVQGOrmILDCiuAEhbGhgYAhfDiRAzlYBBDkychN",
  "CWxACJPCGeDkUCh9bhWEhRIAOAWEBOhqQGBQCGBBBEjEAlAGrXAhdDvcDneBnTACAHBFAuaGjNH4l1VAeifkAnP"]

def isJoiner (n : Nat) : Bool := n == 0x200C || n == 0x200D

def isArabicDigit (n : Nat) : Bool := 0x660 ≤ n && n ≤ 0x669

def isExtendedDigit (n : Nat) : Bool := 0x6F0 ≤ n && n ≤ 0x6F9

def isContextual (n : Nat) : Bool :=
  n == 0xB7 || n == 0x375 || n == 0x5F3 || n == 0x5F4 || n == 0x30FB || isArabicDigit n ||
    isExtendedDigit n

def firstNot (skip : RangeSet) (codes : List Nat) : Option Nat := (codes.dropWhile skip.mem).head?

/-- `before` holds the characters already passed, nearest first. -/
def joinerFits (n : Nat) (before after : List Nat) : Bool :=
  before.head?.any (fun m => classOf m == 9) ||
    (n == 0x200C &&
      (firstNot joinsThrough before).any (fun m => joinsAfter.mem m || joinsBoth.mem m) &&
      (firstNot joinsThrough after).any (fun m => joinsBefore.mem m || joinsBoth.mem m))

def contextFits (label : List Nat) (n : Nat) (before after : List Nat) : Bool :=
  if n == 0xB7 then before.head? == some 0x6C && after.head? == some 0x6C
  else if n == 0x375 then after.head?.any greekTable.mem
  else if n == 0x5F3 || n == 0x5F4 then before.head?.any hebrewTable.mem
  else if n == 0x30FB then
    label.any (fun m => m != 0x30FB && (hiraganaTable.mem m || katakanaTable.mem m || hanTable.mem m))
  else if isArabicDigit n then !label.any isExtendedDigit
  else !label.any isArabicDigit

/-- The ideographs of Tangut have no names, like characters that are not assigned. -/
def isNameless (n : Nat) : Bool :=
  (directionOf n).isNone || (0x17000 ≤ n && n ≤ 0x187F7) || (0x18D00 ≤ n && n ≤ 0x18D08)

/-- A joiner beside a character without a name has no rule. -/
def besideNameless (before : List Nat) : Bool :=
  before.head?.any (fun m => classOf m == 0 && isNameless m)

def checkCodes (label : List Nat) (before : List Nat) : List Nat → Except Fault Unit
  | [] => .ok ()
  | n :: rest =>
    let position := before.length + 1
    if allowedTable.mem n then checkCodes label (n :: before) rest
    else if isJoiner n then
      if besideNameless before then .error (.joinerNeighbour n position label)
      else if joinerFits n before rest then checkCodes label (n :: before) rest
      else .error (.joiner n position label)
    else if isContextual n then
      if contextFits label n before rest then checkCodes label (n :: before) rest
      else .error (.context n position label)
    else .error (.disallowed n position label)

def checkHyphens (label : List Nat) : Except Fault Unit :=
  if (label.drop 2).take 2 == [45, 45] then .error .innerHyphens
  else if label.head? == some 45 || label.getLast? == some 45 then .error .outerHyphen
  else .ok ()

def checkLabel (label : List Nat) : Except Fault Unit :=
  if label.isEmpty then .error .emptyLabel
  else if 254 < label.length then .error .tooLong
  else if composed label != label then .error .notComposed
  else
    match checkHyphens label with
    | .error e => .error e
    | .ok _ =>
      if label.head?.any markTable.mem then .error .leadingMark
      else
        match checkCodes label [] label with
        | .error e => .error e
        | .ok _ => checkDirections label

end DelegationAudit.Idna
