import DelegationAudit.Text.Blank
import DelegationAudit.Text.Packed

namespace DelegationAudit.Text

def lowerTable : ShiftMap := ShiftMap.ofLines [
  "iBZAiAjfWAiAYGAiAhIXBChSCBCHHBCRWBChOAAnRBCBCIAAtEBBBCEAAscBAACCBAsaCAACDAAkeBAAsUBAAsWBAACC",
  "AAsaBAAseCAAtGBAAtCBAACEAAtGBAAtKCAAtMBCBCGAAtUBAACCAAtUDAACCAAtUBAACCBAtSCBBCEAAtWBAACEAACI",
  "AAEBAACCAAEBAACCAAEBIBCTIBCTAAEBBBCEAAmBBAAjPBTBChIAAoDCIBCYAA1iWBAACCAAqFBAA1iQDAACCAAsFBAA",
  "kKBAAkOBEBCpKBBCGAACJAAnIHAAiMCCAiKEAAkACBAjeDQAiATHAiAhLAAQJLBCcAAjXDAACCAANBAACDCAoDDPAlAQ",
  "fAiAiQQBChKaBChWAAeBGBCPhPBCjBhFAjAi7PhFAumAhHAAumAGAAumA2TiPAir9AiQFAQilAhKAl7fhNCAl7fqDiKB",
  "CkeAAu7dChPBCjIHAPQFAPQHAPQHAPQFAPRDBPPHAPhAHAPQHAPQHAPQBAPCBAkTCAARMDAlLEAARMBAPCBAmHOBAPCB",
  "AmfCAANMBAnfCBAnbCAARpKAAu1ZEAAwrdBAAwkLHAAhYhOPAhAhDAAC5TZAhUh6KhPAjAjAAACCAA0_NBAAnuLBAA0-",
  "NDCBCGAA1hXBAA0_ZBAA1hdBAA1hbCAACDAACJBA1jdChRBCjLBBCHAAC-qOWBCiANBClCGBCQeBCiHBBCEAAilgHBEB",
  "CNAACCAAiyyPDBBCGJBCUAAiy0HBAAiy0dBAAiy0VBAAiy0BBAAiy0HCAAiyxDBAAiyyTBAAiyxJBAAh6ABHBCQAAifB",
  "AAiy0FBAAiljPBBBCJAACGBBCfAAC15MZAiAhmfhHAiQlQhDAiQmAKAiOMOAiOQGAiOIBAiOh3MhSAkAjhAfAiA1tAfA",
  "iA-2AhBAiE"]

/-- Characters that the search for a neighbouring letter passes over. -/
def passedOver : RangeSet := RangeSet.ofLines [
  "hHAGALAhDABAiHAEABAEACBvXlfEBEAJBBAnbGmPAFAhRhMBABBBBBAhMALFKKBAhDAKUQAjFHBJBDhBABAeaibKhaKE",
  "ACAYXhLChMAHBGHhJhZhXABAEHEADGKBNAPAhaAEDIAUBaACBhZAEBEBCCDAeBDALBhZAEEBBEAUBWFBAhaACABDIAHB",
  "LBeAhdAMAhSADAhXABCFCBDHBLBdAhaACAGAFBUBcBhZBEDIAUBdAiIAHCBAiaACGLIjCACIJABFiKBbABABAhXNBEBB",
  "FKBhDJAjGDBFBBCBZBECQDNACBGAPAieAzAC9SCdBeBeBiABBGIACKDAFAhNEhTAiBBhCAjWCEBJAGCmbBCAhaABGBAB",
  "ACHGJCAhHAIehRDhQABEBAFAhIIMBhADCBBChYABBDABChaHCBiAFiSCBMBGEAGADBhSheNAhCjEtdABCLCNCNCNBMEI",
  "BKACACEhREBJBANAQMhThAi8LBjRCjdAPAjAfhPAuVAhEDDEFAidFidC74WAhnCFoOAjCDBJBAcDiQBOhBiOAXCjHCDB",
  "IADAEAZBFAkXBaRNAhGHZKhOChQACDCBRAVBiCFCBCBMAIAhDALAhTABCCBFBBAbAOBFBBAjEEJCjZACAEAz5QAkTQxd",
  "PDAMPhCACAlJAHAGALAhDABAhPAhNBiDAVCwBAnCAkVEhgFFBhJBIyGCBBFDhICEAlFBxdDsDBkZKhRDjbAhWOhJACBK",
  "ChRDCBCAEAKAhSChEEBHheAMBhUIKDCAifCCABBGAlAADHVBhZBDAhFGDEmDHCCBAXAiUFBAEBBBnODGBBBbBiVHCABB",
  "jKABACFBAjFCCDBEoDIBBoABBAEAkQDCBEAhAJhIFCDIAJFCChOMBBsWGBFBAiSVCGBBBBjaFDABBBGBAiIBDABAqbBl",
  "pbIt1XEhbGJDhgLAhfQiABBBwgLDBGBBjkeBBDkychNCWxACJPCGeDkUCh9bhWEhRIAOAWEBOhqQGBQCGBBBEoFNrQAh",
  "dDhvAGjNHi1PE4jgBAeifkAnP"]

def casedTable : RangeSet := RangeSet.ofLines [
  "iBZGZhPAKAEAFWBeBmCBDEmPBamADCBDCBAGABCBABTBiSBkKIlFBhFJhIi4XhFBAFAChKCC1AiVCFikCIHhKCCiAhLh",
  "fMBhBjFoVCFChFCFCHBABABABeChUBGBADCBGDDCFEMFCBGoFAEACJBADEGABABABDBFEACDFEEARfDB5RhTh4WjbCjG",
  "GDDBMhFBAFA-oShNSbkGiNBWDDBhaFBBABEbBDA5VhKFIHiPz6AGMEhgJZGZhlFiPjAhDEhDjUKBOBGBBBKBOBGBBh2D",
  "hSNhSi9Nhf1rAhf5sAiUBiGBBCACBCDBLBABGBiABDCHBGBbBDBEBADGBqTCYBYBeBYBeBYBeBYBeBYBHh5UJBTivBiD",
  "h_MZGZGZ"]

def lowerChar (c : Char) : List Char :=
  if c.toNat < 128 then [c.toLower]
  else if c.toNat == 0x130 then ['i', Char.ofNat 0x307]
  else match lowerTable.find? c.toNat with
    | some n => [Char.ofNat n]
    | none => [c]

def nextIsCased (s : List Char) : Bool :=
  match s.dropWhile (fun c => passedOver.mem c.toNat) with
  | [] => false
  | c :: _ => casedTable.mem c.toNat

/-- `before` holds the characters already passed, nearest first. -/
def lowerFrom (before : List Char) : List Char → List Char
  | [] => []
  | c :: cs =>
    (if c.toNat == 0x3A3 then
      [Char.ofNat (if nextIsCased before && !nextIsCased cs then 0x3C2 else 0x3C3)]
    else lowerChar c) ++ lowerFrom (c :: before) cs

def lower (s : List Char) : List Char := lowerFrom [] s

theorem lowerFrom_ascii (before s : List Char) (h : isAscii s = true) :
    lowerFrom before s = s.map Char.toLower := by
  induction s generalizing before with
  | nil => rfl
  | cons c cs ih =>
    simp only [isAscii, List.all_cons, Bool.and_eq_true, decide_eq_true_eq] at h
    have hs : (c.toNat == 0x3A3) = false := by simp; omega
    rw [lowerFrom, ih _ (by simpa [isAscii] using h.2)]
    simp [hs, lowerChar, h.1]

end DelegationAudit.Text
