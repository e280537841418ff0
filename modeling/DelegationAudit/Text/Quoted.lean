import DelegationAudit.Text.Packed

namespace DelegationAudit.Text

def unprintableTable : RangeSet := RangeSet.ofLines [
  "AfifhBMA2KBGDHABAUAsNAhGBhSBDAhXHbDGQWAmAAhQBhbBjFNhbBhRBPAcBBALEfIiKAlBAIBCBWAHABCEBJBCBEHB",
  "DCAFBZBDAGDCBWAHACACACBBAFDCBDCBGEABGRJDAJADAWAHACAFBKADADBBOEBMGHADAIBCBWAHACAFBJBCBDGDDCAF",
  "BSJCAGCDAECCABACCCCDCMDFCDAEBBFBNVENADAXAQBJADAEGCADBBBEBKGWADAXAKAFBJADAEGCFCAEBKACMNADAhTA",
  "DAGDQBaADASCYAJABBHCBDGABAIFKBDLhaDdhECABAFAYABAXBFABAGBKBEfiIAhEDhHAhEAPANhEmGABEBBrZAEBHAB",
  "AEBhJAEBhBAEBHABAEBPAhZAEBiDBhACaFiWBGB0AAcCiZGWIYIULNADACLieBKFKFOALFiZGhLEiGJfAMDMDBChKBFK",
  "hMDaFLCheBiBAdBLFKFOBfhQiNChPAjUHhcCPChcGhLBLHhLEwWBGBhGBGBIABABABAfBhVAPAOBGATBDAJQYHhPQCBb",
  "ANChBOhBOkMD0XYLUh4UBhAAqdEhNABEBBhYGCNYIHAHAHAHAHAHAHAHAjehBaAiZLmWZMEhfAiWBjHEhLAieAiULhPA",
  "8zNChXIqcTlYHmLECABAFXhbCKFhYHiGHMFjUKeCiOALDhBAhXIOBKBjHXcJGBGBGIHAHAhcDjeBKFq9ELXDhRooDrOB",
  "jKhFHLFEaAFABACACAjdPtdBhWGBfhKFhTATAEDFAkHDleCGBGBGBDCHAHMCBMAaATACAPBOhBjbEDDhNCiYANCBhOhO",
  "kBdChROcDhEIeEhLEeAhFDOhJkeBKFhEDhEDhIHhUKMAPAHACALAPAHACiCpXIWJIXGAhKAJiEGBBAhMACCBBXAiIHJh",
  "PTACEhBCbEBhfhYDUBhSACEIADAdBDDKGJGiAfhHDMIhWCdBbEaGELHiPiJhWhTMhTGhOHKpFfAhKADBCiNhIHhKVahF",
  "cTXIiODhEIheAFMZGKFhVASHhHIjAAUKSAhMiAHABAEAPALFhbEKFEAIBCBWAHACAFAKBCBDBBFBEHBHCFkKicAFdiIH",
  "KlFhWBhGhBiFKKFNShaFKhVbBPDXlYhcjDiTLIBBBIACAeACBMIKiFIBhOBLaiIHiTMiJoGJAhNAOJdChABWAOiIHACA",
  "hMCBACAJHKFGACAhFACAGGKpVZlWBOhSM8bjFjPAFKmEiyLjDMhhPj-QyHotYxZGfAKDiRAKFeBGJiGJKAHAVET1Pibj",
  "EiLDhZGRhfFKCNl_YHhmWhJJo3GEAHACApDhMDQEHsMioDjLENCJGKBEkyfhOBXIjUhbnWJhHBiKHjQUiGkZULiXIZkG",
  "iVAiHACBBBCBEAMABAHAiBAEBIAHAcAEAFABCHAqUBpEB1eOFAPhiPfnAHARBHACAFmUhNCOBKDCpffQhaEBhmfHAEAC",
  "APAmFBQhIiMDKDC4QiEiLhdmBEAbACABBBAKAEABABFBDBABABADACABBBABABABABACABBEAHAEAEABAKAREDAFARhT",
  "CoNhMDjELPBPAPAhFJlOhXdMhMDJGCNGkZ-YEQCNCjULiZGMDBOMDhYHKFhIHeBCiNqULOBFCFCHIdCLEGJKFIHHIkTA",
  "hXhEKhgFhp3AfkhZGmeBl0CNnpRjgewehvBk6L17tUnQl_wP"]

def hexDigit (n : Nat) : Char := Char.ofNat (if n < 10 then 48 + n else 87 + n)

def hexValue? (c : Char) : Option Nat :=
  if c.isDigit then some (c.toNat - 48)
  else if 'a' ≤ c && c ≤ 'f' then some (c.toNat - 87)
  else if 'A' ≤ c && c ≤ 'F' then some (c.toNat - 55)
  else none

theorem hexValue?_hexDigit (n : Nat) (h : n < 16) : hexValue? (hexDigit n) = some n := by
  have all : ∀ m ∈ List.range 16, hexValue? (hexDigit m) = some m := by decide
  exact all n (List.mem_range.2 h)

/-- The last `width` hexadecimal digits, small letters. -/
def hex : Nat → Nat → List Char
  | 0, _ => []
  | width + 1, n => hex width (n / 16) ++ [hexDigit (n % 16)]

def escapeCode (quote n : Nat) : List Char :=
  if n == quote || n == 92 then ['\\', Char.ofNat n]
  else if n == 9 then ['\\', 't']
  else if n == 10 then ['\\', 'n']
  else if n == 13 then ['\\', 'r']
  else if n < 32 || n == 127 then '\\' :: 'x' :: hex 2 n
  else if n < 127 || !unprintableTable.mem n then [Char.ofNat n]
  else if n < 0x100 then '\\' :: 'x' :: hex 2 n
  else if n < 0x10000 then '\\' :: 'u' :: hex 4 n
  else '\\' :: 'U' :: hex 8 n

def quotedCodes (s : List Nat) : List Char :=
  let quote := if s.contains 39 && !s.contains 34 then 34 else 39
  Char.ofNat quote :: (s.flatMap (escapeCode quote) ++ [Char.ofNat quote])

def quoted (s : List Char) : List Char := quotedCodes (s.map Char.toNat)

def quote (s : String) : String := String.ofList (quoted s.toList)

end DelegationAudit.Text
