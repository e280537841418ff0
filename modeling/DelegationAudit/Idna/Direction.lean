import DelegationAudit.Idna.Composed

namespace DelegationAudit.Idna

open Text

inductive Direction
  | left
  | right
  | arabicLetter
  | arabicNumber
  | europeanNumber
  | europeanSeparator
  | commonSeparator
  | europeanTerminator
  | neutral
  | boundary
  | mark
  | other
  deriving DecidableEq, Repr

/-- Entries of a gap, a length less one, and the direction of the range. -/
def directionLines : List String := [
  "AIJAAMAALAAMAANAALANJACLAAMAANABIACHAEIAAFAAGAAFABGAJEAAGAFIAZAAFIAZAADIAFJAALAZJAAGAAIADHAD",
  "IAAAABIAAJABIABHABEAAIAAAACIAAEAAAAEIAWAAAIAeAAAIAuAAABIAGAANIABAANIAEAAIIAAAAQIAjPKADAABIAB",
  "ACDAAAIAAAEBIAAAAAIACABAABTABiSAAAIAkLAAGKAlFABhFAChQAAAICBIAAHBhMKAABAAKAABABKAABABKAABAAKI",
  "aBEFBLFDABIAACABHAACAAGAACABIAKKAhPCAUKAJDAAHABDACCAAKAjECAGKAADAAIAFKABCABKAAIADKABCAJEATCB",
  "BCAAKAdCAaKCiYCAKKAACOhKBAIKABBADIAABCAKAXBADKAABAIKAABACKAABAEKCOBBYBACKCABBKCFeCBBDGHKAhJC",
  "AXKAADAfKAhWAAAKAAAAAKADAAHKADAAAKACAAGKAJAABKAcAAAKABABHACBACVABGABAADDACAKADAADKCBACBAAAKA",
  "AAIAAEBABCAABKCLAABHAGAAAHABAAAKCBKAAABFAEBACVABGABBABBABBACAKBCAABKEBKCCKDAKHDABAAHJAABKACA",
  "AAKAAAKBKAAABIABCABVABGABBABEACAKADAAEKBBKAAABBAAAKCAAPBAABKCKAAAHHAAAFKBAKABABHACBACVABGABB",
  "ABEACAKABAAAKAAAADKCBACBAAAKHBKAAAEBABCAABKCRAKAKAAABFADCABDADBABAABBADBADCADLAEBAAAKABADCAB",
  "CAAAKCAAGAAOMAAFIAAHAAIFAKACAAAKAHABCABWABPACAKAAAACKADABCKBDKHBKBCACAACBAABKCJAHAAAGIABAAAK",
  "AKABCABWABJABEACAKAHABCABBAABKHBAGBABBAABKCJABBANBKAKABCABhIAABKADAADKBCABCAAAKABAENAABKCZAB",
  "AKABABRADXABIABAACGADAKECAACKBAKBHAGJACCAMhPAAAKABAAGKEAHAGAAHKAMAhFBABAABEABXABAABJAAAKABAA",
  "IKAAACEABAABFKCJACDAhAXAABKAaAAAKAAAAAKAAAAAKADIAJABhDAENKAAAAEKAAAABKAEAAKKBhDKBHAAAKAFABMA",
  "hFhMAADKAAAAFKAAAABKABAABKAYAABKADAACKAPAADKAMAAAKABAABKAFAAAKAOAAAKAhHABAAFAACrYABDACGABAAB",
  "DAChIABDAChAABDACGABAABDACOABhYABDACiCACCKAcADPAAJIGiVACFACAIAzeAAANAZAABIDiYAHRAACKAAAJSAAB",
  "KACAJRAABKMMABCABBKMhTAABKAAAAGKAHAAAKABAAKKAGAAAHAAAAAKCJAGJIGKIACKAAJAAKAJAGiYAHEAABKAhBAA",
  "AKAAAFiFAKeABCKADAABKACAEBAAAKAFAACKEAIDBIAhHACEALhLAEZAGKADhBIAWAABKABAAAKChXAAAKAAAAGKBAKA",
  "AAAAKABAAHKAFAAJKCAKAJAGJAGNACeKhRDKAhPAAAKAAAAEKAAAAAKAEAAAKAJADaAAIKAKABBKAfAADKABAABKAAAA",
  "CKAhXAAAKAAAABKACAAAKAAAACKABAIhPAAHKABAABKDOADhbAHhKACKAICKAAAAMKAAAAGKADAAAKAFAAAKACAABKAA",
  "AFlfAAhfKAoVACFAChFACFACHABAABAABAABeAChUABGAAAIAAAACIACABGAACIADACFABCIAMAACICCABGAABIBKNAC",
  "JAAAAABAXIAANAALAAOAAQAASAAPAARAAGAEHAOIAAGAZIAANAEJBATAAUAAVAAWAFJAAEAAACFEABFACIAAAAJEABFA",
  "CIBMADhAHPhAKPBIAAAADIAAAABIAJAAAIAAAACIAEAAFIAAAAAIAAAAAIAAAAAIADAAAHAKAABIADAAEIAEAADIABAA",
  "PIAhIAACIEkBIAAFAAHApBIAiEAAZIAAAAkQIZKIVhHIATEAiNAAuBIAAAAqSIAnfAAzTICfIBjIIAnEAAFIADAACKAB",
  "AFGIAhFABAAFAAChXAHBAOAKAWAJGABGABGABGABGABGABGABGABfKAidIhCZIBiYIMmVIaLIEANADIACAAYIAIAADKA",
  "BAAAIAEAABIAEAACIBiVACBKABIACAAAIAiZAAAIADAFhKABidABhPAAhDIMhMAABIBhPAAPIAbAACIAhRAAOIALAADI",
  "AlGAADIAjCAABIAeAAAIAmtfAAhfIA10MADhWIJpcAACIAbAUhOAADKAAIAJKABIAdAABKAiPAABKAFAIhBIAjFAAAIA",
  "iBAFBABAABEAYPAAAKACAAAKADAAAKAYAABKAAAADIAAKDHAABHGhTAADIIiDAABKILAGRKAMAAAKAhFAAHKAYAAKKAB",
  "ALdADCKAhPAAAKABAADKABAABKAPABKAEGAAAKAYABhIAAFKABAABKABAABKJCAAAKAHAAAKAAACJACfAAAKAhSAAAKA",
  "AAACKABAABKAEAABKAAAAAKAAAYQAABKAHAAAKKFACFACFAJGABGABhZAABIEjUAAAKABAAAKADAAAKCJAGq9DAMWAEh",
  "QAEozNACjJAhGGAMEAFABAAKAJBAAFAMBBEBBABBBBBBBBJBAjSCQrKCARIAhfCChVCHAIhAMCACIAPKAJIGPKAfIAAG",
  "AAIAAGBAIAAGAIIAAHABIABFACIBAIABHAAIEECBkGCCAJBBIACHAEIAAFAAGAAFABGAJEAAGAFIAZAAFIAZAAKIAiYA",
  "DFACFACFACCADBHACIABHBGIKEICLABZABSABBABOACNAhCjaAFAAAAIAAAEhMADIAAiMIABABMIDAIhPhMAAAKkCcAD",
  "hQAPAKAaEEhDAJdAFhFAAEKFdABhEAENAhKkdACJAGhDAEhDAEhHAIhTALLABOABGABBABKABOABGABBAiDpWAJVAKHA",
  "YFABhJABIAiFFBCABBhLBBBBDABCWBBiHBIIBhQSBBBBFhABDAIAZBFABiAhXBETBChOBACKBBKFDKADBBCBBcBCCKEA",
  "KAIBHIBHhfBhAhEBABKELBJhVBDGIAVBCaBFZBHDBMGBiQiIBhXhSBNhSBHFBAhDCADKIJDpGeDBhJBBBKAABCBBiOhH",
  "BIVCAKKAICWRBADKADBhGbBUWBJAAAAKAhVAAOKAGAETIAJAAAKABAABKAAAJCKAhQAADKABAABKAGAAAKKAACYAHJAG",
  "CKAhDAAEKAAAAHKBRAIhCAAAKACAJBKAhTAAIKAJAADKABAAAKAPABTALRABbAACKABAAAKAAAABKAFAAAKiBGABAABD",
  "ABOABKAGhOAAAKACAAHKFJAGBKABABHACBACVABGABBABEABBKACAAAKADACBACCACAAGAAFGACGKDEKkLhXAAHKABAA",
  "CKAAAAAKAUABAAAAKACAehSAAFKAAAAAKADAABKAAAABKADAIJAlGhRAADKCDAABKAAAABKAaAABKhChSAAHKABAAAKA",
  "AAABKADALJAGMIThKAAAKAAAAAKABAAFKAAAAAKABAGJAhWaACCKABAADKAAAAEKEWAlZhOAAIKAAAABKAAAjEiSAMHA",
  "CAACHABBABdABBACBKAAAAAKADAAAKACAJJAiGHAChJAADKCBKADAAAKADAbAAAFKABAABKAhHAAFKABAADKAHAAAKIA",
  "AAFKABAACKAhNAAMKAAAABKAIANiIAoHIABhFAAGKBFKAHAKcADfACVKBAAAGKAAAABKAAAABKiJGABBABhFAAFKDAKB",
  "BKBGKAAAAAKIJAGFABBABhEABBKBBAAAKAAAAAKAAAHJApWSAABKADAlXAAPUAAHIADHAQIN8aAjGjOABEALmDAiyMjC",
  "ANhhOABIAj-HyGAotZxYAHeABJAEiQABJAGdACEKAAAKhPAAGKAOAKJABGABUAFSA1QiaAjFiKAEAKAhXAHDKAMAiABA",
  "AAIAAAAAKLBAOl_XAIhmVAhKIAo3HDABGABBABpCAhNCARDAIsLAioEjKAFMADIAHJACAAABKAAAADJkychNKCWKJjTA",
  "hcnVAKhGAChdAACKAIAAHJAHKABAAGKAdAADKAhaAABIViBIACKAAIkaTAMiWIJYAkHiUABiGABBACAACBACDABLABAA",
  "BGABiAABDACHABGABbABDABEABAADGABqTAChSAAAIAhYAAAIAhYAAAIAhYAAAIAhYAAAIAHAChREAvfAAhWKADAAhRK",
  "AHAAAKANAAAKAGAPEKBOKhiQeAnBGKBQKCGKBBKBEKmVhMADGKAGACJAEBAqAdAAAKRhLAADKAJAFAHhnAGABDABBABO",
  "ABmEBCIBAGKhJiDBAGKAABEJBEBB4RiDCiMhcCmCDCBaCBBCBACCACBJCBDCBACBACGACEACBACBACBCCBBCBACCACBA",
  "CBACBACBACBBCBACCDCBGCBDCBDCBACBJCBQCFCCBECBQChUBIoOhLIEjDIMOICOIBOIBhEIKKEAEIAeAAAIAhZAAFIA",
  "hcAAAIhYcANhLAEIAHBAOFIka-XIFPIDMIDjTIMiYIHLIEAIPLIEhXIIJIGhHIIdICBIiOqTIMNICEIDEIDGIJcIDKIF",
  "FIKJIGHIIGIJkSIBhWIhFJEhgGhp2fAhAkhYAHmdACl0BAOnpQAjgfwdAhvCk6KA17lWAJeifJkAnPKh_wQh__dACh__",
  "dA"]

def directionTable : Array (Nat × Nat × Nat) := (valuesFrom 0 (unpack directionLines)).toArray

def Direction.ofIndex : Nat → Direction
  | 0 => left
  | 1 => right
  | 2 => arabicLetter
  | 3 => arabicNumber
  | 4 => europeanNumber
  | 5 => europeanSeparator
  | 6 => commonSeparator
  | 7 => europeanTerminator
  | 8 => neutral
  | 9 => boundary
  | 10 => mark
  | _ => other

/-- Unassigned characters have none. -/
def directionOf (n : Nat) : Option Direction :=
  (directionTable.find? (fun r => r.1 ≤ n && n ≤ r.2.1)).map (fun r => Direction.ofIndex r.2.2)

namespace Direction

def isRightward : Direction → Bool
  | right | arabicLetter | arabicNumber => true
  | _ => false

def isNumber : Direction → Bool
  | arabicNumber | europeanNumber => true
  | _ => false

def isShared : Direction → Bool
  | europeanNumber | europeanSeparator | commonSeparator | europeanTerminator | neutral | boundary
  | mark => true
  | _ => false

def allowed (rtl : Bool) (d : Direction) : Bool :=
  d.isShared || if rtl then d.isRightward else d == left

def endsWell (rtl : Bool) (d : Direction) : Bool :=
  d == europeanNumber || if rtl then d.isRightward else d == left

end Direction

def firstUnknown (position : Nat) : List Nat → Option Nat
  | [] => none
  | n :: rest => if (directionOf n).isNone then some position else firstUnknown (position + 1) rest

/-- Walks a label. `good` says whether it may end here, `digits` which kind of number it holds. -/
def checkRun (rtl : Bool) : Nat → Bool → Option Direction → List Direction → Except Fault Unit
  | _, good, _, [] => if good then .ok () else .error .badEnding
  | position, good, digits, d :: rest =>
    let good := if d.endsWell rtl then true else if d == .mark then good else false
    if !d.allowed rtl then .error (.badDirection rtl position)
    else if rtl && d.isNumber then
      match digits with
      | none => checkRun rtl (position + 1) good (some d) rest
      | some k => if k == d then checkRun rtl (position + 1) good digits rest else .error .mixedDigits
    else checkRun rtl (position + 1) good digits rest

def checkDirections (label : List Nat) : Except Fault Unit :=
  match firstUnknown 1 label with
  | some p => .error (.unknownDirection p label)
  | none =>
    let ds := label.filterMap directionOf
    if !ds.any Direction.isRightward then .ok ()
    else match ds with
      | .right :: _ | .arabicLetter :: _ => checkRun true 1 false none ds
      | .left :: _ => checkRun false 1 false none ds
      | _ => .error (.badStart label)

end DelegationAudit.Idna
