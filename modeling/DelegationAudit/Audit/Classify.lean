import DelegationAudit.Audit.Report

namespace DelegationAudit

structure Check where
  name : String
  server : String
  address : String
  zone : String

structure Verdict where
  failed : Bool
  finding : Option Finding
  note : Option String

namespace Check

def place (c : Check) : String := c.server ++ " (" ++ c.address ++ ")"

def failure (c : Check) (error : Failure) : Finding where
  zone := c.zone
  issue := .checkFailed
  severity := .high
  server := some c.place
  detail := some (c.name ++ " failed on " ++ c.place ++ " for " ++ c.zone ++ ": " ++ error.message)
  data := [
    ("check", .str c.name),
    ("server", .str c.server),
    ("address", .str c.address),
    ("error", .str error.message)]

def classify (c : Check) (error : Option Failure) (found : Bool) : Verdict :=
  match error with
  | some e => ⟨true, if e.isBenign then none else some (c.failure e), none⟩
  | none =>
    if found then ⟨false, none, none⟩
    else
      ⟨true, none, some (c.name ++ " on " ++ c.place ++ " for " ++ c.zone ++ " returned no records")⟩

end Check

end DelegationAudit
