import DelegationAudit.Text.Blank
import DelegationAudit.Text.Digit
import DelegationAudit.Text.Quoted

namespace DelegationAudit.Number

open Text

/-- White space around a number. Of ASCII, the separators 28 to 31 are not among it. -/
def isPadding (c : Char) : Bool := isBlank c && !(28 ≤ c.toNat && c.toNat < 32)

inductive IntegerError
  | malformed
  | tooLong (digits : Nat)
  deriving DecidableEq, Repr

/-- Longer runs of digits are refused. -/
def maxDigits : Nat := 4300

structure Sign where
  negative : Bool
  rest : List Char

def Sign.take : List Char → Sign
  | '-' :: rest => ⟨true, rest⟩
  | '+' :: rest => ⟨false, rest⟩
  | s => ⟨false, s⟩

/-- The digits at the front, underscores between digits removed, and what follows; nothing when an
underscore has no digit on one side. -/
def takeDigits : List Char → Option (List Nat × List Char)
  | [] => some ([], [])
  | [c] =>
    match decimalValue? c with
    | some d => some ([d], [])
    | none => if c == '_' then none else some ([], [c])
  | c :: '_' :: rest =>
    match decimalValue? c, rest with
    | none, _ => if c == '_' then none else some ([], c :: '_' :: rest)
    | some _, [] => none
    | some d, e :: more =>
      if (decimalValue? e).isNone then none
      else (takeDigits (e :: more)).map (fun r => (d :: r.1, r.2))
  | c :: e :: rest =>
    match decimalValue? c with
    | some d => (takeDigits (e :: rest)).map (fun r => (d :: r.1, r.2))
    | none => if c == '_' then none else some ([], c :: e :: rest)

def ofDigits (ds : List Nat) : Nat := ds.foldl (fun n d => 10 * n + d) 0

def applySign (negative : Bool) (n : Nat) : Int := if negative then -(n : Int) else n

def readInteger (s : List Char) : Except IntegerError Int :=
  let signed := Sign.take (trimBy isPadding s)
  match takeDigits signed.rest with
  | none => .error .malformed
  | some (ds, rest) =>
    if ds.isEmpty then .error .malformed
    else if maxDigits < ds.length then .error (.tooLong ds.length)
    else if rest.isEmpty then .ok (applySign signed.negative (ofDigits ds))
    else .error .malformed

def natText (n : Nat) : List Char := Nat.toDigits 10 n

def intText (n : Int) : List Char :=
  if n < 0 then '-' :: natText n.natAbs else natText n.natAbs

def padded (width n : Nat) : List Char :=
  let s := natText n
  List.replicate (width - s.length) '0' ++ s

def natString (n : Nat) : String := String.ofList (natText n)

def intString (n : Int) : String := String.ofList (intText n)

/-- The message about the text that was read; of a long text only the front is shown. -/
def IntegerError.message (s : List Char) : IntegerError → String
  | malformed => "invalid literal for int() with base 10: " ++ String.ofList ((quoted s).take 200)
  | tooLong digits =>
    "Exceeds the limit (4300 digits) for integer string conversion: value has " ++
      natString digits ++ " digits; use sys.set_int_max_str_digits() to increase the limit"

end DelegationAudit.Number
