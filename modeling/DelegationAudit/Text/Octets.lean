import DelegationAudit.Text.Quoted

namespace DelegationAudit.Text

abbrev Octet := UInt8

def utf8 (s : List Char) : List Octet := s.flatMap String.utf8EncodeChar

def replacement : Char := Char.ofNat 0xFFFD

/-- A sequence under way: the bits so far, how many octets are missing, and the range of the next. -/
structure Sequence where
  bits : Nat
  missing : Nat
  low : Nat
  high : Nat

inductive Lead
  | whole (c : Char)
  | opens (s : Sequence)
  | stray

/-- The ranges of the second octet rule out long forms, surrogates and values past the last code
point. -/
def leadOf (n : Nat) : Lead :=
  if n < 0x80 then .whole (Char.ofNat n)
  else if n < 0xC2 then .stray
  else if n < 0xE0 then .opens ⟨n - 0xC0, 1, 0x80, 0xBF⟩
  else if n == 0xE0 then .opens ⟨0, 2, 0xA0, 0xBF⟩
  else if n == 0xED then .opens ⟨13, 2, 0x80, 0x9F⟩
  else if n < 0xF0 then .opens ⟨n - 0xE0, 2, 0x80, 0xBF⟩
  else if n == 0xF0 then .opens ⟨0, 3, 0x90, 0xBF⟩
  else if n < 0xF4 then .opens ⟨n - 0xF0, 3, 0x80, 0xBF⟩
  else if n == 0xF4 then .opens ⟨4, 3, 0x80, 0x8F⟩
  else .stray

/-- One replacement for each sequence that breaks off, as far as it was well formed. -/
def decodeFrom : Option Sequence → List Octet → List Char
  | none, [] => []
  | some _, [] => [replacement]
  | none, b :: rest =>
    match leadOf b.toNat with
    | .whole c => c :: decodeFrom none rest
    | .opens s => decodeFrom (some s) rest
    | .stray => replacement :: decodeFrom none rest
  | some s, b :: rest =>
    let bits := s.bits * 64 + b.toNat % 64
    if s.low ≤ b.toNat && b.toNat ≤ s.high then
      if s.missing ≤ 1 then Char.ofNat bits :: decodeFrom none rest
      else decodeFrom (some ⟨bits, s.missing - 1, 0x80, 0xBF⟩) rest
    else
      replacement :: match leadOf b.toNat with
        | .whole c => c :: decodeFrom none rest
        | .opens t => decodeFrom (some t) rest
        | .stray => replacement :: decodeFrom none rest

def decodeUtf8 (bytes : List Octet) : List Char := decodeFrom none bytes

def hexOctets (bytes : List Octet) : List Char := bytes.flatMap (fun b => hex 2 b.toNat)

theorem hex_length (width n : Nat) : (hex width n).length = width := by
  induction width generalizing n with
  | zero => rfl
  | succ k ih => simp [hex, ih]

end DelegationAudit.Text
