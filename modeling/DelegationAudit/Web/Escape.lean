import DelegationAudit.Text.Octets

namespace DelegationAudit.Web

open Text

/-- What is no escape is UTF-8. -/
def escapedOctets : List Char → List Octet
  | '%' :: a :: b :: rest =>
    match hexValue? a, hexValue? b with
    | some x, some y => UInt8.ofNat (16 * x + y) :: escapedOctets rest
    | _, _ => 37 :: escapedOctets (a :: b :: rest)
  | c :: rest => String.utf8EncodeChar c ++ escapedOctets rest
  | [] => []

def unescape (s : List Char) : List Char := decodeUtf8 (escapedOctets s)

def escapeOctet (b : Octet) : List Char := '%' :: (hex 2 b.toNat).map Char.toUpper

theorem length_escapeOctet (b : Octet) : (escapeOctet b).length = 3 := by
  simp [escapeOctet, hex_length]

def escapeChar (isPlain : Char → Bool) (c : Char) : List Char :=
  if isPlain c then [c] else (String.utf8EncodeChar c).flatMap escapeOctet

theorem length_escapeOctets (bs : List Octet) : (bs.flatMap escapeOctet).length = 3 * bs.length := by
  induction bs with
  | nil => rfl
  | cons b rest ih =>
    rw [List.flatMap_cons, List.length_append, length_escapeOctet, ih, List.length_cons]
    omega

theorem length_escapeChar_le (isPlain : Char → Bool) (c : Char) :
    (escapeChar isPlain c).length ≤ 12 := by
  unfold escapeChar
  split
  · simp
  · have := c.utf8Size_le_four
    rw [length_escapeOctets, String.length_utf8EncodeChar]
    omega

def escape (isPlain : Char → Bool) (s : List Char) : List Char := s.flatMap (escapeChar isPlain)

theorem length_escape_le (isPlain : Char → Bool) (s : List Char) :
    (escape isPlain s).length ≤ 12 * s.length := by
  induction s with
  | nil => simp [escape]
  | cons c rest ih =>
    have hc := length_escapeChar_le isPlain c
    simp only [escape, List.flatMap_cons, List.length_append, List.length_cons] at ih ⊢
    omega

def isPlainInQuery (c : Char) : Bool :=
  32 < c.toNat && c.toNat < 127 && c != '"' && c != '#' && c != '<' && c != '>'

/-- Neither question marks nor backticks and braces. -/
def isPlainInPath (c : Char) : Bool :=
  isPlainInQuery c && c != '?' && c.toNat != 96 && c.toNat != 123 && c.toNat != 125

def isPlainInHost (c : Char) : Bool :=
  32 < c.toNat && c.toNat < 127 && c != '<' && c != '>' && c != '[' && c != ']' && c != '^'

/-- A blank in a parameter is one character as well. -/
def isPlainInForm (c : Char) : Bool :=
  c.isAlphanum || c == '_' || c == '.' || c == '-' || c == '~' || c == ' '

end DelegationAudit.Web
