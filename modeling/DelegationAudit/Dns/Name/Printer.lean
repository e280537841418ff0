import DelegationAudit.Dns.Name
import DelegationAudit.Number.Integer

namespace DelegationAudit.Dns

open Text

def isSpecial (c : Char) : Bool := "\"().;\\@$".toList.contains c

def octetText (b : Octet) : List Char :=
  let c := Char.ofNat b.toNat
  if isSpecial c then ['\\', c]
  else if 0x20 < b.toNat && b.toNat < 0x7F then [c]
  else '\\' :: Number.padded 3 b.toNat

def labelText (l : Label) : List Char := l.flatMap octetText

namespace Name

def chars (n : Name) : List Char :=
  if n.labels.isEmpty then ['.'] else n.labels.flatMap (fun l => labelText l ++ ['.'])

def text (n : Name) : String := String.ofList n.chars

end Name

end DelegationAudit.Dns
