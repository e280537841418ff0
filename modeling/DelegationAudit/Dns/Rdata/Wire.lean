import DelegationAudit.Dns.Rdata
import DelegationAudit.Dns.Rdata.Fault

namespace DelegationAudit.Dns

open Text

def numberOf (octets : List Octet) : Nat := Net.fromDigits 256 (octets.map UInt8.toNat)

/-- How far the octets have been read, and whether a name among them went on behind a pointer. -/
structure Cursor where
  data : List Octet
  position : Nat
  jumped : Bool

structure Walk where
  labels : List Label
  reached : Nat
  jumps : Nat

def maxJumps : Nat := 16

def further (p q : Nat) : Nat := if p < q then q else p

/-- The labels from `position` on. Each pointer leads to a place before `bound`, which is the start of
the name or where the pointer before it led. -/
def walk (data : List Octet) (bound reached jumps position : Nat) : Except DataFault Walk :=
  match h : data.drop position with
  | [] => .error .brokenWire
  | b :: rest =>
    let n := b.toNat
    if n == 0 then .ok ⟨[], further reached (position + 1), jumps⟩
    else if n < 64 then
      let next := position + 1 + n
      if rest.length < n then .error .brokenWire
      else (walk data bound (further reached next) jumps next).map fun w =>
        { w with labels := rest.take n :: w.labels }
    else if n < 192 then .error .unknownLabelType
    else
      match rest with
      | [] => .error .brokenWire
      | low :: _ =>
        let target := n % 64 * 256 + low.toNat
        if target < bound then
          if jumps == maxJumps then .error .tooManyPointers
          else walk data target (further reached (position + 2)) (jumps + 1) target
        else .error .forwardPointer
termination_by (bound, data.length - position)
decreasing_by
  · have hp : position < data.length := by
      have := congrArg List.length h
      simp only [List.length_drop, List.length_cons] at this
      omega
    exact Prod.Lex.right _ (by omega)
  · exact Prod.Lex.left _ _ (by assumption)

namespace Cursor

def start (data : List Octet) : Cursor := ⟨data, 0, false⟩

def octets (n : Nat) (c : Cursor) : Except DataFault (List Octet × Cursor) :=
  let rest := c.data.drop c.position
  if rest.length < n then .error .brokenWire
  else .ok (rest.take n, { c with position := c.position + n })

def number (n : Nat) (c : Cursor) : Except DataFault (Nat × Cursor) :=
  (c.octets n).map fun r => (numberOf r.1, r.2)

def name (c : Cursor) : Except DataFault (Name × Cursor) :=
  match walk c.data c.position c.position 0 c.position with
  | .error e => .error e
  | .ok w =>
    match Name.ofLabels w.labels with
    | .ok n => .ok (n, ⟨c.data, w.reached, c.jumped || 0 < w.jumps⟩)
    | .error e => .error (.name e)

def finish (c : Cursor) : Except DataFault Unit :=
  if c.position != c.data.length then .error .brokenWire
  else if c.jumped then .error .compressed
  else .ok ()

end Cursor

def takeStrings (s : List Octet) : Except DataFault (List (List Octet)) :=
  match s with
  | [] => .ok []
  | b :: rest =>
    if rest.length < b.toNat then .error .brokenWire
    else (takeStrings (rest.drop b.toNat)).map (rest.take b.toNat :: ·)
termination_by s.length
decreasing_by
  simp only [List.length_drop, List.length_cons]
  omega

namespace Rdata

def ofName (make : Name → Rdata) (s : List Octet) : Except DataFault Rdata := do
  let (name, c) ← (Cursor.start s).name
  c.finish
  return make name

def ofExchange (s : List Octet) : Except DataFault Rdata := do
  let (preference, c) ← (Cursor.start s).number 2
  let (exchange, c) ← c.name
  c.finish
  return .mx preference exchange

def ofAuthority (s : List Octet) : Except DataFault Rdata := do
  let (primary, c) ← (Cursor.start s).name
  let (contact, c) ← c.name
  let (serial, c) ← c.number 4
  let (refresh, c) ← c.number 4
  let (retry, c) ← c.number 4
  let (expire, c) ← c.number 4
  let (minimum, c) ← c.number 4
  c.finish
  return .soa ⟨primary, contact, serial, refresh, retry, expire, minimum⟩

def ofStrings (s : List Octet) : Except DataFault Rdata :=
  match takeStrings s with
  | .error e => .error e
  | .ok [] => .error .noStrings
  | .ok (first :: rest) => .ok (.txt (first :: rest))

def ofWire (type : String) (s : List Octet) : Except DataFault Rdata :=
  match type with
  | "A" => if s.length == 4 then .ok (.a (Net.IPv4.ofNat (numberOf s))) else .error .malformed
  | "AAAA" =>
    if s.length == 16 then .ok (.aaaa (BitVec.ofNat 128 (numberOf s))) else .error .notSixteenOctets
  | "NS" => ofName .ns s
  | "CNAME" => ofName .cname s
  | "PTR" => ofName .ptr s
  | "MX" => ofExchange s
  | "SOA" => ofAuthority s
  | "TXT" => ofStrings s
  | _ => .error .unknownType

end Rdata

end DelegationAudit.Dns
