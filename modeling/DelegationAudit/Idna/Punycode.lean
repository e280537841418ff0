namespace DelegationAudit.Idna.Punycode

def digitChar (d : Nat) : Char := Char.ofNat (if d < 26 then 97 + d else 22 + d)

def digitValue? (c : Char) : Option Nat :=
  if 'a' ≤ c && c ≤ 'z' then some (c.toNat - 97)
  else if 'A' ≤ c && c ≤ 'Z' then some (c.toNat - 65)
  else if '0' ≤ c && c ≤ '9' then some (c.toNat - 22)
  else none

/-- The threshold of the digit of weight index `k`, which grows by 36 from digit to digit. -/
def threshold (k bias : Nat) : Nat := if k ≤ bias then 1 else min (k - bias) 26

theorem threshold_pos (k bias : Nat) : 1 ≤ threshold k bias := by unfold threshold; split <;> omega

theorem threshold_le (k bias : Nat) : threshold k bias ≤ 26 := by unfold threshold; split <;> omega

def shrink (delta k : Nat) : Nat :=
  if 455 < delta then shrink (delta / 35) (k + 36) else k + 36 * delta / (delta + 38)
termination_by delta
decreasing_by omega

def adapt (delta count : Nat) (first : Bool) : Nat :=
  let d := if first then delta / 700 else delta / 2
  shrink (d + d / count) 0

def digits (bias k n : Nat) : List Char :=
  let t := threshold k bias
  if n < t then [digitChar n]
  else digitChar (t + (n - t) % (36 - t)) :: digits bias (k + 36) ((n - t) / (36 - t))
termination_by n
decreasing_by
  have h1 := threshold_pos k bias
  calc (n - threshold k bias) / (36 - threshold k bias) ≤ n - threshold k bias := Nat.div_le_self _ _
    _ < n := by omega

structure Writer where
  text : List Char
  delta : Nat
  bias : Nat
  done : Nat

/-- Passes one character of the label while the code point `code` is being placed. -/
def writeAt (basic code : Nat) (w : Writer) (n : Nat) : Writer :=
  if n < code then { w with delta := w.delta + 1 }
  else if n == code then
    ⟨w.text ++ digits w.bias 36 w.delta, 0, adapt w.delta (w.done + 1) (w.done == basic), w.done + 1⟩
  else w

def writeAll (label : List Nat) (basic : Nat) : List Nat → Nat → Writer → Writer
  | [], _, w => w
  | code :: rest, next, w =>
    let start := { w with delta := w.delta + (code - next) * (w.done + 1) }
    let stop := label.foldl (writeAt basic code) start
    writeAll label basic rest (code + 1) { stop with delta := stop.delta + 1 }

def insertCode (n : Nat) : List Nat → List Nat
  | [] => [n]
  | m :: rest => if n < m then n :: m :: rest else if n == m then m :: rest else m :: insertCode n rest

def encode (label : List Nat) : List Char :=
  let basic := label.filter (· < 128)
  let codes := (label.filter (128 ≤ ·)).foldr insertCode []
  let front := if basic.isEmpty then [] else basic.map Char.ofNat ++ ['-']
  front ++ (writeAll label basic.length codes 128 ⟨[], 0, 72, basic.length⟩).text

/-- One distance, with what follows it. -/
def readDelta (bias : Nat) : Nat → Nat → Nat → List Char → Option (Nat × List Char)
  | _, _, _, [] => none
  | k, weight, sum, c :: rest =>
    match digitValue? c with
    | none => none
    | some d =>
      let t := threshold k bias
      if d < t then some (sum + d * weight, rest)
      else readDelta bias (k + 36) (weight * (36 - t)) (sum + d * weight) rest

theorem readDelta_lt (bias k weight sum : Nat) (s : List Char) (r : Nat × List Char)
    (h : readDelta bias k weight sum s = some r) : r.2.length < s.length := by
  induction s generalizing k weight sum with
  | nil => simp [readDelta] at h
  | cons c rest ih =>
    unfold readDelta at h
    split at h
    · simp at h
    · dsimp only at h
      split at h
      · cases h; simp
      · have := ih _ _ _ h
        simp only [List.length_cons]
        omega

def insertAt (i n : Nat) (label : List Nat) : List Nat := label.take i ++ n :: label.drop i

/-- `index` is where the last character went in, one past it. -/
def readAll (label : List Nat) (code index bias : Nat) (first : Bool) (s : List Char) :
    Option (List Nat) :=
  if s.isEmpty then some label
  else
    match h : readDelta bias 36 1 0 s with
    | none => none
    | some (delta, rest) =>
      let at_ := index + delta
      let code := code + at_ / (label.length + 1)
      let i := at_ % (label.length + 1)
      if 0x10FFFF < code then none
      else readAll (insertAt i code label) code (i + 1) (adapt delta (label.length + 1) first) false rest
termination_by s.length
decreasing_by exact readDelta_lt _ _ _ _ _ _ h

/-- The last hyphen ends the ASCII characters. -/
def decode (s : List Char) : Option (List Nat) :=
  let tail := (s.reverse.takeWhile (· != '-')).reverse
  let front := s.take (s.length - tail.length - 1)
  readAll (front.map Char.toNat) 128 0 72 true tail

end DelegationAudit.Idna.Punycode
