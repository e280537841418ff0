namespace DelegationAudit.Text

/-- The white space of Unicode, together with the four ASCII separators 28 to 31. -/
def isBlank (c : Char) : Bool :=
  let n := c.toNat
  (9 ≤ n && n ≤ 13) || (28 ≤ n && n ≤ 32) || n == 0x85 || n == 0xA0 || n == 0x1680 ||
    (0x2000 ≤ n && n ≤ 0x200A) || n == 0x2028 || n == 0x2029 || n == 0x202F || n == 0x205F ||
    n == 0x3000

def dropEnd (p : Char → Bool) (s : List Char) : List Char := (s.reverse.dropWhile p).reverse

def trimBy (p : Char → Bool) (s : List Char) : List Char := dropEnd p (s.dropWhile p)

def trim (s : List Char) : List Char := trimBy isBlank s

/-- The pieces between separators: always one more than there are separators. -/
def fields (p : Char → Bool) : List Char → List (List Char)
  | [] => [[]]
  | c :: cs =>
    if p c then [] :: fields p cs
    else match fields p cs with
      | [] => [[c]]
      | f :: fs => (c :: f) :: fs

theorem fields_ne_nil (p : Char → Bool) (s : List Char) : fields p s ≠ [] := by
  cases s with
  | nil => simp [fields]
  | cons c cs =>
    unfold fields
    split
    · simp
    · split <;> simp

def words (s : List Char) : List (List Char) := (fields isBlank s).filter (fun w => !w.isEmpty)

def joinWith (sep : List Char) : List (List Char) → List Char
  | [] => []
  | [s] => s
  | s :: rest => s ++ sep ++ joinWith sep rest

def occursIn (needle : List Char) : List Char → Bool
  | [] => needle.isEmpty
  | c :: cs => needle.isPrefixOf (c :: cs) || occursIn needle cs

theorem occursIn_iff_infix (needle s : List Char) : occursIn needle s = true ↔ needle <:+: s := by
  induction s with
  | nil => simp [occursIn]
  | cons c cs ih => simp [occursIn, ih, List.infix_cons_iff]

def isAscii (s : List Char) : Bool := s.all (fun c => c.toNat < 128)

theorem isAscii_iff {s : List Char} : isAscii s = true ↔ ∀ c ∈ s, c.toNat < 128 := by simp [isAscii]

theorem isAscii_append (s t : List Char) : isAscii (s ++ t) = (isAscii s && isAscii t) := by
  rw [isAscii, List.all_append]
  rfl

/-- Lower case in the sense of domain names: the letters of ASCII only. -/
def asciiLower (s : List Char) : List Char := s.map Char.toLower

end DelegationAudit.Text
