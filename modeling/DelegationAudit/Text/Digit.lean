import DelegationAudit.Text.Packed

namespace DelegationAudit.Text

def digitTable : RangeSet := RangeSet.ofLines [
  "hQJjYBFAhtGJkGJmGJscJjWJjWJjWJjWJjWJjWJjWJjWJjWJjAJjWJiGJoWJiGJ2PIhjOJhGJpMJkAKlFJGJlWJiWJkG",
  "JGJhgWADFGJ-WILILIiZAKIBAzWIBIBI_0NJ1GJhGJmGJWJiWJsWJ04WJhsGJhsWD3MJpGIvJILJkAJhcJkQJoWJqWJj",
  "WJrWJjGJjGJtGJjGJ3WJnWJiGJzlWJiWJkGJ7jUhRiqAJtGJhyWJh9GKi3FJ"]

/-- The zeros of the decimal digit blocks; each block holds ten digits in order. -/
def zeroTable : Array Nat :=
  ((unpack [
  "hQhxQkQmQtGkAkAkAkAkAkAkAkAkAjKkAiQpAiQh6QhQpWkKlQQmAjAkQQhiuQ1QhQmQhAjAtA05AhsQikQ5WkKiGkap",
  "ArAkAsAjQjQtQjQ4AoAiQzmAjAkQ7jeKKKKiqKtQhzAk1A"]).foldl
    (fun (st : Array Nat × Nat) gap => (st.1.push (st.2 + gap), st.2 + gap)) (#[], 0)).1

def isDigit (c : Char) : Bool :=
  if c.toNat < 128 then c.isDigit else digitTable.mem c.toNat

def decimalValue? (c : Char) : Option Nat :=
  if c.toNat < 128 then
    if c.isDigit then some (c.toNat - 48) else none
  else (zeroTable.find? (fun z => z ≤ c.toNat && c.toNat < z + 10)).map (c.toNat - ·)

end DelegationAudit.Text
