import DelegationAudit.Json.Basic
import DelegationAudit.Number.Integer
import DelegationAudit.Text.Blank
import DelegationAudit.Text.Quoted

namespace DelegationAudit.Json

open Text

def escapeUnit (n : Nat) : List Char := '\\' :: 'u' :: hex 4 n

/-- Characters past the sixteenth bit become two units. -/
def escapeChar (c : Char) : List Char :=
  if c == '"' then ['\\', '"']
  else if c == '\\' then ['\\', '\\']
  else if c == '\n' then ['\\', 'n']
  else if c == '\r' then ['\\', 'r']
  else if c == '\t' then ['\\', 't']
  else if c.toNat == 8 then ['\\', 'b']
  else if c.toNat == 12 then ['\\', 'f']
  else if 32 ≤ c.toNat && c.toNat < 127 then [c]
  else if c.toNat < 0x10000 then escapeUnit c.toNat
  else
    let n := c.toNat - 0x10000
    escapeUnit (0xD800 + n / 1024) ++ escapeUnit (0xDC00 + n % 1024)

def stringText (s : String) : List Char := '"' :: (s.toList.flatMap escapeChar ++ ['"'])

def realText (s : String) : List Char :=
  if s == "nan" then "NaN".toList
  else if s == "inf" then "Infinity".toList
  else if s == "-inf" then "-Infinity".toList
  else s.toList

def scalarText : Json → Option (List Char)
  | null => some "null".toList
  | bool true => some "true".toList
  | bool false => some "false".toList
  | int n => some (Number.intText n)
  | real s => some (realText s)
  | str s => some (stringText s)
  | _ => none

mutual

def compactChars : Json → List Char
  | arr items => '[' :: (joinWith [','] (compactItems items) ++ [']'])
  | obj fields => '\x7b' :: (joinWith [','] (compactFields fields) ++ ['\x7d'])
  | j => (scalarText j).getD []

def compactItems : List Json → List (List Char)
  | [] => []
  | j :: rest => compactChars j :: compactItems rest

def compactFields : List (String × Json) → List (List Char)
  | [] => []
  | (k, v) :: rest => (stringText k ++ ':' :: compactChars v) :: compactFields rest

end

def newLine (depth : Nat) : List Char := '\n' :: List.replicate (2 * depth) ' '

/-- Brackets around items on lines of their own; nothing stands between those of no items. -/
def block (opening closing : Char) (depth : Nat) (items : List (List Char)) : List Char :=
  if items.isEmpty then [opening, closing]
  else
    opening :: (newLine (depth + 1) ++ joinWith (',' :: newLine (depth + 1)) items ++ newLine depth ++
      [closing])

mutual

/-- Each level is indented by two blanks. -/
def indentedChars (depth : Nat) : Json → List Char
  | arr items => block '[' ']' depth (indentedItems (depth + 1) items)
  | obj fields => block '\x7b' '\x7d' depth (indentedFields (depth + 1) fields)
  | j => (scalarText j).getD []

def indentedItems (depth : Nat) : List Json → List (List Char)
  | [] => []
  | j :: rest => indentedChars depth j :: indentedItems depth rest

def indentedFields (depth : Nat) : List (String × Json) → List (List Char)
  | [] => []
  | (k, v) :: rest =>
    (stringText k ++ ':' :: ' ' :: indentedChars depth v) :: indentedFields depth rest

end

def compact (j : Json) : String := String.ofList (compactChars j)

def indented (j : Json) : String := String.ofList (indentedChars 0 j)

end DelegationAudit.Json
