import DelegationAudit.Dns.Name.Reader
import DelegationAudit.Dns.Rdata.Fault

namespace DelegationAudit.Dns

open Text

inductive Token
  | word (s : List Char)
  | quoted (s : List Char)
  deriving DecidableEq

/-- Only the last one can be a fault: nothing is read behind it. -/
abbrev Tokens := List (Except DataFault Token)

def isGap (c : Char) : Bool := c == ' ' || c == '\t'

def isBreak (c : Char) : Bool := c == '\n' || c == '\r'

/-- What is under way, its characters last first. Escaped characters keep their backslash. -/
inductive Mode
  | bare (word : List Char)
  | escapeInBare (word : List Char)
  | quotes (text : List Char)
  | escapeInQuotes (text : List Char)
  | comment

/-- Between two characters: what is under way, and the number of open parentheses. -/
structure Lexer where
  mode : Mode
  depth : Nat

structure Step where
  tokens : Tokens
  next : Option Lexer

def wordOf (reversed : List Char) : Tokens :=
  if reversed.isEmpty then [] else [.ok (.word reversed.reverse)]

namespace Lexer

def start : Lexer := ⟨.bare [], 0⟩

def stop (e : DataFault) : Step := ⟨[.error e], none⟩

/-- Within parentheses the end of a line is a gap. -/
def lineEnd (depth : Nat) : Option Lexer := if depth == 0 then none else some ⟨.bare [], depth⟩

def stepBare (word : List Char) (depth : Nat) (c : Char) : Step :=
  if c == '\\' then ⟨[], some ⟨.escapeInBare word, depth⟩⟩
  else if c == '(' then ⟨wordOf word, some ⟨.bare [], depth + 1⟩⟩
  else if c == ')' then
    if depth == 0 then ⟨wordOf word ++ [.error .malformed], none⟩
    else ⟨wordOf word, some ⟨.bare [], depth - 1⟩⟩
  else if c == '"' then ⟨wordOf word, some ⟨.quotes [], depth⟩⟩
  else if c == ';' then ⟨wordOf word, some ⟨.comment, depth⟩⟩
  else if isGap c then ⟨wordOf word, some ⟨.bare [], depth⟩⟩
  else if isBreak c then ⟨wordOf word, lineEnd depth⟩
  else ⟨[], some ⟨.bare (c :: word), depth⟩⟩

def step (l : Lexer) (c : Char) : Step :=
  match l.mode with
  | .bare word => stepBare word l.depth c
  | .escapeInBare word =>
    if isBreak c then stop .endsEarly else ⟨[], some ⟨.bare (c :: '\\' :: word), l.depth⟩⟩
  | .quotes text =>
    if c == '"' then ⟨[.ok (.quoted text.reverse)], some ⟨.bare [], l.depth⟩⟩
    else if c == '\\' then ⟨[], some ⟨.escapeInQuotes text, l.depth⟩⟩
    else if c == '\n' then stop .breakInQuotes
    else ⟨[], some ⟨.quotes (c :: text), l.depth⟩⟩
  | .escapeInQuotes text => ⟨[], some ⟨.quotes (c :: '\\' :: text), l.depth⟩⟩
  | .comment => if isBreak c then ⟨[], lineEnd l.depth⟩ else ⟨[], some l⟩

def finish (l : Lexer) : Tokens :=
  let missing : Tokens := if l.depth == 0 then [] else [.error .openParenthesis]
  match l.mode with
  | .bare word => wordOf word ++ missing
  | .comment => missing
  | _ => [.error .endsEarly]

def run : Lexer → List Char → Tokens
  | l, [] => l.finish
  | l, c :: rest =>
    match l.step c with
    | ⟨found, none⟩ => found
    | ⟨found, some next⟩ => found ++ run next rest

end Lexer

def tokens (s : List Char) : Tokens := Lexer.run Lexer.start s

/-- A backslash takes the next character, or three digits as the number of one. -/
def unescapeWith {α : Type} (code : Nat → List α) (plain : Char → List α) :
    List Char → Except DataFault (List α)
  | [] => .ok []
  | '\\' :: a :: b :: c :: rest =>
    if a.isDigit then
      match escaped? a b c with
      | some n => (unescapeWith code plain rest).map (code n ++ ·)
      | none => .error .malformed
    else (unescapeWith code plain (b :: c :: rest)).map (plain a ++ ·)
  | '\\' :: a :: rest =>
    if a.isDigit then .error .endsEarly else (unescapeWith code plain rest).map (plain a ++ ·)
  | '\\' :: [] => .error .endsEarly
  | c :: rest => (unescapeWith code plain rest).map (plain c ++ ·)

def unescapeChars (s : List Char) : Except DataFault (List Char) :=
  unescapeWith (fun n => [Char.ofNat n]) (fun c => [c]) s

/-- Characters as UTF-8, numbers as single octets. -/
def unescapeOctets (s : List Char) : Except DataFault (List Octet) :=
  unescapeWith (fun n => [UInt8.ofNat n]) String.utf8EncodeChar s

namespace Tokens

def rawWord : Tokens → Except DataFault (List Char × Tokens)
  | .ok (.word s) :: rest => .ok (s, rest)
  | .error e :: _ => .error e
  | _ => .error .notWord

def word : Tokens → Except DataFault (List Char × Tokens)
  | .ok (.word s) :: rest => (unescapeChars s).map (·, rest)
  | .ok (.quoted s) :: _ =>
    match unescapeChars s with
    | .error e => .error e
    | .ok _ => .error .notWord
  | .error e :: _ => .error e
  | [] => .error .notWord

def atEnd : Tokens → Except DataFault Unit
  | [] => .ok ()
  | .error e :: _ => .error e
  | .ok (.word s) :: _ => .error (.moreText false s)
  | .ok (.quoted s) :: _ => .error (.moreText true s)

def all : Tokens → Except DataFault (List Token)
  | [] => .ok []
  | .error e :: _ => .error e
  | .ok t :: rest => (all rest).map (t :: ·)

end Tokens

end DelegationAudit.Dns
