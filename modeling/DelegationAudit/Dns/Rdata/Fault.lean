import DelegationAudit.Dns.Name
import DelegationAudit.Number.Integer

namespace DelegationAudit.Dns

inductive SpanFault
  | malformed
  | unknownUnit (text : List Char)
  | trailingInteger
  | tooLong
  deriving DecidableEq, Repr

inductive DataFault
  | malformed
  | endsEarly
  | breakInQuotes
  | openParenthesis
  | notWord
  | notInteger
  | longInteger (digits : Nat)
  | tooLarge (n bits : Nat)
  | span (e : SpanFault)
  | stringTooLong
  | moreText (inQuotes : Bool) (text : List Char)
  | name (e : NameError)
  | unknownType
  | oddDigits
  | notHex
  | wrongLength
  | brokenWire
  | forwardPointer
  | tooManyPointers
  | unknownLabelType
  | compressed
  | notSixteenOctets
  | noStrings
  deriving DecidableEq, Repr

def SpanFault.message : SpanFault → String
  | malformed => "DNS TTL value is not well-formed."
  | unknownUnit s => "unknown unit '" ++ String.ofList s ++ "'"
  | trailingInteger => "trailing integer"
  | tooLong => "TTL should be between 0 and 2**32 - 1 (inclusive)"

def DataFault.message : DataFault → String
  | malformed => "Text input is malformed."
  | endsEarly => "Text input ended unexpectedly."
  | breakInQuotes => "newline in quoted string"
  | openParenthesis => "unbalanced parentheses"
  | notWord => "expecting an identifier"
  | notInteger => "expecting an integer"
  | longInteger digits => (Number.IntegerError.tooLong digits).message []
  | tooLarge n bits =>
    Number.natString n ++ " is not an unsigned " ++ Number.natString bits ++ "-bit integer"
  | span e => e.message
  | stringTooLong => "string too long"
  | moreText inQuotes s =>
    "expected EOL or EOF, got " ++ (if inQuotes then "4" else "3") ++ " \"" ++ String.ofList s ++ "\""
  | name e => e.message
  | unknownType => "DNS resource record type is unknown."
  | oddDigits => "Odd-length string"
  | notHex => "Non-hexadecimal digit found"
  | wrongLength => "generic rdata hex data has wrong length"
  | brokenWire => "DNS message is malformed."
  | forwardPointer => "A DNS compression pointer points forward instead of backward."
  | tooManyPointers => "A DNS compression pointer chain was too long."
  | unknownLabelType => "The label type in DNS name wire format is unknown."
  | compressed => "compressed data in generic syntax form of known rdatatype"
  | notSixteenOctets => "IPv6 addresses are 16 bytes long"
  | noStrings => "the list of strings must not be empty"

end DelegationAudit.Dns
