import EndpointCall.Text.Printable
/-! Debug quoting of text. -/
namespace EndpointCall.Text

def hexLower (n : Nat) : String :=
  String.ofList (Nat.toDigits 16 n)

def needsUnicodeEscape (c : Char) : Bool :=
  let n := c.toNat
  n < 0x20 || n = 0x7F || (0x80 ≤ n && inEscapedRanges n)

def debugEscape (c : Char) : String :=
  if c = '"' then "\\\""
  else if c = '\\' then "\\\\"
  else if c.toNat = 0 then "\\0"
  else if c = '\t' then "\\t"
  else if c = '\n' then "\\n"
  else if c = '\r' then "\\r"
  else if needsUnicodeEscape c then "\\u\x7b" ++ hexLower c.toNat ++ "\x7d"
  else String.singleton c

/-- A text in debug quotes. -/
def debugQuote (s : String) : String :=
  "\"" ++ String.join (s.toList.map debugEscape) ++ "\""

end EndpointCall.Text
