/-! Writing TOML strings. -/
namespace EndpointCall.Toml

inductive Delimiter where
  | basic
  | literal
  | multiBasic
  | multiLiteral
  deriving Repr, BEq

/-- What decides how a string is written. -/
structure Shape where
  apostrophes : Nat
  quotes : Nat
  backslash : Bool
  controls : Bool
  newline : Bool

def isBareControl (c : Char) : Bool := (c.toNat ≤ 0x1F && c != '\t' && c != '\n') || c.toNat = 0x7F

namespace Shape

def empty : Shape := ⟨0, 0, false, false, false⟩

def step (st : Shape × Nat × Nat) (c : Char) : Shape × Nat × Nat :=
  let (sh, apostrophes, quotes) := st
  let apostrophes := if c = '\'' then apostrophes + 1 else 0
  let quotes := if c = '"' then quotes + 1 else 0
  (⟨max sh.apostrophes apostrophes, max sh.quotes quotes, sh.backslash || c = '\\',
    sh.controls || isBareControl c, sh.newline || c = '\n'⟩, apostrophes, quotes)

def of (s : String) : Shape := (s.toList.foldl step (empty, 0, 0)).1

def delimiter (sh : Shape) : Delimiter :=
  if !sh.controls && !sh.backslash && sh.quotes = 0 && !sh.newline then .basic
  else if !sh.controls && sh.apostrophes = 0 && !sh.newline then .literal
  else if !sh.controls && !sh.backslash && sh.quotes ≤ 2 then .multiBasic
  else if !sh.controls && sh.apostrophes ≤ 2 then .multiLiteral
  else if sh.newline then .multiBasic
  else .basic

end Shape

def hex4 (n : Nat) : String :=
  let digits := Nat.toDigits 16 n
  String.ofList ((List.replicate (4 - digits.length) '0' ++ digits).map Char.toUpper)

def escapeIn (multiLine : Bool) (c : Char) : String :=
  match c with
  | '\x08' => "\\b"
  | '\t' => "\\t"
  | '\n' => if multiLine then "\n" else "\\n"
  | '\x0c' => "\\f"
  | '\r' => "\\r"
  | '"' => "\\\""
  | '\\' => "\\\\"
  | c => if c.toNat ≤ 0x1F || c.toNat = 0x7F then "\\u" ++ hex4 c.toNat else String.singleton c

def basicBodyLines (cs : List Char) : String :=
  (cs.foldl (fun (acc, run) c =>
    if c = '"' then
      if run + 1 = 3 then (acc ++ "\\\"", 0) else (acc ++ "\"", run + 1)
    else (acc ++ escapeIn true c, 0)) ("", 0)).1

def quote (s : String) : String :=
  let sh := Shape.of s
  let lead := if sh.newline then "\n" else ""
  match sh.delimiter with
  | .basic => "\"" ++ String.join (s.toList.map (escapeIn false)) ++ "\""
  | .literal => "'" ++ s ++ "'"
  | .multiBasic => "\"\"\"" ++ lead ++ basicBodyLines s.toList ++ "\"\"\""
  | .multiLiteral => "'''" ++ lead ++ s ++ "'''"

def isBareKey (s : String) : Bool :=
  !s.isEmpty && s.all fun c => c.isAlphanum || c = '-' || c = '_'

/-- A key as TOML text: bare when it can be, else the first quoting that holds it. -/
def quoteKey (s : String) : String :=
  let sh := Shape.of s
  if isBareKey s then s
  else
    let basic := "\"" ++ String.join (s.toList.map (escapeIn false)) ++ "\""
    if !sh.controls && !sh.backslash && sh.quotes = 0 && !sh.newline then basic
    else if !sh.controls && sh.apostrophes = 0 && !sh.newline then "'" ++ s ++ "'"
    else basic

end EndpointCall.Toml
