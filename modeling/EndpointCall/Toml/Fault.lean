import EndpointCall.Toml.Value
import EndpointCall.Text.Utf8
/-! Why a TOML text does not read. -/
namespace EndpointCall.Toml

inductive Expected where
  | char (c : Char)
  | literal (s : String)
  | description (s : String)
  deriving Repr, BEq

def Expected.text : Expected → String
  | .char '\n' => "newline"
  | .char '`' => "'`'"
  | .char c =>
    if c.toNat < 32 || c.toNat = 127 then
      "`" ++ String.ofList (match c with
        | '\t' => ['\\', 't']
        | '\r' => ['\\', 'r']
        | '\x00' => ['\\', '0']
        | _ => ['\\', 'u', '\x7b'] ++ (Nat.toDigits 16 c.toNat) ++ ['\x7d']) ++ "`"
    else "`" ++ String.singleton c ++ "`"
  | .literal s => "`" ++ s ++ "`"
  | .description s => s

inductive Context where
  | label (s : String)
  | expected (e : Expected)
  deriving Repr, BEq

inductive Clash where
  | duplicateKey (key : String) (table : Option (List String))
  | extendNonTable (path : List String) (actual : String)
  | outOfRange
  | recursionLimit
  deriving Repr, BEq

def Clash.message : Clash → String
  | .duplicateKey k (some []) => "duplicate key `" ++ k ++ "` in document root"
  | .duplicateKey k (some t) => "duplicate key `" ++ k ++ "` in table `" ++ ".".intercalate t ++ "`"
  | .duplicateKey k none => "duplicate key `" ++ k ++ "`"
  | .extendNonTable p a =>
    "dotted key `" ++ ".".intercalate p ++ "` attempted to extend non-table type (" ++ a ++ ")"
  | .outOfRange => "value is out of range"
  | .recursionLimit => "recursion limit exceeded"

/-- A failure to read: where, whether final, its contexts and its cause. -/
structure Fault where
  offset : Nat
  final : Bool := false
  context : List Context := []
  cause : Option String := none
  deriving Repr, BEq

namespace Fault

def add (f : Fault) (c : Context) : Fault := { f with context := f.context ++ [c] }

def cut (f : Fault) : Fault := { f with final := true }

def message (f : Fault) : String :=
  let label := f.context.findSome? fun
    | .label s => some s
    | _ => none
  let expected := f.context.filterMap fun
    | .expected e => some e.text
    | _ => none
  let parts := (label.map ("invalid " ++ ·)).toList ++
    (if expected.isEmpty then [] else ["expected " ++ ", ".intercalate expected]) ++ f.cause.toList
  "\n".intercalate parts

end Fault

def lineColumn (src : List UInt8) (index : Nat) : Nat × Nat :=
  if src.isEmpty then (0, index)
  else
    let safe := min index (src.length - 1)
    let extra := index - safe
    let before := src.take safe
    let lineStart := match (before.reverse.findIdx? (· == 10)) with
      | some k => safe - k
      | none => 0
    let line := (src.take lineStart).count 10
    let upto := (src.drop lineStart).take (safe + 1 - lineStart)
    let column := match Utf8.decode upto with
      | .ok s => s.length - 1
      | .error _ => safe - lineStart
    (line, column + extra)

structure Error where
  message : String
  span : Option Span
  deriving Repr

/-- The text of an error against its source, with a caret line under the span. -/
def Error.render (e : Error) (src : String) : String :=
  match e.span with
  | none => e.message ++ "\n"
  | some sp =>
    let bytes := src.toUTF8.toList
    let (line, column) := lineColumn bytes sp.start
    let lineNum := line + 1
    let gutter := (toString lineNum).length
    let content := (src.splitOn "\n").getD line ""
    let width := min (sp.stop - sp.start) (content.utf8ByteSize - column)
    let pad (n : Nat) : String := String.ofList (List.replicate n ' ')
    "TOML parse error at line " ++ toString lineNum ++ ", column " ++ toString (column + 1) ++ "\n" ++
    pad (gutter + 1) ++ "|\n" ++
    toString lineNum ++ " | " ++ content ++ "\n" ++
    pad (gutter + 1) ++ "|" ++ pad (column + 1) ++ "^" ++ String.ofList (List.replicate (width - 1) '^') ++
    "\n" ++ e.message ++ "\n"

def charWidth (b : UInt8) : Nat :=
  if b < 0xC0 then 1 else if b < 0xE0 then 2 else if b < 0xF0 then 3 else 4

def charStart (bytes : List UInt8) : Nat → Nat
  | 0 => 0
  | i + 1 =>
    match bytes[i + 1]? with
    | some b => if 0x80 ≤ b && b < 0xC0 then charStart bytes i else i + 1
    | none => i + 1

def Fault.toError (f : Fault) (bytes : List UInt8) : Error :=
  let start := charStart bytes f.offset
  match bytes.drop start with
  | [] => ⟨f.message, some ⟨f.offset, f.offset⟩⟩
  | b :: _ => ⟨f.message, some ⟨start, min (start + charWidth b) bytes.length⟩⟩

end EndpointCall.Toml
