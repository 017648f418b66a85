/-! TOML documents as values. -/
namespace EndpointCall.Toml

structure Span where
  start : Nat
  stop : Nat
  deriving Repr, BEq, Inhabited

structure Key where
  name : String
  span : Span
  deriving Repr, Inhabited

structure Date where
  year : Nat
  month : Nat
  day : Nat
  deriving Repr, BEq

structure Time where
  hour : Nat
  minute : Nat
  second : Nat
  nanos : Nat
  deriving Repr, BEq

inductive Offset where
  | utc
  | minutes (m : Int)
  deriving Repr, BEq

structure Datetime where
  date : Option Date
  time : Option Time
  offset : Option Offset
  deriving Repr, BEq

inductive Value where
  | string (s : String)
  | integer (i : Int)
  | float (f : Float)
  | boolean (b : Bool)
  | datetime (d : Datetime)
  | array (items : List (Value × Span))
  | inlineTable (entries : List (Key × Value × Option Span)) (dotted : Bool)
  deriving Inhabited

def Value.typeName : Value → String
  | .string _ => "string"
  | .integer _ => "integer"
  | .float _ => "float"
  | .boolean _ => "boolean"
  | .datetime _ => "datetime"
  | .array _ => "array"
  | .inlineTable _ _ => "inline table"

mutual
/-- An entry of a table. -/
inductive Item where
  | value (v : Value) (span : Span)
  | table (t : Table)
  | arrayOfTables (ts : List Table)
  deriving Inhabited

/-- A table: its entries in order, how it was made, and its header's span. -/
inductive Table where
  | mk (entries : List (Key × Item)) (implicit dotted : Bool) (span : Option Span)
  deriving Inhabited
end

namespace Table

def empty (implicit dotted : Bool) : Table := .mk [] implicit dotted none

def entries : Table → List (Key × Item)
  | .mk es _ _ _ => es

def implicit : Table → Bool
  | .mk _ i _ _ => i

def dotted : Table → Bool
  | .mk _ _ d _ => d

def span : Table → Option Span
  | .mk _ _ _ s => s

def withEntries (t : Table) (es : List (Key × Item)) : Table :=
  .mk es t.implicit t.dotted t.span

def get? (t : Table) (name : String) : Option (Key × Item) :=
  t.entries.find? (·.1.name == name)

def erase (t : Table) (name : String) : Table :=
  t.withEntries (t.entries.filter (·.1.name != name))

def set (t : Table) (k : Key) (it : Item) : Table :=
  if t.entries.any (·.1.name == k.name) then
    t.withEntries (t.entries.map fun e => if e.1.name == k.name then (e.1, it) else e)
  else t.withEntries (t.entries ++ [(k, it)])

end Table

end EndpointCall.Toml
