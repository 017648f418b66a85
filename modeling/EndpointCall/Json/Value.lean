/-! JSON values, with objects keyed in ascending order. -/
namespace EndpointCall

inductive Number where
  | int (i : Int)
  | float (f : Float)

/-- A JSON value. Object entries are kept sorted by key, without repeated keys. -/
inductive Json where
  | null
  | bool (b : Bool)
  | num (n : Number)
  | str (s : String)
  | arr (items : List Json)
  | obj (fields : List (String × Json))

namespace Json

def insertField (k : String) (v : Json) : List (String × Json) → List (String × Json)
  | [] => [(k, v)]
  | (k', v') :: rest =>
    if k < k' then (k, v) :: (k', v') :: rest
    else if k = k' then (k, v) :: rest
    else (k', v') :: insertField k v rest

def ofFields (fs : List (String × Json)) : Json :=
  .obj (fs.foldl (fun acc kv => insertField kv.1 kv.2 acc) [])

def get? : Json → String → Option Json
  | .obj fs, k => fs.lookup k
  | _, _ => none

def hasKey (j : Json) (k : String) : Bool := (j.get? k).isSome

def getD (j : Json) (k : String) : Json := (j.get? k).getD .null

def ofNat (n : Nat) : Json := .num (.int n)

def ofInt (i : Int) : Json := .num (.int i)

def ofOption {α : Type} (f : α → Json) : Option α → Json
  | some a => f a
  | none => .null

def asNat? : Json → Option Nat
  | .num (.int i) => if 0 ≤ i then some i.toNat else none
  | _ => none

def asString? : Json → Option String
  | .str s => some s
  | _ => none

def asBool? : Json → Option Bool
  | .bool b => some b
  | _ => none

def asArray? : Json → Option (List Json)
  | .arr xs => some xs
  | _ => none

def isObject : Json → Bool
  | .obj _ => true
  | _ => false

end Json
end EndpointCall
