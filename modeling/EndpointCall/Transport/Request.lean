import EndpointCall.Format
import EndpointCall.Session
import EndpointCall.Declaration.Basic
/-! Call requests: everything a transport needs for one call. -/
namespace EndpointCall

structure Document where
  format : Format
  bytes : List UInt8
  deriving Repr, BEq, DecidableEq, Inhabited

inductive FieldValue where
  | single (doc : Option Document)
  | multiple (docs : List Document)
  deriving Repr, BEq, DecidableEq

def FieldValue.documents : FieldValue → List Document
  | .single (some d) => [d]
  | .single none => []
  | .multiple ds => ds

structure CallField where
  name : String
  nullable : Bool
  value : FieldValue
  deriving Repr, BEq, DecidableEq

structure SessionBinding where
  name : String
  nullable : Bool
  session : Option SessionId
  deriving Repr, BEq, DecidableEq

/-- A call request. -/
structure Request where
  endpoint : String
  valuesKind : ValuesKind
  session : Option SessionBinding := none
  fields : List CallField := []
  deriving Repr, BEq

def Request.field? (r : Request) (name : String) : Option CallField :=
  r.fields.find? (·.name == name)

end EndpointCall
