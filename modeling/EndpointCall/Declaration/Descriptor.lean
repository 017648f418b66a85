import EndpointCall.Json.Writer
import EndpointCall.Format
import EndpointCall.Error
import EndpointCall.Text.Escaped
/-! Parameter and return descriptors, the entries of an endpoint declaration. -/
namespace EndpointCall

inductive ConstantsName where
  | endpointConstants
  | workUnit
  deriving Repr, BEq, DecidableEq, Inhabited

inductive ParamRole where
  | endpointState
  | input
  | session
  | constants (name : ConstantsName)
  deriving Repr, BEq, DecidableEq, Inhabited

namespace ParamRole

def name : ParamRole → String
  | .endpointState => "endpointState"
  | .input => "input"
  | .session => "session"
  | .constants .endpointConstants => "endpointConstants"
  | .constants .workUnit => "workUnit"

def parse (s : String) : Except Error ParamRole :=
  if s = "endpointState" then .ok .endpointState
  else if s = "input" then .ok .input
  else if s = "session" then .ok .session
  else if s = "endpointConstants" then .ok (.constants .endpointConstants)
  else if s = "workUnit" then .ok (.constants .workUnit)
  else .error (.configuration ("unknown parameter name: " ++ s))

end ParamRole

def DataType.parse (s : String) : Except Error DataType :=
  match DataType.ofName? s with
  | some d => .ok d
  | none => .error (.configuration ("unknown datatype: " ++ s))

def Json.describe : Json → String
  | .null => "null"
  | .bool b => "boolean `" ++ (if b then "true" else "false") ++ "`"
  | .num (.int i) => "integer `" ++ toString i ++ "`"
  | .num (.float f) => "floating point `" ++ Decimal.Style.json.format f ++ "`"
  | .str s => "string " ++ Text.debugQuote s
  | .arr _ => "sequence"
  | .obj _ => "map"

inductive FieldFault where
  | wrongType (found : Json) (expected : String)
  | missing (field : String)

def FieldFault.message : FieldFault → String
  | .wrongType found expected => "invalid type: " ++ found.describe ++ ", expected " ++ expected
  | .missing field => "missing field `" ++ field ++ "`"

/-- The fields of a descriptor object, before their names are checked. -/
structure DescriptorFields where
  name : Option String := none
  datatype : Option String := none
  multiple : Bool := false
  nullable : Bool := false

def DescriptorFields.put (d : DescriptorFields) : String × Json → Except FieldFault DescriptorFields
  | ("name", .null) => .ok { d with name := none }
  | ("name", .str s) => .ok { d with name := some s }
  | ("name", v) => .error (.wrongType v "a string")
  | ("datatype", .str s) => .ok { d with datatype := some s }
  | ("datatype", v) => .error (.wrongType v "a string")
  | ("multiple", .bool b) => .ok { d with multiple := b }
  | ("multiple", v) => .error (.wrongType v "a boolean")
  | ("nullable", .bool b) => .ok { d with nullable := b }
  | ("nullable", v) => .error (.wrongType v "a boolean")
  | _ => .ok d

def DescriptorFields.ofEntries (fs : List (String × Json)) :
    Except FieldFault (DescriptorFields × String) := do
  let d ← fs.foldlM DescriptorFields.put {}
  match d.datatype with
  | some t => pure (d, t)
  | none => throw (.missing "datatype")

def DescriptorFields.ofJson (what : String) (j : Json) : Except Error (DescriptorFields × String) :=
  match j with
  | .obj fs =>
    match DescriptorFields.ofEntries fs with
    | .ok r => .ok r
    | .error f =>
      .error (.configuration ("invalid " ++ what ++ " " ++ j.render ++ ": " ++ f.message))
  | _ => .error (.configuration (what ++ " must be object in endpoint declaration: " ++ j.render))

/-- A declared parameter. -/
structure ParamDescriptor where
  role : ParamRole
  dataType : DataType
  multiple : Bool
  nullable : Bool
  deriving Repr, BEq, DecidableEq

namespace ParamDescriptor

def ofJson (j : Json) : Except Error ParamDescriptor := do
  let (d, t) ← DescriptorFields.ofJson "parameter" j
  let some n := d.name
    | throw (.configuration ("parameter without name: " ++ j.render))
  let role ← ParamRole.parse n
  let dt ← DataType.parse t
  pure ⟨role, dt, d.multiple, d.nullable⟩

def name (p : ParamDescriptor) : String := p.role.name

def format (p : ParamDescriptor) : Format := p.dataType.format

end ParamDescriptor

structure ReturnDescriptor where
  dataType : DataType
  multiple : Bool
  nullable : Bool
  deriving Repr, BEq, DecidableEq

namespace ReturnDescriptor

def ofJson (j : Json) : Except Error ReturnDescriptor := do
  let (d, t) ← DescriptorFields.ofJson "return" j
  let dt ← DataType.parse t
  pure ⟨dt, d.multiple, d.nullable⟩

def format (r : ReturnDescriptor) : Format := r.dataType.format

end ReturnDescriptor
end EndpointCall
