import EndpointCall.Declaration.Descriptor
import EndpointCall.Json.Reader
/-! Endpoint declarations, checked once against the caller's handles. -/
namespace EndpointCall

inductive ValuesKind where
  | none
  | singleNode
  | multipleNodes
  deriving Repr, BEq, DecidableEq

def ValuesKind.ofCount : Nat → ValuesKind
  | 0 => .none
  | 1 => .singleNode
  | _ => .multipleNodes

def defaultBatchSize : Nat := 100

/-- A checked endpoint declaration. -/
structure Declaration where
  path : String
  endpointState : Option ParamDescriptor
  input : Option ParamDescriptor
  session : Option ParamDescriptor
  constants : Option ParamDescriptor
  returns : Option ReturnDescriptor
  batchSize : Nat
  nodeArgCount : Nat
  deriving Repr, BEq

structure ParamSlots where
  endpointState : Option ParamDescriptor := none
  input : Option ParamDescriptor := none
  session : Option ParamDescriptor := none
  constants : Option ParamDescriptor := none
  nodeArgCount : Nat := 0

def duplicateParam (p : ParamDescriptor) : Error :=
  .configuration (p.name ++ " parameter declared more than once")

def ParamSlots.add (hasInput : Bool) (s : ParamSlots) (p : ParamDescriptor) :
    Except Error ParamSlots :=
  match p.role with
  | .endpointState =>
    if p.multiple then .error (.configuration "endpointState parameter cannot be multiple")
    else if !p.nullable then .error (.configuration "endpointState parameter must be nullable")
    else if s.endpointState.isSome then .error (duplicateParam p)
    else .ok { s with endpointState := some p, nodeArgCount := s.nodeArgCount + 1 }
  | .input =>
    if !p.multiple then .error (.configuration "input parameter must be multiple")
    else if !p.nullable then .error (.configuration "input parameter must be nullable")
    else if s.input.isSome then .error (duplicateParam p)
    else if !hasInput then .error (.configuration "no input handle provided for input parameter")
    else .ok { s with input := some p, nodeArgCount := s.nodeArgCount + 2 }
  | .session =>
    if p.dataType ≠ .session then
      .error (.configuration "session parameter must have session data type")
    else if p.multiple then .error (.configuration "session parameter cannot be multiple")
    else if s.session.isSome then .error (duplicateParam p)
    else .ok { s with session := some p }
  | .constants _ =>
    match s.constants with
    | some existing =>
      .error (.configuration ("can only declare one of " ++ p.name ++ " and " ++ existing.name))
    | none =>
      if p.multiple then .error (.configuration (p.name ++ " parameter cannot be multiple"))
      else .ok { s with constants := some p, nodeArgCount := s.nodeArgCount + 1 }

def batchSizeOf (bulk : Option Json) : Except Error Nat :=
  match bulk with
  | none => .ok defaultBatchSize
  | some b@(.obj _) =>
    match b.get? "inputBatchSize" with
    | none => .ok defaultBatchSize
    | some size =>
      match size.asNat? with
      | some n => if n > 0 then .ok n
        else .error (.configuration ("inputBatchSize must be a positive integer: " ++ size.render))
      | none => .error (.configuration ("inputBatchSize must be a positive integer: " ++ size.render))
  | some b => .error (.configuration ("$bulk must be object in endpoint declaration: " ++ b.render))

def stateMatchesReturn (path : String) :
    Option ParamDescriptor → Option ReturnDescriptor → Except Error Unit
  | some _, none =>
    .error (.configuration ("endpointState parameter requires return in endpoint: " ++ path))
  | some st, some r =>
    if r.format ≠ st.format then
      .error (.configuration ("endpointState format must match return format in endpoint: " ++ path))
    else .ok ()
  | none, _ => .ok ()

def pathOf (j : Json) : Except Error String :=
  match j.get? "endpoint" with
  | some (.str p) =>
    if p.isEmpty then .error (.configuration ("no endpoint in endpoint declaration: " ++ j.render))
    else .ok p
  | _ => .error (.configuration ("no endpoint in endpoint declaration: " ++ j.render))

def slotsOf (j : Json) (hasInput : Bool) : Except Error ParamSlots :=
  match j.get? "params" with
  | none => .ok {}
  | some (.arr ps) =>
    ps.foldlM (fun s pj => ParamDescriptor.ofJson pj >>= s.add hasInput) ({} : ParamSlots)
  | some _ => .error (.configuration ("params must be array in endpoint declaration: " ++ j.render))

def returnsOf (j : Json) (hasOutput hasState : Bool) : Except Error (Option ReturnDescriptor) :=
  match j.get? "return" with
  | some rj =>
    match ReturnDescriptor.ofJson rj with
    | .error e => .error e
    | .ok r =>
      if !r.nullable then .error (.configuration "return must be nullable")
      else if !hasOutput && !hasState then
        .error (.configuration "no output handle provided for return values")
      else .ok (some r)
  | none =>
    if hasOutput then .error (.configuration "no return values declared but output handle provided")
    else .ok none

namespace Declaration

/-- Checks a declaration against the presence of an input and an output handle. -/
def parse (j : Json) (hasInput hasOutput : Bool) : Except Error Declaration := do
  unless j.isObject do
    throw (.configuration ("endpoint declaration must be object: " ++ j.render))
  let path ← pathOf j
  let slots ← slotsOf j hasInput
  if slots.input.isNone && hasInput then
    throw (.configuration "no input parameter declared but input handle provided")
  let returns ← returnsOf j hasOutput slots.endpointState.isSome
  stateMatchesReturn path slots.endpointState returns
  let batch ← batchSizeOf (j.get? "$bulk")
  pure ⟨path, slots.endpointState, slots.input, slots.session, slots.constants, returns, batch,
    slots.nodeArgCount⟩

def ofText (text : String) (hasInput hasOutput : Bool) : Except Error Declaration :=
  match Json.readText text with
  | .ok j => parse j hasInput hasOutput
  | .error e => .error (.configuration ("endpoint declaration is not JSON: " ++ e.message))

def params (d : Declaration) : List ParamDescriptor :=
  [d.endpointState, d.session, d.constants, d.input].filterMap id

def inputFormat (d : Declaration) : Option Format := d.input.map (·.format)

def outputFormat (d : Declaration) : Option Format := d.returns.map (·.format)

def valuesKind (d : Declaration) : ValuesKind := ValuesKind.ofCount d.nodeArgCount

end Declaration
end EndpointCall
