import EndpointCall.Call.Context
import EndpointCall.Transport.Service
import EndpointCall.Handle
/-! Single calls: build the request, send it, conform the answer and decode it. -/
namespace EndpointCall

/-- A checked declaration with the handles for its values. -/
structure Caller (α β : Type) where
  decl : Declaration
  input : Option (Handle α)
  output : Option (Handle β)

abbrev CallM (σ : Type) := ExceptT Error (StateT CallContext (StateM σ))

namespace Caller

variable {α β σ : Type}

def new (j : Json) (input : Option (Handle α)) (output : Option (Handle β)) :
    Except Error (Caller α β) := do
  let decl ← Declaration.parse j input.isSome output.isSome
  if let (some h, some f) := (input, decl.inputFormat) then
    if !h.supports f then
      throw (.configuration ("input handle cannot represent " ++ f.display ++
        " content for endpoint: " ++ decl.path))
  if let (some h, some f) := (output, decl.outputFormat) then
    if !h.supports f then
      throw (.configuration ("output handle cannot represent " ++ f.display ++
        " content for endpoint: " ++ decl.path))
  pure ⟨decl, input, output⟩

def path (c : Caller α β) : String := c.decl.path

def stateField (c : Caller α β) (ctx : CallContext) : Except Error (List CallField) :=
  match c.decl.endpointState, ctx.endpointState with
  | some p, some s => .ok [⟨p.name, p.nullable, .single (some ⟨p.format, s⟩)⟩]
  | none, some _ =>
    .error (.configuration ("endpointState parameter not supported by endpoint: " ++ c.path))
  | _, none => .ok []

def constantsField (c : Caller α β) (ctx : CallContext) : Except Error (List CallField) :=
  match c.decl.constants, ctx.constants with
  | some p, some k => .ok [⟨p.name, p.nullable, .single (some ⟨p.format, k⟩)⟩]
  | some p, none =>
    if p.nullable then .ok []
    else .error (.configuration (p.name ++ " parameter is required by endpoint: " ++ c.path))
  | none, some _ =>
    .error (.configuration ("endpointConstants parameter not supported by endpoint: " ++ c.path))
  | none, none => .ok []

def inputField (c : Caller α β) (input : Option (List α)) : Except Error (List CallField) :=
  match c.decl.input, input with
  | some p, some values =>
    match c.input with
    | none => .error (.configuration "no input handle provided for input parameter")
    | some h => do
      let docs ← values.mapM fun v => do
        let bs ← h.encode v p.format
        pure (⟨p.format, bs⟩ : Document)
      pure [⟨p.name, p.nullable, .multiple docs⟩]
  | none, some values =>
    if values.isEmpty then .ok []
    else .error (.configuration ("input parameter not supported by endpoint: " ++ c.path))
  | _, none => .ok []

def sessionBinding (c : Caller α β) (ctx : CallContext) : Except Error (Option SessionBinding) :=
  match c.decl.session, ctx.session with
  | some p, s =>
    if s.isNone && !p.nullable then
      .error (.configuration ("session parameter is required by endpoint: " ++ c.path))
    else .ok (some ⟨p.name, p.nullable, s⟩)
  | none, some _ =>
    .error (.configuration ("session parameter not supported by endpoint: " ++ c.path))
  | none, none => .ok none

/-- The request for a context and an input batch: state, constants, input, then the session. -/
def makeRequest (c : Caller α β) (ctx : CallContext) (input : Option (List α)) :
    Except Error Request := do
  let st ← c.stateField ctx
  let k ← c.constantsField ctx
  let i ← c.inputField input
  let s ← c.sessionBinding ctx
  pure { endpoint := c.path, valuesKind := c.decl.valuesKind, session := s, fields := st ++ k ++ i }

def singleShape (c : Caller α β) : Except Error ResponseShape :=
  match c.decl.returns with
  | some r => if r.multiple then .error (.unsupported ("multiple return from endpoint: " ++ c.path))
    else .ok (.single r.nullable r.format)
  | none => .error (.unsupported ("no return from endpoint: " ++ c.path))

def multipleShape (c : Caller α β) : Except Error ResponseShape :=
  match c.decl.returns with
  | some r => if r.multiple then .ok (.multiple r.nullable r.format)
    else .error (.unsupported ("single return from endpoint: " ++ c.path))
  | none => .error (.unsupported ("no return from endpoint: " ++ c.path))

def outputHandle (c : Caller α β) : Except Error (Handle β) :=
  match c.output with
  | some h => .ok h
  | none => .error (.unsupported ("no output handle for return values of endpoint: " ++ c.path))

def send (svc : Service σ) (req : Request) (shape : ResponseShape) :
    StateM σ (Except Error Response) := do
  let r ← svc req shape
  pure (r >>= fun resp => resp.conform shape)

def documents : Response → List Document
  | .multiple ds => ds
  | .single d => d.toList
  | .none => []

def splitState (c : Caller α β) (docs : List Document) : Option (List UInt8) × List Document :=
  match c.decl.endpointState, docs with
  | some _, d :: rest => (if d.bytes.isEmpty then none else some d.bytes, rest)
  | _, _ => (none, docs)

def withState (c : Caller α β) (ctx : CallContext) (state : Option (List UInt8)) : CallContext :=
  if c.decl.endpointState.isSome then { ctx with endpointState := state } else ctx

def responseSingle (c : Caller α β) (svc : Service σ) (req : Request) :
    StateM σ (Except Error (Option β)) :=
  match c.singleShape, c.outputHandle with
  | .error e, _ => pure (.error e)
  | .ok _, .error e => pure (.error e)
  | .ok shape, .ok h => do
    let r ← send svc req shape
    pure <| r >>= fun resp => match resp with
      | .single (some d) => (h.decode d.bytes (shape.format?.getD .unknown)).map some
      | _ => .ok none

def sendOn (svc : Service σ) (req : Request) (shape : ResponseShape) : CallM σ Response :=
  ExceptT.mk (StateT.lift (send svc req shape))

def responseNone (c : Caller α β) (svc : Service σ) (req : Request) : CallM σ Unit := do
  if c.decl.returns.isSome then throw (.unsupported ("return from endpoint ignored: " ++ c.path))
  let _ ← sendOn svc req .none

def responseWithState (c : Caller α β) (svc : Service σ) (req : Request) : CallM σ Bool := do
  let shape ← c.singleShape
  let resp ← sendOn svc req shape
  let state := match resp with
    | .single (some d) => if d.bytes.isEmpty then none else some d.bytes
    | _ => none
  modify (c.withState · state)
  pure state.isSome

def responseMultiple (c : Caller α β) (svc : Service σ) (req : Request) : CallM σ (List β) := do
  let shape ← c.multipleShape
  let h ← c.outputHandle
  let resp ← sendOn svc req shape
  let (state, docs) := c.splitState (documents resp)
  let outs ← (docs.mapM fun d => h.decode d.bytes (shape.format?.getD .unknown) :
    Except Error (List β))
  modify (c.withState · state)
  pure outs

structure OutputStream (β : Type) where
  documents : List Document
  handle : Handle β
  format : Format

def OutputStream.items (s : OutputStream β) : List (Except Error β) :=
  s.documents.map fun d => s.handle.decode d.bytes s.format

/-- A multiple-valued call whose outputs are handed out as a stream. -/
def responseStream (c : Caller α β) (svc : Service σ) (req : Request) :
    CallM σ (OutputStream β) := do
  let shape ← c.multipleShape
  let h ← c.outputHandle
  let resp ← sendOn svc req shape
  let (state, docs) := c.splitState (documents resp)
  modify (c.withState · state)
  pure ⟨docs, h, shape.format?.getD .unknown⟩

end Caller
end EndpointCall
