import EndpointCall.Transport.Service
/-! Services answering from a script. -/
namespace EndpointCall

structure ScriptDocument where
  format : Option Format
  bytes : List UInt8
  deriving Repr, BEq

inductive ScriptReply where
  | none
  | single (doc : Option ScriptDocument)
  | multiple (docs : List ScriptDocument)
  | failure (e : Error)
  deriving Repr, BEq

def ScriptDocument.resolve (shape : ResponseShape) (d : ScriptDocument) : Document :=
  ⟨d.format.getD (shape.format?.getD .text), d.bytes⟩

def ScriptReply.resolve (shape : ResponseShape) : ScriptReply → Except Error Response
  | .none => .ok .none
  | .single d => .ok (.single (d.map (·.resolve shape)))
  | .multiple ds => .ok (.multiple (ds.map (·.resolve shape)))
  | .failure e => .error e

/-- A service answering with the replies of a script, in order. -/
def Service.scripted : Service (List ScriptReply) := fun _ shape => do
  match ← get with
  | [] => pure (.error (.transport "no scripted response"))
  | r :: rest =>
    set rest
    pure (r.resolve shape)

end EndpointCall
