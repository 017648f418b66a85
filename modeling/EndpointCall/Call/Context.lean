import EndpointCall.Session
import EndpointCall.Text.Utf8
/-! Call contexts: the state an endpoint threads through a stream of calls. -/
namespace EndpointCall

/-- The per-stream state of an endpoint. -/
structure CallContext where
  endpointState : Option (List UInt8) := none
  session : Option SessionId := none
  constants : Option (List UInt8) := none
  deriving Repr, BEq, DecidableEq, Inhabited

def CallContext.endpointStateText (c : CallContext) : Option String :=
  c.endpointState.bind fun bs => match Utf8.decode bs with
    | .ok s => some s
    | .error _ => none

end EndpointCall
