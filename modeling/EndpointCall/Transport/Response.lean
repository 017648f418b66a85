import EndpointCall.Transport.Request
import EndpointCall.Error
/-! Call responses and the shape a caller expects. -/
namespace EndpointCall

inductive ResponseShape where
  | none
  | single (nullable : Bool) (format : Format)
  | multiple (nullable : Bool) (format : Format)
  deriving Repr, BEq, DecidableEq

/-- The response of a call. -/
inductive Response where
  | none
  | single (doc : Option Document)
  | multiple (docs : List Document)
  deriving Repr, BEq, DecidableEq

def Response.conform : Response → ResponseShape → Except Error Response
  | _, .none => .ok .none
  | .none, .single nullable _ =>
    if nullable then .ok (.single Option.none)
    else .error (.content "no value for non-nullable single return")
  | .single v, .single nullable _ =>
    if v.isNone && !nullable then .error (.content "null value for non-nullable single return")
    else .ok (.single v)
  | .multiple _, .single _ _ => .error (.content "multiple values received for single return")
  | .none, .multiple nullable _ =>
    if nullable then .ok (.multiple [])
    else .error (.content "no values for non-nullable multiple return")
  | .single v, .multiple _ _ => .ok (.multiple v.toList)
  | .multiple ds, .multiple _ _ => .ok (.multiple ds)

def ResponseShape.format? : ResponseShape → Option Format
  | .none => Option.none
  | .single _ f | .multiple _ f => some f

end EndpointCall
