/-! Errors of endpoint calls; `Error.message` holds all wording. -/
namespace EndpointCall

/-- Why an endpoint call, a declaration or a bulk run failed. -/
inductive Error where
  | configuration (reason : String)
  | unsupported (reason : String)
  | content (reason : String)
  | transport (reason : String)
  | server (status : Nat) (reason : String)
  | invalidState (reason : String)
  | bulkAborted (cause : Error)
  deriving Repr, BEq, Inhabited

namespace Error

def message : Error → String
  | .configuration r => "invalid configuration: " ++ r
  | .unsupported r => "unsupported operation: " ++ r
  | .content r => "content error: " ++ r
  | .transport r => "transport error: " ++ r
  | .server s r => s!"server error {s}: " ++ r
  | .invalidState r => "invalid state: " ++ r
  | .bulkAborted c => "bulk call aborted: " ++ c.message

def isConfiguration : Error → Bool
  | .configuration _ | .unsupported _ => true
  | _ => false

def isRecoverable : Error → Bool
  | .transport _ | .server _ _ | .content _ => true
  | _ => false

end Error
end EndpointCall
