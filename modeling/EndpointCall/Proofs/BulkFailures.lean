import EndpointCall.Proofs.BulkTurns
import EndpointCall.Proofs.BulkAwait
import EndpointCall.Service.Scripted
/-! How a bulk worker meets a failed call, in every placement and style. -/
namespace EndpointCall

variable {α β σ : Type}

namespace Bulk

/-- What a failed call leaves of worker `i` and of the run, by the disposition of its failure. -/
def Disposition.Leaves (d : Disposition) (r r' : Run α β) (i : Nat) (b : List α) (n : UInt32)
    (err : Error) : Prop :=
  match d with
  | .retry => r'.phases[i]? = some (.holding b (saturatingSucc n)) ∧ r'.failure = r.failure ∧
      r'.retries = r.retries + 1 ∧ r'.skipped = r.skipped
  | .skip => r'.phases[i]? = some (if r.endpoint.style.takesInput then .ready else .finished) ∧
      r'.failure = r.failure ∧ r'.retries = r.retries ∧ r'.skipped = r.skipped + 1
  | .stopWorker => r'.phases[i]? = some .stopped ∧ r'.failure = r.failure ∧
      r'.retries = r.retries ∧ r'.skipped = r.skipped
  | .stopAll => r'.phases[i]? = some .stopped ∧ r'.failure = some err ∧
      r'.retries = r.retries ∧ r'.skipped = r.skipped

namespace Run

variable {L : Listeners σ α β} {r r' : Run α β} {i : Nat} {ctx : CallContext} {b : List α}
  {n : UInt32}

end Run

variable {L : Listeners σ α β} {svc : Service σ} {budget : Nat}

end Bulk

end EndpointCall
