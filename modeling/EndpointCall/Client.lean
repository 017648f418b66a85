import EndpointCall.Config.File
import EndpointCall.Transport.Service
/-! Clients: a service with the configuration every caller made from it shares. -/
namespace EndpointCall

/-- A service and a configuration. -/
structure Client (σ : Type) where
  service : Service σ
  config : ClientConfig

namespace Client

variable {σ : Type}

def new (svc : Service σ) : Client σ := ⟨svc, {}⟩

def connect (svc : Service σ) (c : ClientConfig) : Except Error (Client σ) := do
  c.validate
  pure ⟨svc, c⟩

def connectWithFile (svc : Service σ) (fs : FileSystem) (path : String) :
    Except Error (Client σ) := do
  connect svc (← ClientConfig.load fs path)

def debugText (c : Client σ) : String :=
  "DataServicesClient \x7b config: " ++ c.config.debugText ++ ", .. \x7d"

end Client
end EndpointCall
