import EndpointCall.Error
import EndpointCall.Text.Blank
/-! Client configuration with its defaults and its check. -/
namespace EndpointCall

structure BulkConfig where
  queueCapacity : Nat := 1000
  threadNamePrefix : String := "dataservices-bulk"
  deriving Repr, BEq, DecidableEq, Inhabited

/-- Settings of a client. -/
structure ClientConfig where
  baseUrl : String := "http://localhost:8000"
  timeoutMs : Nat := 30000
  bulk : BulkConfig := {}
  deriving Repr, BEq, DecidableEq, Inhabited

namespace ClientConfig

def validate (c : ClientConfig) : Except Error Unit :=
  if (Text.trim c.baseUrl).isEmpty then .error (.configuration "base_url must not be empty")
  else if c.timeoutMs = 0 then .error (.configuration "timeout_ms must be positive")
  else if c.bulk.queueCapacity = 0 then .error (.configuration "bulk.queue_capacity must be positive")
  else if c.bulk.threadNamePrefix.isEmpty then
    .error (.configuration "bulk.thread_name_prefix must not be empty")
  else .ok ()

def defaultText : String :=
  "# Data services client configuration\n#\n# Server base URL; endpoint paths are appended to it.\n" ++
  "base_url = \"http://localhost:8000\"\n\n# Per-call timeout in milliseconds (default: 30000)\n" ++
  "timeout_ms = 30000\n\n[bulk]\n" ++
  "# Accepted inputs waiting for a worker before accept() blocks (default: 1000)\n" ++
  "queue_capacity = 1000\n\n# Worker threads are named \"<prefix>-<n>\"\n" ++
  "thread_name_prefix = \"dataservices-bulk\"\n"

end ClientConfig
end EndpointCall
