import EndpointCall.Json.Value
import EndpointCall.Json.Writer
import EndpointCall.Json.Reader
import EndpointCall.Decimal.Shortest
import EndpointCall.Decimal.Style
import EndpointCall.Text.Utf8
import EndpointCall.Text.Blank
import EndpointCall.Text.Printable
import EndpointCall.Text.Escaped
import EndpointCall.Error
import EndpointCall.Format
import EndpointCall.Declaration.Descriptor
import EndpointCall.Declaration.Basic
import EndpointCall.Declaration.Compare
import EndpointCall.Session
import EndpointCall.Transport.Request
import EndpointCall.Transport.Response
import EndpointCall.Transport.Multipart
import EndpointCall.Handle
import EndpointCall.Call.Context
import EndpointCall.Transport.Service
import EndpointCall.Call.Caller
import EndpointCall.Config.Basic
import EndpointCall.Call.Endpoint
import EndpointCall.Service.Scripted
import EndpointCall.Service.Echo
import EndpointCall.Service.Countdown
import EndpointCall.Bulk.Basic
import EndpointCall.Bulk.Run
import EndpointCall.Bulk.Machine
import EndpointCall.Toml.Value
import EndpointCall.Toml.Fault
import EndpointCall.Toml.Cursor
import EndpointCall.Toml.Lexical
import EndpointCall.Toml.Scalar
import EndpointCall.Toml.Grammar
import EndpointCall.Toml.Document
import EndpointCall.Toml.Write
import EndpointCall.Config.Toml
import EndpointCall.Config.File
import EndpointCall.Client
import EndpointCall.Proofs.BulkSteps
import EndpointCall.Proofs.BulkPool
import EndpointCall.Proofs.BulkAwait
import EndpointCall.Proofs.CallState
import EndpointCall.Proofs.BulkInline
import EndpointCall.Proofs.DescriptorRead
import EndpointCall.Proofs.DeclarationValid
import EndpointCall.Proofs.Utf8Ascii
import EndpointCall.Proofs.FormDataRoundTrip
import EndpointCall.Proofs.BulkWorkers
import EndpointCall.Proofs.BulkLifecycle
import EndpointCall.Proofs.BulkAbort
import EndpointCall.Proofs.BulkQueue
import EndpointCall.Proofs.BulkTurns
import EndpointCall.Proofs.BulkFailures
import EndpointCall.Proofs.DeclarationCompare
import EndpointCall.Proofs.CallRequest
import EndpointCall.Proofs.CallStream
import EndpointCall.Proofs.BulkLoops
import EndpointCall.Proofs.CompareSwap
import EndpointCall.Proofs.BulkCallFaults
import EndpointCall.Proofs.BulkThreads
import EndpointCall.Proofs.MultipartScan
