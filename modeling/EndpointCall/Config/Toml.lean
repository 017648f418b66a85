import EndpointCall.Config.Basic
import EndpointCall.Toml.Document
import EndpointCall.Toml.Write
import EndpointCall.Text.Escaped
import EndpointCall.Decimal.Style
/-! Client configurations read from and written to TOML. -/
namespace EndpointCall

open Toml

def Toml.Value.unexpected : Toml.Value → String
  | .string s => "string " ++ Text.debugQuote s
  | .integer i => "integer `" ++ toString i ++ "`"
  | .float f => "floating point `" ++ Decimal.Style.message.format f ++ "`"
  | .boolean b => "boolean `" ++ (if b then "true" else "false") ++ "`"
  | .datetime _ => "map"
  | .array _ => "sequence"
  | .inlineTable _ _ => "map"

/-- A value met while reading a configuration, with its type name and span. -/
structure Found where
  scalar : Option Toml.Value
  name : String
  span : Option Span

namespace Found

def ofValue (v : Toml.Value) (sp : Option Span) : Found := ⟨some v, v.unexpected, sp⟩

def ofItem (k : Key) : Item → Found
  | .value v sp => ofValue v (some sp)
  | .table t => ⟨none, "map", t.span.orElse fun _ => some k.span⟩
  | .arrayOfTables ts =>
    let whole := match ts.head?.bind (·.span), ts.getLast?.bind (·.span) with
      | some first, some last => some (Span.mk first.start last.stop)
      | first, _ => first
    ⟨none, "sequence", whole.orElse fun _ => some k.span⟩

def mismatch (f : Found) (expected : String) : Toml.Error :=
  ⟨"invalid type: " ++ f.name ++ ", expected " ++ expected, f.span⟩

def string (f : Found) : Except Toml.Error String :=
  match f.scalar with
  | some (.string s) => .ok s
  | _ => .error (f.mismatch "a string")

def unsigned (f : Found) (what : String) : Except Toml.Error Nat :=
  match f.scalar with
  | some (.integer i) =>
    if 0 ≤ i then .ok i.toNat
    else .error ⟨"invalid value: integer `" ++ toString i ++ "`, expected " ++ what, f.span⟩
  | _ => .error (f.mismatch what)

end Found

namespace BulkConfig

def ofFields (fs : List (String × Found)) : Except Toml.Error BulkConfig :=
  fs.foldlM (fun (b : BulkConfig) (name, f) => match name with
    | "queue_capacity" => do pure { b with queueCapacity := ← f.unsigned "usize" }
    | "thread_name_prefix" => do pure { b with threadNamePrefix := ← f.string }
    | _ => pure b) {}

def ofElements (es : List Found) : Except Toml.Error BulkConfig := do
  let cap ← match es[0]? with
    | some f => f.unsigned "usize"
    | none => pure 1000
  let pre ← match es[1]? with
    | some f => f.string
    | none => pure "dataservices-bulk"
  pure ⟨cap, pre⟩

def ofItem (k : Key) : Item → Except Toml.Error BulkConfig
  | .table t => ofFields (t.entries.map fun (k', it) => (k'.name, Found.ofItem k' it))
  | .value (.datetime _) _ => ofFields []
  | .value (.inlineTable es _) _ =>
    ofFields (es.map fun (k', v, sp) => (k'.name, Found.ofValue v (sp.orElse fun _ => some k'.span)))
  | .value (.array items) _ => ofElements (items.map fun (v, sp) => Found.ofValue v (some sp))
  | .arrayOfTables ts => ofElements (ts.map fun t => ⟨none, "map", t.span⟩)
  | it => .error ((Found.ofItem k it).mismatch "struct BulkConfig")

end BulkConfig

namespace ClientConfig

def ofTable (t : Table) : Except Toml.Error ClientConfig :=
  t.entries.foldlM (fun (c : ClientConfig) (k, it) => match k.name with
    | "base_url" => do pure { c with baseUrl := ← (Found.ofItem k it).string }
    | "timeout_ms" => do pure { c with timeoutMs := ← (Found.ofItem k it).unsigned "u64" }
    | "bulk" => do pure { c with bulk := ← BulkConfig.ofItem k it }
    | _ => pure c) {}

/-- A configuration from TOML text. -/
def ofToml (text : String) : Except Toml.Error ClientConfig := do
  ofTable (← Toml.parse text)

def toToml (c : ClientConfig) : Except String String :=
  if Nat.pow 2 63 ≤ c.timeoutMs || Nat.pow 2 63 ≤ c.bulk.queueCapacity then
    .error "out-of-range value for u64 type"
  else .ok ("base_url = " ++ Toml.quote c.baseUrl ++ "\ntimeout_ms = " ++ toString c.timeoutMs ++
    "\n\n[bulk]\nqueue_capacity = " ++ toString c.bulk.queueCapacity ++
    "\nthread_name_prefix = " ++ Toml.quote c.bulk.threadNamePrefix ++ "\n")

end ClientConfig
end EndpointCall
