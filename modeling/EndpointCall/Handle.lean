import EndpointCall.Json.Reader
import EndpointCall.Json.Writer
import EndpointCall.Error
import EndpointCall.Format
/-! Content handles: conversions between values and the bytes of one document. -/
namespace EndpointCall

/-- A conversion between values of `α` and document bytes. -/
structure Handle (α : Type) where
  supports : Format → Bool
  encode : α → Format → Except Error (List UInt8)
  decode : List UInt8 → Format → Except Error α
  description : String

namespace Handle

def text : Handle String where
  supports f := f == .json || f == .xml || f == .text
  encode s _ := .ok (Utf8.encode s)
  decode bs f := match Utf8.decode bs with
    | .ok s => .ok s
    | .error e => .error (.content (f.display ++ " content is not valid UTF-8: " ++ e.message))
  description := "StringHandle"

def bytes : Handle (List UInt8) where
  supports _ := true
  encode bs _ := .ok bs
  decode bs _ := .ok bs
  description := "BytesHandle"

def json : Handle Json where
  supports f := f == .json
  encode v _ := .ok (Utf8.encode v.render)
  decode bs _ := match Json.read bs with
    | .ok v => .ok v
    | .error e => .error (.content e.message)
  description := "JsonHandle \x7b type: \"serde_json::value::Value\" \x7d"

end Handle
end EndpointCall
