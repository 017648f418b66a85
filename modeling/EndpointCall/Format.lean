import EndpointCall.Text.Blank
/-! Content formats, server datatypes, and media types read by their essence. -/
namespace EndpointCall

/-- The format of a document on the wire. -/
inductive Format where
  | json
  | xml
  | text
  | binary
  | unknown
  deriving Repr, BEq, DecidableEq, Inhabited

namespace Format

def mime : Format → String
  | .json => "application/json"
  | .xml => "application/xml"
  | .text => "text/plain"
  | .binary | .unknown => "application/octet-stream"

def display : Format → String
  | .json => "JSON"
  | .xml => "XML"
  | .text => "TEXT"
  | .binary => "BINARY"
  | .unknown => "UNKNOWN"

def name : Format → String
  | .json => "json"
  | .xml => "xml"
  | .text => "text"
  | .binary => "binary"
  | .unknown => "unknown"

def ofName? : String → Option Format
  | "json" => some .json
  | "xml" => some .xml
  | "text" => some .text
  | "binary" => some .binary
  | "unknown" => some .unknown
  | _ => none

def ofMime (mime : String) : Format :=
  let essence := Text.asciiLower (Text.trim ((Text.splitOn mime ';').headD ""))
  if essence = "application/json" then .json
  else if essence = "application/xml" || essence = "text/xml" then .xml
  else if essence = "text/plain" then .text
  else if essence = "application/octet-stream" then .binary
  else if essence.endsWith "+json" then .json
  else if essence.endsWith "+xml" then .xml
  else if essence.startsWith "text/" then .text
  else .unknown

end Format

/-- A server datatype of a parameter or return value. -/
inductive DataType where
  | boolean | date | dateTime | dayTimeDuration | decimal | double | float | int | long
  | string | time | unsignedInt | unsignedLong
  | array | object | jsonDocument | xmlDocument | textDocument | binaryDocument
  | session
  deriving Repr, BEq, DecidableEq, Inhabited

namespace DataType

def all : List DataType :=
  [.boolean, .date, .dateTime, .dayTimeDuration, .decimal, .double, .float, .int, .long, .string,
   .time, .unsignedInt, .unsignedLong, .array, .object, .jsonDocument, .xmlDocument,
   .textDocument, .binaryDocument, .session]

def name : DataType → String
  | .boolean => "boolean"
  | .date => "date"
  | .dateTime => "dateTime"
  | .dayTimeDuration => "dayTimeDuration"
  | .decimal => "decimal"
  | .double => "double"
  | .float => "float"
  | .int => "int"
  | .long => "long"
  | .string => "string"
  | .time => "time"
  | .unsignedInt => "unsignedInt"
  | .unsignedLong => "unsignedLong"
  | .array => "array"
  | .object => "object"
  | .jsonDocument => "jsonDocument"
  | .xmlDocument => "xmlDocument"
  | .textDocument => "textDocument"
  | .binaryDocument => "binaryDocument"
  | .session => "session"

def ofName? (s : String) : Option DataType :=
  match all.find? (fun d => d.name == s) with
  | some d => some d
  | none => if Text.eqIgnoreAsciiCase s "session" then some .session else none

def format : DataType → Format
  | .array | .object | .jsonDocument => .json
  | .xmlDocument => .xml
  | .binaryDocument => .binary
  | .session => .unknown
  | _ => .text

def isNode : DataType → Bool
  | .array | .object | .jsonDocument | .xmlDocument | .textDocument | .binaryDocument => true
  | _ => false

end DataType
end EndpointCall
