import EndpointCall.Config.Toml
/-! Configuration files on a file system that is a value. -/
namespace EndpointCall

/-- Directories that exist and files with their text. -/
structure FileSystem where
  dirs : List String := []
  files : List (String × String) := []
  deriving Repr

namespace FileSystem

def notFound : String := "No such file or directory (os error 2)"

def dirOf (p : String) : String := "/".intercalate (p.splitOn "/").dropLast

def fileExists (fs : FileSystem) (p : String) : Bool := fs.files.any (·.1 == p)

def read (fs : FileSystem) (p : String) : Except String String :=
  match fs.files.lookup p with
  | some t => .ok t
  | none => .error notFound

def write (fs : FileSystem) (p : String) (text : String) : Except String FileSystem :=
  let d := dirOf p
  if d.isEmpty || fs.dirs.contains d then
    .ok { fs with files := (p, text) :: fs.files.filter (·.1 != p) }
  else .error notFound

end FileSystem

namespace ClientConfig

/-- Reads, parses and checks a configuration file. -/
def load (fs : FileSystem) (path : String) : Except Error ClientConfig := do
  let text ← match fs.read path with
    | .ok t => pure t
    | .error e => throw (.configuration ("Failed to read config file '" ++ path ++ "': " ++ e))
  let c ← match ofToml text with
    | .ok c => pure c
    | .error e =>
      throw (.configuration ("Failed to parse config file '" ++ path ++ "': " ++ e.render text))
  c.validate
  pure c

def storeDefaultIfMissing (fs : FileSystem) (path : String) : Except Error FileSystem :=
  if fs.fileExists path then .ok fs
  else match fs.write path defaultText with
    | .ok fs' => .ok fs'
    | .error e =>
      .error (.configuration ("Failed to write default config file '" ++ path ++ "': " ++ e))

def store (c : ClientConfig) (fs : FileSystem) (path : String) : Except Error FileSystem :=
  match c.toToml with
  | .error e => .error (.configuration ("Failed to serialize config: " ++ e))
  | .ok text => match fs.write path text with
    | .ok fs' => .ok fs'
    | .error e => .error (.configuration ("Failed to write config file '" ++ path ++ "': " ++ e))

def debugText (c : ClientConfig) : String :=
  "ClientConfig \x7b base_url: " ++ Text.debugQuote c.baseUrl ++ ", timeout_ms: " ++
    toString c.timeoutMs ++ ", bulk: BulkConfig \x7b queue_capacity: " ++
    toString c.bulk.queueCapacity ++ ", thread_name_prefix: " ++
    Text.debugQuote c.bulk.threadNamePrefix ++ " \x7d \x7d"

end ClientConfig
end EndpointCall
