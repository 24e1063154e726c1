/-
  ObjectStream.Settings.File

  Settings from YAML texts and files: a record with a field for each setting, all
  of them optional. Settings are loaded by laying the file that the environment
  names over the defaults, and the environment over both.
-/
import ObjectStream.Settings
import ObjectStream.Text.Utf8
import ObjectStream.Yaml.Record

namespace ObjectStream.Settings

open Yaml (Problem RecordType Value)

/-! ## Texts -/

/-- The settings that a text gives. -/
structure Given where
  /-- The text may say that there is none. -/
  endpoint : Option (Option String) := none
  accessKey : Option String := none
  secretKey : Option String := none
  connectTimeout : Option Nat := none
  socketTimeout : Option Nat := none
  bufferSize : Option Nat := none

namespace Given

/-- Whether the setting of a field is given. -/
def has (g : Given) : String → Bool
  | "endpoint" => g.endpoint.isSome
  | "access_key" => g.accessKey.isSome
  | "secret_key" => g.secretKey.isSome
  | "connect_timeout_ms" => g.connectTimeout.isSome
  | "socket_timeout_ms" => g.socketTimeout.isSome
  | "buffer_size" => g.bufferSize.isSome
  | _ => false

/-- With the setting of a field as its value says. -/
def assign (g : Given) (name : String) (v : Value) : Except Problem Given :=
  match name with
  | "endpoint" => v.text?.map fun x => { g with endpoint := some x }
  | "access_key" => v.text.map fun x => { g with accessKey := some x }
  | "secret_key" => v.text.map fun x => { g with secretKey := some x }
  | "connect_timeout_ms" => (v.word64 "u64").map fun x => { g with connectTimeout := some x }
  | "socket_timeout_ms" => (v.word64 "u64").map fun x => { g with socketTimeout := some x }
  | "buffer_size" => (v.word64 "usize").map fun x => { g with bufferSize := some x }
  | _ => .ok g

/-- The record of settings. -/
def recordType : RecordType Given where
  name := "Config"
  fields := ["endpoint", "access_key", "secret_key", "connect_timeout_ms", "socket_timeout_ms",
    "buffer_size"]
  isGiven := has
  assign := assign

/-- The settings with those that are given. -/
def applyTo (g : Given) (s : Settings) : Settings where
  endpoint := g.endpoint.getD s.endpoint
  accessKey := g.accessKey.getD s.accessKey
  secretKey := g.secretKey.getD s.secretKey
  connectTimeout := g.connectTimeout.getD s.connectTimeout
  socketTimeout := g.socketTimeout.getD s.socketTimeout
  bufferSize := g.bufferSize.getD s.bufferSize

end Given

/-- The settings of a YAML text, which are checked. -/
def ofYaml (text : String) : Except Error Settings := do
  match (Yaml.Document.ofText text).record Given.recordType {} with
  | .error problem => .error (.invalidArgument ("invalid configuration: " ++ problem.message))
  | .ok given =>
    let s := given.applyTo {}
    s.check
    return s

/-! ## Files -/

/-- The files there are: the bytes of the one at a path, or why it cannot be read. -/
abbrev Files := String → Except String Bytes

/-- The settings of the file at a path. -/
def ofFile (contents : Files) (path : String) : Except Error Settings :=
  let unreadable (reason : String) : Except Error Settings :=
    .error (.invalidArgument ("cannot read " ++ path ++ ": " ++ reason))
  match contents path with
  | .error reason => unreadable reason
  | .ok bytes =>
    match Utf8.decode? bytes with
    | none => unreadable "stream did not contain valid UTF-8"
    | some text => ofYaml text

/-- The settings that the environment asks for: those of the file that it names, and over them its own.
Both layers are checked. -/
def load (contents : Files) (env : Environment) : Except Error Settings := do
  let s ← match env fileVariable with
    | some path => ofFile contents path
    | none => .ok {}
  let (result, s) := s.withEnvironment env
  result
  s.check
  return s

end ObjectStream.Settings
