import OsfmEdm.Common.Uuid

/-!
System events an agent collects (`crates/osfm-edm-common/src/events.rs`).
-/

namespace OsfmEdm

open JsonText

inductive FileOperation where
  | read
  | write
  | create
  | delete
  | rename
deriving DecidableEq

inductive NetworkProtocol where
  | tcp
  | udp
deriving DecidableEq

inductive RegistryOperation where
  | create
  | modify
  | delete
deriving DecidableEq

inductive SystemEvent where
  | processStarted (pid ppid : UInt32) (path cmdline : String) (user : Option String)
      (timestamp : Int64)
  | processExited (pid : UInt32) (exitCode : Int32) (timestamp : Int64)
  | fileAccessed (pid : UInt32) (path : String) (operation : FileOperation) (timestamp : Int64)
  | networkConnected (pid : UInt32) (src dst : String) (protocol : NetworkProtocol)
      (timestamp : Int64)
  | registryChanged (pid : UInt32) (key : String) (operation : RegistryOperation)
      (timestamp : Int64)
deriving DecidableEq

namespace FileOperation

def name : FileOperation → String
  | .read => "read"
  | .write => "write"
  | .create => "create"
  | .delete => "delete"
  | .rename => "rename"

def ofName : String → Option FileOperation
  | "read" => some .read
  | "write" => some .write
  | "create" => some .create
  | "delete" => some .delete
  | "rename" => some .rename
  | _ => none

def codec : Codec FileOperation :=
  Codec.variants name ofName fun operation => by cases operation <;> rfl

end FileOperation

namespace NetworkProtocol

def name : NetworkProtocol → String
  | .tcp => "tcp"
  | .udp => "udp"

def ofName : String → Option NetworkProtocol
  | "tcp" => some .tcp
  | "udp" => some .udp
  | _ => none

def codec : Codec NetworkProtocol :=
  Codec.variants name ofName fun protocol => by cases protocol <;> rfl

end NetworkProtocol

namespace RegistryOperation

def name : RegistryOperation → String
  | .create => "create"
  | .modify => "modify"
  | .delete => "delete"

def ofName : String → Option RegistryOperation
  | "create" => some .create
  | "modify" => some .modify
  | "delete" => some .delete
  | _ => none

def codec : Codec RegistryOperation :=
  Codec.variants name ofName fun operation => by cases operation <;> rfl

end RegistryOperation

namespace SystemEvent

def tag : SystemEvent → String
  | .processStarted .. => "process_started"
  | .processExited .. => "process_exited"
  | .fileAccessed .. => "file_accessed"
  | .networkConnected .. => "network_connected"
  | .registryChanged .. => "registry_changed"

/-- The fields of a variant, in order. -/
def fields : String → List String
  | "process_started" => ["pid", "ppid", "path", "cmdline", "user", "timestamp"]
  | "process_exited" => ["pid", "exit_code", "timestamp"]
  | "file_accessed" => ["pid", "path", "operation", "timestamp"]
  | "network_connected" => ["pid", "src", "dst", "protocol", "timestamp"]
  | "registry_changed" => ["pid", "key", "operation", "timestamp"]
  | _ => []

def members : SystemEvent → List (String × Json)
  | .processStarted pid ppid path cmdline user timestamp =>
      [("pid", Codec.uint32.encode pid), ("ppid", Codec.uint32.encode ppid), ("path", .string path),
        ("cmdline", .string cmdline), ("user", encodeOptional .string user),
        ("timestamp", Codec.int64.encode timestamp)]
  | .processExited pid exitCode timestamp =>
      [("pid", Codec.uint32.encode pid), ("exit_code", Codec.int32.encode exitCode),
        ("timestamp", Codec.int64.encode timestamp)]
  | .fileAccessed pid path operation timestamp =>
      [("pid", Codec.uint32.encode pid), ("path", .string path),
        ("operation", FileOperation.codec.encode operation),
        ("timestamp", Codec.int64.encode timestamp)]
  | .networkConnected pid src dst protocol timestamp =>
      [("pid", Codec.uint32.encode pid), ("src", .string src), ("dst", .string dst),
        ("protocol", NetworkProtocol.codec.encode protocol),
        ("timestamp", Codec.int64.encode timestamp)]
  | .registryChanged pid key operation timestamp =>
      [("pid", Codec.uint32.encode pid), ("key", .string key),
        ("operation", RegistryOperation.codec.encode operation),
        ("timestamp", Codec.int64.encode timestamp)]

def ofMembers (members : List (String × Json)) : String → Option SystemEvent
  | "process_started" => do
      let pid ← requiredMember members "pid" Codec.uint32.decode
      let ppid ← requiredMember members "ppid" Codec.uint32.decode
      let path ← requiredMember members "path" Codec.text.decode
      let cmdline ← requiredMember members "cmdline" Codec.text.decode
      let user ← optionalMember members "user" Codec.text.decode
      let timestamp ← requiredMember members "timestamp" Codec.int64.decode
      return .processStarted pid ppid path cmdline user timestamp
  | "process_exited" => do
      let pid ← requiredMember members "pid" Codec.uint32.decode
      let exitCode ← requiredMember members "exit_code" Codec.int32.decode
      let timestamp ← requiredMember members "timestamp" Codec.int64.decode
      return .processExited pid exitCode timestamp
  | "file_accessed" => do
      let pid ← requiredMember members "pid" Codec.uint32.decode
      let path ← requiredMember members "path" Codec.text.decode
      let operation ← requiredMember members "operation" FileOperation.codec.decode
      let timestamp ← requiredMember members "timestamp" Codec.int64.decode
      return .fileAccessed pid path operation timestamp
  | "network_connected" => do
      let pid ← requiredMember members "pid" Codec.uint32.decode
      let src ← requiredMember members "src" Codec.text.decode
      let dst ← requiredMember members "dst" Codec.text.decode
      let protocol ← requiredMember members "protocol" NetworkProtocol.codec.decode
      let timestamp ← requiredMember members "timestamp" Codec.int64.decode
      return .networkConnected pid src dst protocol timestamp
  | "registry_changed" => do
      let pid ← requiredMember members "pid" Codec.uint32.decode
      let key ← requiredMember members "key" Codec.text.decode
      let operation ← requiredMember members "operation" RegistryOperation.codec.decode
      let timestamp ← requiredMember members "timestamp" Codec.int64.decode
      return .registryChanged pid key operation timestamp
  | _ => none

theorem ofMembers_members (event : SystemEvent) : ofMembers event.members event.tag = some event := by
  cases event with
  | processStarted pid ppid path cmdline user timestamp =>
      cases user <;>
        simp [ofMembers, members, tag, requiredMember, optionalMember, once, encodeOptional]
  | processExited | fileAccessed | networkConnected | registryChanged =>
      simp [ofMembers, members, tag, requiredMember, once]

/-- Internally tagged with `type`. -/
def codec : Codec SystemEvent :=
  Codec.tagged "type" fields tag members ofMembers (fun event => by cases event <;> rfl)
    ofMembers_members

end SystemEvent

end OsfmEdm
