import PipDriver.Failure
import PipDriver.Toml.Node

/-!
Settings that stand in for what a request leaves open, and how they are read off a document. Keys are
taken in the order of the document, and the first one that does not fit is reported.
-/

namespace PipDriver

structure CachePlaces where
  fileRoot : Option Path := none
  folder : Option Path := none
deriving DecidableEq, Repr

structure Config where
  program : Option Path := none
  user : Option Text := none
  folder : Option Path := none
  timeout : Option Text := none
  indexUrl : Option Text := none
  proxy : Option Text := none
  cache : CachePlaces := {}
deriving DecidableEq, Repr

namespace Config

open Toml (Node Entries)

def describe : Node → Text
  | .text value => "string " ++ value.quoted
  | .integer value => "integer `" ++ Text.ofInt value ++ "`"
  | .float shown => "floating point `" ++ shown ++ "`"
  | .truth value => if value then "boolean `true`" else "boolean `false`"
  | .moment => "map"
  | .array _ => "sequence"
  | .table _ _ => "map"
  | .tables _ => "sequence"

def textOf (node : Node) : Except ConfigFault Text :=
  match node with
  | .text value => .ok value
  | _ => .error (.wrongKind (describe node) "a string")

def pathOf (node : Node) : Except ConfigFault Path :=
  match node with
  | .text value => .ok ⟨value⟩
  | _ => .error (.wrongKind (describe node) "path string")

def knownKeys : Text := "one of `bin_env`, `runas`, `cwd`, `timeout`, `index_url`, `proxy`, `cache`"

def knownCacheKeys : Text := "`file_root` or `cache_dir`"

def momentKey : Text := "$__toml_private_datetime"

def addCacheKey (cache : CachePlaces) (entry : Text × Node) : Except ConfigFault CachePlaces :=
  let (key, node) := entry
  if key = "file_root" then (pathOf node).map fun path => { cache with fileRoot := some path }
  else if key = "cache_dir" then (pathOf node).map fun path => { cache with folder := some path }
  else .error (.unknownKey key knownCacheKeys)

def cacheOfElements (elements : List Node) : Except ConfigFault CachePlaces :=
  match elements with
  | [] => .ok {}
  | [first] => (pathOf first).map fun path => { fileRoot := some path }
  | first :: second :: _ =>
    match pathOf first, pathOf second with
    | .ok fileRoot, .ok folder => .ok { fileRoot := some fileRoot, folder := some folder }
    | .error fault, _ => .error fault
    | _, .error fault => .error fault

def cacheOf (node : Node) : Except ConfigFault CachePlaces :=
  match node with
  | .table _ entries => entries.foldlM addCacheKey {}
  | .array elements => cacheOfElements elements
  | .tables elements => cacheOfElements (elements.map (Node.table .headed))
  | .moment => .error (.unknownKey momentKey knownCacheKeys)
  | _ => .error (.wrongKind (describe node) "struct CacheConfig")

def addKey (config : Config) (entry : Text × Node) : Except ConfigFault Config :=
  let (key, node) := entry
  if key = "bin_env" then (pathOf node).map fun path => { config with program := some path }
  else if key = "runas" then (textOf node).map fun user => { config with user := some user }
  else if key = "cwd" then (pathOf node).map fun path => { config with folder := some path }
  else if key = "timeout" then (textOf node).map fun text => { config with timeout := some text }
  else if key = "index_url" then (textOf node).map fun text => { config with indexUrl := some text }
  else if key = "proxy" then (textOf node).map fun text => { config with proxy := some text }
  else if key = "cache" then (cacheOf node).map fun cache => { config with cache }
  else .error (.unknownKey key knownKeys)

def ofEntries (entries : Entries) : Except ConfigFault Config := entries.foldlM addKey {}

end Config

end PipDriver
