import ZigAdvisor.Files.Tree
import ZigAdvisor.Json.Reader
import ZigAdvisor.Json.Writer

/-!
# Installation

The server is made known to the editor by an entry in a configuration file. Everything else in the
file is kept, in its order.
-/

namespace ZigAdvisor.Installation

def key : Text := "zig-mcp"

def serversKey : Text := "servers"

def entry (interpreter : Text) : Json :=
  .obj [("command", .str interpreter), ("args", .arr [.str "-m", .str "zig_mcp.server"])]

inductive Fault
  /-- The configuration is no object. -/
  | noObject
  /-- The servers are not given as an object. -/
  | badServers
deriving DecidableEq

def register (entry : Json) : Json → Except Fault Json
  | .obj members =>
    match Json.find? members serversKey with
    | none => .ok (.obj (Json.put serversKey (.obj [(key, entry)]) members))
    | some (.obj servers) =>
      .ok (.obj (Json.put serversKey (.obj (Json.put key entry servers)) members))
    | some _ => .error .badServers
  | _ => .error .noObject

/-- Whether servers in one of the forms mention the key, if they can. -/
def mentions? : Json → Option Bool
  | .obj servers => some (Json.find? servers key).isSome
  | .arr items => some (items.any fun i => i.text? == some key)
  | .str t => some (t.contains key)
  | _ => none

def unregister : Json → Except Fault (Option Json)
  | .obj members =>
    match Json.find? members serversKey with
    | none => .ok none
    | some servers =>
      match mentions? servers, servers with
      | none, _ => .error .badServers
      | some false, _ => .ok none
      | some true, .obj entries =>
        .ok (some (.obj (Json.put serversKey (.obj (Json.erase key entries)) members)))
      | some true, _ => .error .badServers
  | _ => .error .noObject

/-- Where the configuration is: below the home directory for the user, or below the working
directory for the workspace. -/
def path (home directory : Path) (everywhere insiders : Bool) : Path :=
  if everywhere then
    home.below [".config", if insiders then "Code - Insiders" else "Code", "User", "mcp.json"]
  else directory.below [".vscode", "mcp.json"]

def location (everywhere insiders : Bool) : Text :=
  if everywhere then
    if insiders then "global (Insiders)" else "global (stable)"
  else "workspace"

end ZigAdvisor.Installation
