import ZigAdvisor.Build.Manifest
import ZigAdvisor.Json.Writer

/-!
# Example packages

Well-known packages with the repositories they come from.
-/

namespace ZigAdvisor

namespace Dependency

def onMain (name url path : Text) : Dependency := { ofUrl name url with path, version := "main" }

def examples : List (Text × Dependency) := [
  ("zig-args", onMain "args" "https://github.com/MasterQ32/zig-args" "args.zig"),
  ("zig-json", onMain "json" "https://github.com/getty-zig/json" "json.zig"),
  ("zig-network", onMain "network" "https://github.com/MasterQ32/zig-network" "network.zig"),
  ("zigimg", onMain "zigimg" "https://github.com/zigimg/zigimg" "zigimg.zig")]

def toJson (d : Dependency) : Json :=
  .obj [
    ("name", .str d.name), ("url", .str d.url), ("path", .str d.path), ("version", .str d.version)]

def catalogue : Text := (Json.obj (examples.map fun (key, d) => (key, d.toJson))).spread

end Dependency

end ZigAdvisor
