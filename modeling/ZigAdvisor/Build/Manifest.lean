import ZigAdvisor.Zig.Identifier

/-!
# Package manifests

A manifest lists the packages a project depends on, and where they come from.
-/

namespace ZigAdvisor

structure Dependency where
  name : Text
  /-- Where the package comes from; empty if not known. -/
  url : Text
  /-- The root source file inside the package. -/
  path : Text
  /-- The branch or tag. -/
  version : Text
  hash : Text

namespace Dependency

def unknownHash : Text := .concat ["1220", List.replicate 60 ('0' : CodePoint)]

def ofUrl (name url : Text) : Dependency := ⟨name, url, [], [], unknownHash⟩

/-- The address, or that of an example repository. -/
def resolvedUrl (d : Dependency) : Text :=
  if d.url.isEmpty then .concat ["https://github.com/example/", d.name] else d.url

end Dependency

structure Project where
  name : Text
  version : Text
  minimumZigVersion : Text

namespace Project

def unnamed : Project := ⟨"my-project", "0.1.0", "0.12.0"⟩

end Project

namespace Manifest

def entry (d : Dependency) : Text :=
  .concat [
    "        ", Zig.field d.name, " = .\x7b\n",
    "            .url = \"", d.resolvedUrl, "\",\n",
    "            .hash = \"", d.hash, "\",\n",
    "        \x7d,\n"]

def generate (p : Project) (dependencies : List Dependency) : Text :=
  .concat [
    ".\x7b\n",
    "    .name = \"", p.name, "\",\n",
    "    .version = \"", p.version, "\",\n",
    "    .minimum_zig_version = \"", p.minimumZigVersion, "\",\n",
    "\n",
    "    .dependencies = .\x7b\n",
    dependencies.flatMap entry,
    "    \x7d,\n",
    "\n",
    "    .paths = .\x7b\n",
    "        \"build.zig\",\n",
    "        \"build.zig.zon\",\n",
    "        \"src\",\n",
    "    \x7d,\n",
    "\x7d\n"]

end Manifest

end ZigAdvisor
