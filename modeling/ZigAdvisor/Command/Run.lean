import ZigAdvisor.Command.Arguments
import ZigAdvisor.Command.Installation
import ZigAdvisor.Rpc.Session

/-!
# Commands

Each command runs on a machine and leaves one behind. What it prints, how it ends and what it
recorded is the rest of its outcome.
-/

namespace ZigAdvisor.Command

structure Machine where
  files : FileTree
  directory : Path
  home : Path
  /-- The interpreter that is used where the working directory has none of its own. -/
  interpreter : Text
  windows : Bool
  /-- The level from which records are shown. -/
  threshold : Nat
  nesting : Nesting := .usual

inductive Failure
  | file (fault : FileFault)
  /-- A file is not in UTF-8. -/
  | undecodable (error : Encoding.Error)
  /-- A file name holds a null character. -/
  | nullCharacter
  /-- A file name holds a surrogate. -/
  | unencodable
  | configuration (fault : Json.Fault)
  | installation (fault : Installation.Fault)

inductive Ending
  | done (code : Nat)
  /-- The arguments settled it. -/
  | usage (code : Nat)
  | failed (failure : Failure)

structure Outcome where
  machine : Machine
  ending : Ending
  output : Text
  errors : Text
  records : List LogRecord

namespace Failure

/-- What is said of a failure that no command reports by itself. -/
def message : Failure → Text
  | file fault => fault.description
  | undecodable e => e.message
  | nullCharacter => "embedded null byte"
  | unencodable => "surrogates not allowed"
  | configuration .deepArray => "maximum recursion depth exceeded"
  | configuration .deepObject => "maximum recursion depth exceeded"
  | configuration fault => fault.message []
  | installation .noObject => "the configuration is not an object"
  | installation .badServers => "the servers of the configuration are not an object"

end Failure

namespace Machine

def ownInterpreter (directory : Path) (windows : Bool) : Path :=
  directory.below
    (if windows then [".venv", "Scripts", "python.exe"] else [".venv", "bin", "python"])

/-- The paths that commands with some arguments may look at. -/
def places (home directory : Path) (windows : Bool) (arguments : List Text) : List Path :=
  let named := arguments.flatMap fun a =>
    let path := GivenPath.ofText a
    FileTree.visited (path.start directory) path.names
  let configurations := [
    Installation.path home directory false false, Installation.path home directory true false,
    Installation.path home directory true true]
  (ownInterpreter directory windows :: configurations).flatMap (FileTree.visited []) ++ named

def unchanged (m : Machine) (ending : Ending) (output errors : Text) : Outcome :=
  ⟨m, ending, output, errors, []⟩

def chosenInterpreter (m : Machine) : Text :=
  let own := ownInterpreter m.directory m.windows
  if m.files.has own then own.text else m.interpreter

/-! ## Installing -/

inductive Configuration
  | value (j : Json)
  | notJson
  | unreadable (failure : Failure)

def readConfiguration (m : Machine) (path : Path) : Configuration :=
  match m.files.readFrom [] path with
  | .error fault => .unreadable (.file fault)
  | .ok bytes =>
    match Utf8.decode bytes with
    | .error e => .unreadable (.undecodable e)
    | .ok text =>
      match Json.parseText text.withNewlines m.nesting.files with
      | .ok j => .value j
      | .error (.malformed _ _) => .notJson
      | .error fault => .unreadable (.configuration fault)

def notJson (m : Machine) (path : Path) : Outcome :=
  m.unchanged (.done 1) [] (.concat ["Error: Invalid JSON in ", path.text, "\n"])

/-- Reads a configuration and changes it. The null value counts as none, but is not reported. -/
def withLoaded (m : Machine) (path : Path) (change : Json → Outcome) : Outcome :=
  match m.readConfiguration path with
  | .unreadable failure => m.unchanged (.failed failure) [] []
  | .notJson => m.notJson path
  | .value .null => m.unchanged (.done 1) [] []
  | .value configuration => change configuration

/-- Writes a configuration. Its file is emptied when it is opened, and takes what the writer came to
when it is closed. -/
def store (m : Machine) (path : Path) (configuration : Json) (told : Text) : Outcome :=
  let emptied := m.files.write path []
  let written := configuration.writeWithin (.indented 0) m.nesting.configurations
  if written.complete then
    { m with files := emptied.write path (Utf8.encode (written.text ++ "\n")) }.unchanged
      (.done 0) told []
  else
    { m with files := emptied.write path (Utf8.encode written.text) }.unchanged
      (.failed (.configuration .deepObject)) [] []

def register (m : Machine) (path : Path) (location : Text) (configuration : Json) : Outcome :=
  match Installation.register (Installation.entry m.chosenInterpreter) configuration with
  | .error fault => m.unchanged (.failed (.installation fault)) [] []
  | .ok changed =>
    m.store path changed (.concat [
      "✓ Zig MCP server installed (", location, ")\n",
      "  Config: ", path.text, "\n",
      "\n",
      "Reload VS Code window to activate the MCP server.\n"])

def install (m : Machine) (everywhere insiders : Bool) : Outcome :=
  let path := Installation.path m.home m.directory everywhere insiders
  let location := Installation.location everywhere insiders
  match m.files.makeDirectory path.dropLast with
  | .error fault => m.unchanged (.failed (.file fault)) [] []
  | .ok files =>
    let m := { m with files }
    if m.files.has path then m.withLoaded path (m.register path location)
    else m.register path location (.obj [(Installation.serversKey, .obj [])])

def unregister (m : Machine) (path : Path) (location : Text) (configuration : Json) : Outcome :=
  match Installation.unregister configuration with
  | .error fault => m.unchanged (.failed (.installation fault)) [] []
  | .ok none =>
    m.unchanged (.done 0) (.concat ["Zig MCP server not found in ", location, " config\n"]) []
  | .ok (some changed) =>
    m.store path changed (.concat ["✓ Zig MCP server removed (", location, ")\n"])

def uninstall (m : Machine) (everywhere insiders : Bool) : Outcome :=
  let path := Installation.path m.home m.directory everywhere insiders
  if m.files.has path then
    m.withLoaded path (m.unregister path (Installation.location everywhere insiders))
  else m.unchanged (.done 0) (.concat ["No MCP config found at ", path.text, "\n"]) []

/-! ## Checking -/

/-- Reads a source file and prints what is made of its text. What is printed is handed to the console
as it is, which may refuse what it cannot encode, such as a lone surrogate. -/
def withSource (m : Machine) (file : Text) (review : Text → Traced Text) : Outcome :=
  let path := GivenPath.ofText file
  if file.any GivenPath.lacksBytes then m.unchanged (.failed .unencodable) [] []
  else if file.contains [.ofNat 0] then m.unchanged (.failed .nullCharacter) [] []
  else match m.files.read m.directory path with
    | .error fault =>
      m.unchanged (.done 1) []
        (.concat ["Error: cannot read ", file, ": ", fault.message path.text, "\n"])
    | .ok bytes =>
      match Utf8.decode bytes with
      | .error e => m.unchanged (.failed (.undecodable e)) [] []
      | .ok text =>
        let told := review text.withNewlines
        { m.unchanged (.done 0) (told.value ++ "\n") [] with records := told.records }

def check (m : Machine) (file prompt : Text) : Outcome :=
  m.withSource file fun code => Tool.recommend Classifier.registry code prompt

def checkBuild (m : Machine) (file : Text) : Outcome :=
  m.withSource file fun script => pure (Tool.analyzeScript script)

/-! ## Serving -/

def serve (m : Machine) (env : Environment) (net : Http.Outcome) (input : Text) : Outcome :=
  let settings := Settings.ofEnvironment env m.nesting
  let session := Rpc.serve settings net input
  { machine := { m with threshold := settings.threshold }
    ending := .done 0
    output := Rpc.printed session.value
    errors := []
    records := session.records }

/-! ## All commands -/

def versionLine : Text := .concat ["zig-mcp ", Rpc.serverVersion, "\n"]

def perform (m : Machine) (env : Environment) (net : Http.Outcome) (input : Text) :
    Request → Outcome
  | .help g => m.unchanged (.usage 0) g.helpPage []
  | .version => m.unchanged (.usage 0) versionLine []
  | .refused g fault =>
    m.unchanged (.usage 2) []
      (.concat [g.usagePage, g.program, ": error: ", fault.message, "\n"])
  | .overview => m.unchanged (.done 0) (Grammar.helpPage .main) []
  | .install everywhere insiders => m.install everywhere insiders
  | .uninstall everywhere insiders => m.uninstall everywhere insiders
  | .serve => m.serve env net input
  | .check file prompt => m.check file prompt
  | .checkBuild file => m.checkBuild file

def run (m : Machine) (env : Environment) (net : Http.Outcome) (input : Text)
    (arguments : List Text) : Outcome :=
  m.perform env net input (.ofArguments arguments)

end Machine

end ZigAdvisor.Command
