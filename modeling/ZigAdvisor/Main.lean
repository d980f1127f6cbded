import ZigAdvisor.Command.Run

/-!
# The program

The command line: what commands look at is read beforehand, what they changed is written
afterwards, and a session is served line by line. There is no transport, so nothing is fetched.
-/

namespace ZigAdvisor.Program

def net : Http.Outcome := .transportError "no transport is available"

/-- A text for the system; what no system text can hold is replaced. -/
def systemText (t : Text) : String := .ofList (t.map fun c => Char.ofNat c.val)

/-- A path for the system; the path of the one empty name is the root. -/
def systemPath (p : Path) : String := if p.text.isEmpty then "/" else systemText p.text

def writeTo (stream : IO.FS.Stream) (t : Text) : IO Unit := do
  stream.write ⟨(Utf8.encode t).toArray⟩
  stream.flush

def writeRecords (threshold : Nat) (records : List LogRecord) : IO Unit := do
  let stream ← IO.getStderr
  for record in LogRecord.shown threshold records do
    writeTo stream (record.message ++ "\n")

/-- What stands at a path of the system. A directory opens, but cannot be read from. -/
def probe (path : Path) : IO (Option Node) := do
  try
    let content ← IO.FS.readBinFile (systemPath path)
    return some (.file content.toList)
  catch
    | .inappropriateType _ code _ => return if code = 21 then some .directory else none
    | _ => return none

def load (paths : List Path) : IO FileTree := do
  let mut entries := []
  for path in paths.eraseDups do
    if let some node ← probe path then entries := entries ++ [(path, node)]
  return ⟨entries⟩

def store (before after : FileTree) : IO Unit := do
  for (path, node) in after.entries do
    if before.node? path ≠ some node then
      match node with
      | .directory => IO.FS.createDirAll (systemPath path)
      | .file content => IO.FS.writeBinFile (systemPath path) ⟨content.toArray⟩

def variableNames : List String :=
  ["GITHUB_TOKEN", "ZIG_MCP_DOCS_VERSION", "ZIG_MCP_HTTP_TIMEOUT", "ZIG_MCP_LOG_LEVEL", "DEBUG"]

def environment : IO Environment := do
  let mut env := []
  for name in variableNames do
    if let some value ← IO.getEnv name then
      env := env ++ [(Text.ofString name, Text.ofString value)]
  return env

/-- Serves lines until the input or the session ends. -/
partial def serveLines (s : Settings) : IO Unit := do
  let line ← (← IO.getStdin).getLine
  if line.isEmpty then
    writeRecords s.threshold (Rpc.handleLines s []).records
  else
    let answer := Rpc.answerLine s net line
    if let some written := answer.value then
      for reply in written do writeTo (← IO.getStdout) (reply ++ "\n")
    writeRecords s.threshold answer.records
    if answer.value.isSome then serveLines s

def serve (env : Environment) : IO UInt32 := do
  let s := Settings.ofEnvironment env
  writeRecords s.threshold (Rpc.opening s).records
  serveLines s
  return 0

def run (env : Environment) (arguments : List Text) (request : Command.Request) : IO UInt32 := do
  let directory := Text.pieces '/' (toString (← IO.currentDir))
  let home := Text.pieces '/' ((← IO.getEnv "HOME").getD "")
  let files ← load (Command.Machine.places home directory false arguments)
  let machine : Command.Machine := {
    files, directory, home, interpreter := "python3", windows := false, threshold := 20 }
  let done := machine.perform env net [] request
  store files done.machine.files
  writeTo (← IO.getStdout) done.output
  writeTo (← IO.getStderr) done.errors
  match done.ending with
  | .done code => return code.toUInt32
  | .usage code => return code.toUInt32
  | .failed failure => do
    writeTo (← IO.getStderr) (failure.message ++ "\n")
    return 1

end ZigAdvisor.Program

open ZigAdvisor in
def main (arguments : List String) : IO UInt32 := do
  let arguments := arguments.map Text.ofString
  let env ← Program.environment
  match Command.Request.ofArguments arguments with
  | .serve => Program.serve env
  | request => Program.run env arguments request
