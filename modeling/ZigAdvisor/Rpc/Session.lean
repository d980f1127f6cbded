import ZigAdvisor.Rpc.Handle
import ZigAdvisor.Text.Lines

/-!
# Sessions

A session reads messages line by line and writes a line for each reply. A line that is no JSON is
answered as such; a line that is beyond the limits of the reader ends the session.
-/

namespace ZigAdvisor.Rpc

/-- Handles a line; `net` is what a request meets. An error ends the session. -/
def handleLine (s : Settings) (net : Http.Outcome) (line : Text) :
    Traced (Except Json.Fault (Option Reply)) :=
  let line := Text.trim line
  if line.isEmpty then pure (.ok none)
  else match Json.parseText line s.nesting.lines with
    | .ok message => do return .ok (← handle s net message)
    | .error (.malformed problem rest) => do
      .log .error (.concat ["Invalid JSON: ",
        Json.Fault.message line (.malformed problem rest)])
      return .ok (some ⟨.null, .error .parseError "Parse error"⟩)
    | .error fault => return .error fault

/-- Handles a line and gives the lines that are written, or nothing if the session is over. -/
def answerLine (s : Settings) (net : Http.Outcome) (line : Text) : Traced (Option (List Text)) := do
  match ← handleLine s net line with
  | .error fault => do
    .log .error (.concat ["Error processing message: ", fault.message line])
    return none
  | .ok reply => return some (reply.map Reply.line).toList

/-- Handles lines up to the end, or up to one that ends the session; the lines that are written.
Each line comes with what a request meets that is made for it. -/
def handleLines (s : Settings) : List (Http.Outcome × Text) → Traced (List Text)
  | [] => do
    .log .info "EOF detected, shutting down"
    return []
  | (net, line) :: lines => do
    match ← answerLine s net line with
    | none => return []
    | some written => return written ++ (← handleLines s lines)

def opening (s : Settings) : Traced Unit := do
  .log .info "Zig MCP server running on stdio"
  .log .debug (.concat ["Configuration: ", s.summary.quoted])

def visits (nets : Nat → Http.Outcome) (input : Text) : List (Http.Outcome × Text) :=
  input.streamLines.mapIdx fun n line => (nets n, line)

def session (s : Settings) (nets : Nat → Http.Outcome) (input : Text) : Traced (List Text) := do
  opening s
  handleLines s (visits nets input)

def serve (s : Settings) (net : Http.Outcome) (input : Text) : Traced (List Text) :=
  session s (fun _ => net) input

def printed (lines : List Text) : Text := lines.flatMap fun line => line ++ "\n"

end ZigAdvisor.Rpc
