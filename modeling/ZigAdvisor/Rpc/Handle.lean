import ZigAdvisor.Resource.Basic
import ZigAdvisor.Rpc.Reply
import ZigAdvisor.Tool.Call

/-!
# Handling of messages

A message that is a request gets one reply; a notification gets none. Whatever the message is,
handling it ends in a reply or in none, and sends at most one request.
-/

namespace ZigAdvisor.Rpc

def protocolVersion : Text := "2024-11-05"

def serverVersion : Text := "0.2.0"

def introduction : Json :=
  .obj [
    ("protocolVersion", .str protocolVersion),
    ("capabilities", .obj [("tools", .obj []), ("resources", .obj [])]),
    ("serverInfo", .obj [("name", .str "zig-mcp-server"), ("version", .str serverVersion)])]

def toolResult (text : Text) : Content :=
  .result (.obj [("content", .arr [.obj [("type", .str "text"), ("text", .str text)]])])

/-- The result of reading a resource. Whatever can be read is advertised with a type
(`Resource.advertisedType?_of_ofUri?`). -/
def resourceResult (uri text : Text) : Content :=
  let mimeType := (Resource.advertisedType? uri).getD ""
  .result (.obj [("contents", .arr [
    .obj [("uri", .str uri), ("mimeType", .constant mimeType), ("text", .str text)]])])

def callTool (s : Settings) (name arguments : Json) : Traced Content :=
  match name.text?.bind Tool.ofName? with
  | none => pure (.error .methodNotFound (.concat ["Unknown tool: ", name.shown]))
  | some tool =>
    match arguments with
    | .obj args => do
      match ← tool.call s args with
      | .ok text => return toolResult text
      | .error fault => return .error .invalidParams fault.message
    | _ => pure (.error .invalidParams "arguments must be an object")

def readResource (s : Settings) (net : Http.Outcome) (uri : Json) : Traced Content :=
  match uri with
  | .str address =>
    match Resource.ofUri? address with
    | none => pure (.error .resourceNotFound (.concat ["Resource not found: ", address]))
    | some r => do
      match ← r.read s net with
      | .ok text => return resourceResult address text
      | .error (.failed message) => return .error .internalError message
      | .error fault => do
        .log .error (.concat ["Error reading resource ", address, ": ", fault.message])
        return .error .internalError (.concat ["Internal error: ", fault.message])
  | _ => pure (.error .invalidParams "'uri' is required and must be a string")

def filled (members : List (Text × Json)) (key : Text) : Json :=
  match Json.find? members key with
  | none => .obj []
  | some j => if j.isBlank then .obj [] else j

def parameter (params : Json) (key : Text) : Json := (params.member? key).getD .null

def answer (s : Settings) (net : Http.Outcome) (method : Text) (params : Json) : Traced Content :=
  if method = ("initialize" : Text) then pure (.result introduction)
  else if method = ("ping" : Text) then pure (.result (.obj []))
  else if method = ("tools/list" : Text) then
    pure (.result (.obj [("tools", .arr (Tool.all.map Tool.advertisement))]))
  else if method = ("tools/call" : Text) then
    match params with
    | .obj members => callTool s (parameter params "name") (filled members "arguments")
    | _ => pure (.error .invalidParams "params must be an object")
  else if method = ("resources/list" : Text) then
    pure (.result (.obj [("resources", .arr (Resource.all.map Resource.advertisement))]))
  else if method = ("resources/read" : Text) then readResource s net (parameter params "uri")
  else pure (.error .methodNotFound (.concat ["Unknown method: ", method]))

def notificationStart : Text := "notifications/"

/-- Handles a message; `net` is what a request meets. -/
def handle (s : Settings) (net : Http.Outcome) (message : Json) : Traced (Option Reply) :=
  match message with
  | .obj members =>
    let id := (Json.find? members "id").getD .null
    match (Json.find? members "method").bind Json.text? with
    | none => pure (some ⟨id, .error .invalidRequest "Invalid Request"⟩)
    | some method =>
      if method.startsWith notificationStart then do
        .log .debug (.concat ["Notification received: ", method])
        return none
      else do
        return some ⟨id, ← answer s net method (filled members "params")⟩
  | _ => pure (some ⟨.null, .error .invalidRequest "Invalid Request"⟩)

end ZigAdvisor.Rpc
