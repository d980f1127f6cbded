import ZigAdvisor.Json.Writer

/-!
# Replies

A reply repeats the id of the message it answers and carries either a result or an error.
-/

namespace ZigAdvisor.Rpc

inductive ErrorKind
  | parseError
  | invalidRequest
  | methodNotFound
  | invalidParams
  | internalError
  | resourceNotFound
deriving DecidableEq

def ErrorKind.code : ErrorKind → Int
  | parseError => -32700
  | invalidRequest => -32600
  | methodNotFound => -32601
  | invalidParams => -32602
  | internalError => -32603
  | resourceNotFound => -32002

inductive Content
  | result (value : Json)
  | error (kind : ErrorKind) (message : Text)

structure Reply where
  id : Json
  content : Content

namespace Reply

def toJson (r : Reply) : Json :=
  .obj [("jsonrpc", .str "2.0"), ("id", r.id),
    match r.content with
    | .result value => ("result", value)
    | .error kind message =>
      ("error", .obj [("code", .int kind.code), ("message", .str message)])]

def line (r : Reply) : Text := r.toJson.line

end Reply

end ZigAdvisor.Rpc
