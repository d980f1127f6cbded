import ZigAdvisor.Http.Url.Target
import ZigAdvisor.Number.Double

/-!
# Requests and what they meet

A request is sent at most once. It meets a response, or fails underway; nothing is known of the
transport but this outcome.
-/

namespace ZigAdvisor.Http

structure Request where
  url : Url
  accept : Text
  userAgent : Text
  authorization : Option Text
  /-- The seconds after which the transport gives up. -/
  timeout : Double

inductive Outcome
  | response (status : Nat) (body : Bytes)
  /-- The transport failed and said why. -/
  | transportError (message : Text)
  /-- Something else failed. -/
  | crash (message : Text)

namespace Request

def anything : Text := "*/*"

end Request

end ZigAdvisor.Http
