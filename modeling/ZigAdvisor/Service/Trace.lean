import ZigAdvisor.Http.Message
import ZigAdvisor.Service.Log

/-!
# Results with a trace

A result comes with the records that were written and the requests that were sent on the way to it,
both in order.
-/

namespace ZigAdvisor

structure Traced (α : Type) where
  value : α
  records : List LogRecord
  requests : List Http.Request

namespace Traced

instance : Monad Traced where
  pure value := ⟨value, [], []⟩
  bind first next :=
    let second := next first.value
    ⟨second.value, first.records ++ second.records, first.requests ++ second.requests⟩

@[simp] theorem value_pure {α : Type} (a : α) : (pure a : Traced α).value = a := rfl

@[simp] theorem value_bind {α β : Type} (first : Traced α) (next : α → Traced β) :
    (first >>= next).value = (next first.value).value := rfl

@[simp] theorem records_pure {α : Type} (a : α) : (pure a : Traced α).records = [] := rfl

@[simp] theorem records_bind {α β : Type} (first : Traced α) (next : α → Traced β) :
    (first >>= next).records = first.records ++ (next first.value).records := rfl

@[simp] theorem requests_pure {α : Type} (a : α) : (pure a : Traced α).requests = [] := rfl

@[simp] theorem requests_bind {α β : Type} (first : Traced α) (next : α → Traced β) :
    (first >>= next).requests = first.requests ++ (next first.value).requests := rfl

def log (level : LogLevel) (message : Text) : Traced Unit := ⟨(), [⟨level, message⟩], []⟩

@[simp] theorem records_log (level : LogLevel) (message : Text) :
    (log level message).records = [⟨level, message⟩] := rfl

@[simp] theorem requests_log (level : LogLevel) (message : Text) :
    (log level message).requests = [] := rfl

def send (request : Http.Request) : Traced Unit := ⟨(), [], [request]⟩

@[simp] theorem records_send (request : Http.Request) : (send request).records = [] := rfl

@[simp] theorem requests_send (request : Http.Request) : (send request).requests = [request] := rfl

end Traced

end ZigAdvisor
