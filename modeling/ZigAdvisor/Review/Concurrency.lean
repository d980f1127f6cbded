import ZigAdvisor.Review.Rule

/-!
# Concurrency

Threads, locks and atomics.
-/

namespace ZigAdvisor.Concurrency

def bareCall (method : String) : Pattern :=
  .inOrder [method, .blanks, "(", .blanks, ")"]

def metrics : List Metric := [
  ⟨"thread_spawn", .anyOf [.call "std.Thread.spawn", .call "Thread.spawn"]⟩,
  ⟨"thread_join", bareCall ".join"⟩,
  ⟨"thread_detach", bareCall ".detach"⟩,
  ⟨"mutex", .word "Mutex"⟩,
  ⟨"lock", bareCall ".lock"⟩,
  ⟨"unlock", bareCall ".unlock"⟩,
  ⟨"defer_unlock",
    .inOrder [.wordEdge, "defer", .gap, .many ⟨false, [.word, .point '.']⟩ 1 none,
      .call ".unlock"]⟩,
  ⟨"global_var",
    .inOrder [.lineStart, .optional (.inOrder ["pub", .gap]), "var", .gap, .name]⟩,
  ⟨"async_await",
    .inOrder [.wordEdge, .anyOf ["async", "await", "suspend", "resume", "nosuspend"],
      .wordEdge]⟩,
  ⟨"atomic",
    .anyOf ["std.atomic", .inOrder ["@atomic", .anyOf ["Load", "Store", "Rmw"]],
      .inOrder ["@cmpxchg", .anyOf ["Weak", "Strong"]]]⟩,
  ⟨"unordered",
    .anyOf [.inOrder [".unordered", .wordEdge], .inOrder [".monotonic", .wordEdge]]⟩,
  ⟨"thread_pool", .anyOf ["std.Thread.Pool", "Thread.Pool"]⟩,
  ⟨"wait_group", "WaitGroup"⟩,
  ⟨"sync_events",
    .inOrder ["Thread.", .anyOf ["ResetEvent", "Condition", "Semaphore", "RwLock"]]⟩]

open Severity Rule in
def rules : List Rule := [
  onCondition warning
    (fun m => m.get "thread_join" + m.get "thread_detach" < m.get "thread_spawn")
    "Join or detach every spawned thread to avoid leaking it",
  ⟨critical, fun m => m.get "lock" != m.get "unlock", fun m =>
    .concat ["Lock/unlock imbalance (", .ofNat (m.get "lock"), " lock vs ",
      .ofNat (m.get "unlock"), " unlock calls)"]⟩,
  onCondition warning (fun m => m.has "mutex" && m.has "lock" && m.lacks "defer_unlock")
    "Pair mutex.lock() with defer mutex.unlock() to release on every path",
  onCondition warning (fun m => m.has "global_var" && (m.has "thread_spawn" || m.has "thread_pool"))
    "Mutable globals shared across threads need a Mutex or atomics",
  onPresence critical "async_await"
    ("async/await/suspend were removed from the self-hosted compiler; " ++
      "use threads or an event loop library"),
  onPresence suggestion "unordered"
    ("Relaxed atomic orderings (.unordered/.monotonic) do not synchronize other memory; " ++
      "use .acquire/.release for publication"),
  onCondition suggestion (fun m => m.has "atomic" && m.has "mutex")
    ("Mixing atomics and mutexes on the same data is easy to get wrong; " ++
      "pick one scheme per field"),
  onPresence strength "thread_pool" "Uses std.Thread.Pool for task scheduling",
  onPresence strength "wait_group" "Uses WaitGroup to await task completion",
  onPresence strength "sync_events"
    "Uses std.Thread synchronization primitives (ResetEvent, Condition, ...)",
  onPresence strength "defer_unlock" "Releases locks with defer"]

def classifier : Classifier where
  name := "concurrency"
  title := "Concurrency"
  allClear := "No concurrency concerns detected"
  measure := Metric.measure metrics
  rules := rules
  audit _ := []

end ZigAdvisor.Concurrency
