import ZigAdvisor.Text.Basic

/-!
# Optimize modes

The four modes of the compiler, under the compiler's names.
-/

namespace ZigAdvisor

inductive OptimizeMode
  | debug
  | releaseSafe
  | releaseFast
  | releaseSmall
deriving DecidableEq

namespace OptimizeMode

def all : List OptimizeMode := [debug, releaseSafe, releaseFast, releaseSmall]

theorem mem_all (mode : OptimizeMode) : mode ∈ all := by cases mode <;> decide

def name : OptimizeMode → String
  | debug => "Debug"
  | releaseSafe => "ReleaseSafe"
  | releaseFast => "ReleaseFast"
  | releaseSmall => "ReleaseSmall"

/-- The mode of a name, written exactly as the compiler writes it. -/
def ofName? (name : Text) : Option OptimizeMode :=
  all.find? fun mode => Text.ofString mode.name == name

end OptimizeMode

end ZigAdvisor
