import ZigAdvisor.Text.Basic

/-!
# Outcomes

What is read or fetched is there or there is a fault in its place. What is known of both goes along
with the steps that lead on from there.
-/

namespace ZigAdvisor.Except

variable {ε α β : Type} {x : Except ε α} {P : α → Prop} {Q : ε → Prop} {R : β → Prop}

theorem map_eq_ok {f : α → β} {b : β} : x.map f = .ok b ↔ ∃ a, x = .ok a ∧ f a = b := by
  cases x <;> simp [Except.map]

theorem map_eq_error {f : α → β} {e : ε} : x.map f = .error e ↔ x = .error e := by
  cases x <;> simp [Except.map]

theorem bind_eq_ok {f : α → Except ε β} {b : β} :
    x >>= f = .ok b ↔ ∃ a, x = .ok a ∧ f a = .ok b := by
  cases x with
  | error e => exact iff_of_false (fun h => by cases h) (by simp)
  | ok a => simp [Bind.bind, Except.bind]

def All (P : α → Prop) (Q : ε → Prop) : Except ε α → Prop
  | .ok a => P a
  | .error e => Q e

theorem All.map {f : α → β} (hx : All P Q x) (hf : ∀ a, P a → R (f a)) : All R Q (x.map f) := by
  cases x with
  | error e => exact hx
  | ok a => exact hf a hx

theorem All.bind {f : α → Except ε β} (hx : All P Q x) (hf : ∀ a, P a → All R Q (f a)) :
    All R Q (x >>= f) := by
  cases x with
  | error e => exact hx
  | ok a => exact hf a hx

end ZigAdvisor.Except
