import Mathlib.Tactic
import ZigAdvisor.Rpc.Session

/-!
# Records of a message

Whatever a message asks for, no record that is written while it is handled begins like the record
of a line that ends the session. Each record begins with a fixed text, and none of these texts goes
together with the beginning of the other.
-/

namespace ZigAdvisor

namespace Text

variable {word start rest : Text}

def Parts (word start : Text) : Prop := ¬ word <+: start ∧ ¬ start <+: word

instance : Decidable (Parts word start) := inferInstanceAs (Decidable (_ ∧ _))

theorem Parts.not_prefix_append (h : Parts word start) (rest : Text) :
    ¬ word <+: start ++ rest := by
  intro hword
  rcases List.prefix_or_prefix_of_prefix hword (List.prefix_append start rest) with hp | hp
  · exact h.1 hp
  · exact h.2 hp

end Text

namespace Traced

variable {α β : Type} {P : LogRecord → Prop}

def Logs (P : LogRecord → Prop) (x : Traced α) : Prop := ∀ r ∈ x.records, P r

@[simp] theorem logs_pure (a : α) : Logs P (pure a : Traced α) := by
  intro r hr
  cases hr

@[simp] theorem logs_bind {first : Traced α} {next : α → Traced β} :
    Logs P (first >>= next) ↔ Logs P first ∧ Logs P (next first.value) :=
  List.forall_mem_append

@[simp] theorem logs_log {level : LogLevel} {message : Text} :
    Logs P (log level message) ↔ P ⟨level, message⟩ := by
  simp [Logs]

@[simp] theorem logs_send (request : Http.Request) : Logs P (send request) := by
  intro r hr
  cases hr

theorem map_id (x : Traced α) : id <$> x = x := by
  change Traced.mk x.value (x.records ++ []) (x.requests ++ []) = x
  rw [List.append_nil, List.append_nil]

theorem bind_assoc {γ : Type} (x : Traced α) (f : α → Traced β) (g : β → Traced γ) :
    x >>= f >>= g = x >>= fun a => f a >>= g := by
  change Traced.mk _ ((_ ++ _) ++ _) ((_ ++ _) ++ _) = _
  rw [List.append_assoc, List.append_assoc]
  rfl

instance : LawfulMonad Traced := .mk' Traced map_id (fun _ _ => rfl) bind_assoc

@[simp] theorem records_map (f : α → β) (x : Traced α) : (f <$> x).records = x.records :=
  List.append_nil _

theorem logs_mapM {f : α → Traced β} {items : List α} (h : ∀ a ∈ items, Logs P (f a)) :
    Logs P (items.mapM f) := by
  induction items with
  | nil => simp
  | cons a items ih =>
    rw [List.forall_mem_cons] at h
    rw [List.mapM_cons]
    simp only [logs_bind, logs_pure, and_true]
    exact ⟨h.1, ih h.2⟩

theorem logs_of_map_eq_ok {ε : Type} {x : Except ε α} {f : α → Traced β} {y : Traced β}
    (h : x.map f = .ok y) (hf : ∀ a, Logs P (f a)) : Logs P y := by
  cases x with
  | error e => cases h
  | ok a =>
    rw [← Except.ok.inj h]
    exact hf a

end Traced

namespace Rpc

variable {s : Settings} {net : Http.Outcome}

def failureStart : Text := "Error processing message"

def Quiet (r : LogRecord) : Prop := ¬ failureStart <+: r.message

theorem quiet_concat {level : LogLevel} {start : Text} (h : Text.Parts failureStart start)
    (parts : List Text) : Quiet ⟨level, .concat (start :: parts)⟩ :=
  h.not_prefix_append _

theorem quiet_reviewTraced {c : Classifier}
    (h : c = Optimization.classifier ∨ c ∈ Classifier.registry) (code : Text) :
    (c.reviewTraced code).Logs Quiet := by
  have hparts : ∀ c ∈ Optimization.classifier :: Classifier.registry,
      Text.Parts failureStart c.name := by decide
  simp only [Classifier.reviewTraced, Traced.logs_bind, Traced.logs_log, Traced.logs_pure, and_true]
  exact quiet_concat (hparts c (List.mem_cons.mpr h)) _

theorem quiet_chosenMode (requested : Option Json) : (Tool.chosenMode requested).Logs Quiet := by
  unfold Tool.chosenMode
  split
  · exact Traced.logs_pure _
  · exact Traced.logs_pure _
  · split
    · exact Traced.logs_pure _
    · simp only [Traced.logs_bind, Traced.logs_log, Traced.logs_pure, and_true]
      exact quiet_concat (by decide) _

theorem quiet_optimize (code : Text) (requested : Option Json) :
    (Tool.optimize code requested).Logs Quiet := by
  simp only [Tool.optimize, Traced.logs_bind, Traced.logs_pure, and_true]
  exact ⟨quiet_chosenMode requested, quiet_reviewTraced (.inl rfl) code⟩

theorem quiet_recommend (code prompt : Text) :
    (Tool.recommend Classifier.registry code prompt).Logs Quiet := by
  simp only [Tool.recommend, Traced.logs_bind, Traced.logs_pure, and_true]
  refine Traced.logs_mapM fun c hc => ?_
  simp only [Traced.logs_bind, Traced.logs_pure, and_true]
  exact quiet_reviewTraced (.inr hc) code

theorem quiet_run {tool : Tool} {args : Arguments} {y : Traced Text}
    (h : tool.run s args = .ok y) : y.Logs Quiet := by
  cases tool with
  | optimizeCode => exact Traced.logs_of_map_eq_ok h fun code => quiet_optimize code _
  | getRecommendations => exact Traced.logs_of_map_eq_ok h fun code => quiet_recommend code _
  | _ => exact Traced.logs_of_map_eq_ok h fun _ => Traced.logs_pure _

theorem quiet_call (tool : Tool) (args : Arguments) : (tool.call s args).Logs Quiet := by
  unfold Tool.call
  split
  · simp only [Traced.logs_bind, Traced.logs_log, Traced.logs_pure, and_true]
    exact quiet_concat (by decide) _
  · next hrun =>
    have hname : Text.Parts failureStart tool.name := by cases tool <;> decide
    simp only [Traced.logs_bind, Traced.logs_log, Traced.logs_pure, and_true]
    exact ⟨quiet_run hrun, quiet_concat hname _⟩

theorem quiet_callTool (name arguments : Json) : (callTool s name arguments).Logs Quiet := by
  unfold callTool
  split
  · exact Traced.logs_pure _
  · next tool _ =>
    split
    · next args =>
      simp only [Traced.logs_bind]
      refine ⟨quiet_call tool args, ?_⟩
      split <;> exact Traced.logs_pure _
    · exact Traced.logs_pure _

theorem logs_fetch {P : LogRecord → Prop} (request : Http.Request) :
    (Http.fetch net request).Logs P := by
  unfold Http.fetch
  simp only [Traced.logs_bind, Traced.logs_send, true_and]
  split
  · split
    · exact Traced.logs_pure _
    · split <;> exact Traced.logs_pure _
  · exact Traced.logs_pure _
  · exact Traced.logs_pure _

theorem quiet_documentation (page : DocSection) : (page.fetch s net).Logs Quiet := by
  unfold DocSection.fetch
  simp only [Traced.logs_bind, Traced.logs_log]
  refine ⟨quiet_concat (by decide) _, ?_⟩
  split
  · exact Traced.logs_pure _
  · simp only [Traced.logs_bind, logs_fetch, true_and]
    split
    · exact Traced.logs_pure _
    · simp only [Traced.logs_bind, Traced.logs_log, Traced.logs_pure, and_true]
      exact quiet_concat (by decide) _
    · exact Traced.logs_pure _

theorem logs_search {P : LogRecord → Prop} : (Repositories.search s net).Logs P := by
  unfold Repositories.search
  split
  · exact Traced.logs_pure _
  · split
    · exact Traced.logs_pure _
    · simp only [Traced.logs_bind, logs_fetch, true_and]
      split <;> exact Traced.logs_pure _

theorem quiet_repositories : (Repositories.fetch s net).Logs Quiet := by
  unfold Repositories.fetch
  simp only [Traced.logs_bind, Traced.logs_log, logs_search, true_and]
  refine ⟨?_, ?_⟩
  · change ¬ failureStart <+: Text.ofString "Fetching popular Zig repositories"
    decide
  · split
    · simp only [Traced.logs_bind, Traced.logs_log, Traced.logs_pure, and_true]
      exact quiet_concat (by decide) _
    · exact Traced.logs_pure _
    · split
      · exact Traced.logs_pure _
      · simp only [Traced.logs_bind, Traced.logs_log, Traced.logs_pure, and_true]
        change ¬ failureStart <+: Text.ofString _
        decide

theorem quiet_read (r : Resource) : (r.read s net).Logs Quiet := by
  cases r with
  | documentation page => exact quiet_documentation page
  | repositories => exact quiet_repositories
  | practices => exact Traced.logs_pure _
  | troubleshooting => exact Traced.logs_pure _
  | examples => exact Traced.logs_pure _

theorem quiet_readResource (uri : Json) : (readResource s net uri).Logs Quiet := by
  unfold readResource
  split
  · split
    · exact Traced.logs_pure _
    · next r _ =>
      simp only [Traced.logs_bind]
      refine ⟨quiet_read r, ?_⟩
      split
      · exact Traced.logs_pure _
      · exact Traced.logs_pure _
      · simp only [Traced.logs_bind, Traced.logs_log, Traced.logs_pure, and_true]
        exact quiet_concat (by decide) _
  · exact Traced.logs_pure _

theorem quiet_answer (method : Text) (params : Json) : (answer s net method params).Logs Quiet := by
  unfold answer
  split_ifs
  · exact Traced.logs_pure _
  · exact Traced.logs_pure _
  · exact Traced.logs_pure _
  · split
    · exact quiet_callTool _ _
    · exact Traced.logs_pure _
  · exact Traced.logs_pure _
  · exact quiet_readResource _
  · exact Traced.logs_pure _

/-- No message is recorded as one that ends the session. -/
theorem quiet_handle (m : Json) : (handle s net m).Logs Quiet := by
  unfold handle
  split
  · split
    · exact Traced.logs_pure _
    · split
      · simp only [Traced.logs_bind, Traced.logs_log, Traced.logs_pure, and_true]
        exact quiet_concat (by decide) _
      · simp only [Traced.logs_bind, Traced.logs_pure, and_true]
        exact quiet_answer _ _
  · exact Traced.logs_pure _

end Rpc

end ZigAdvisor
