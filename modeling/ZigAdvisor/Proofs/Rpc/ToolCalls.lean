import ZigAdvisor.Proofs.Review.Measured
import ZigAdvisor.Proofs.Rpc.Messages
import ZigAdvisor.Proofs.Tool.Acceptance
import ZigAdvisor.Proofs.Tool.Schema

/-!
# Calls of tools

A call is answered with one text exactly if the tool accepts the arguments, and refused for its
parameters otherwise. What conforms to the advertised schema is accepted, and what counts as left
out is answered as if it were.
-/

namespace ZigAdvisor

theorem Tool.value_call (s : Settings) (tool : Tool) (args : Arguments) :
    (tool.call s args).value = (tool.run s args).map Traced.value := by
  rw [call]
  cases tool.run s args <;> rfl

namespace Rpc

open Json (find? put erase Conforms)

variable {s : Settings} {net : Http.Outcome} {m m' : Json} {tool : Tool} {args args' : Arguments}

structure Calls (m : Json) (tool : Tool) (args : Arguments) : Prop where
  asks : Asks m "tools/call"
  name : argument? m "name" = some (.str tool.name)
  arguments : argument? m "arguments" = some (.obj args)

def callOf (tool : Tool) (args : Arguments) : Json :=
  .obj [("method", .str "tools/call"),
    ("params", .obj [("name", .str tool.name), ("arguments", .obj args)])]

theorem calls_callOf : Calls (callOf tool args) tool args := ⟨rfl, rfl, rfl⟩

def outcome : Except ArgumentFault Text → Content
  | .ok text => toolResult text
  | .error fault => .error .invalidParams fault.message

theorem value_callTool : (callTool s (.str tool.name) (.obj args)).value =
    outcome ((tool.run s args).map Traced.value) := by
  simp only [callTool, Tool.bind_ofName?, Traced.value_bind, Tool.value_call]
  cases tool.run s args <;> rfl

theorem Calls.content?_eq (h : Calls m tool args) :
    content? s net m = some (outcome ((tool.run s args).map Traced.value)) := by
  obtain ⟨p, hp, hname⟩ := Option.bind_eq_some_iff.mp h.name
  have harguments := h.arguments
  rw [argument?, hp, Option.bind_some] at harguments
  cases p with
  | obj members =>
    have hparams : params m = .obj members := by
      rw [params, hp]
      cases hblank : (Json.obj members).isBlank with
      | true => simp [member?_of_isBlank hblank] at hname
      | false => simp only [hblank, Bool.false_eq_true, if_false]
    have hparameter : parameter (.obj members) "name" = .str tool.name := by
      rw [← hparams, parameter_params, h.name]
      rfl
    have hfilled : filled members "arguments" = .obj args := by
      rw [filled, show find? members "arguments" = some (.obj args) from harguments]
      cases args <;> rfl
    rw [content?_of_asks h.asks (by decide), hparams, answer_callTool, hparameter, hfilled,
      value_callTool]
  | _ => exact absurd hname (by simp [Json.member?])

/-- A call is answered with one text if the tool accepts the arguments, and is refused for its
parameters if not. Arguments that conform to the advertised schema and are not too large are
accepted. An optional text of another type, an address of an entry too, and a mode that is none
are answered as if they were left out. No report asks for a figure that is not measured or divides
by zero. -/
theorem toolCall_answers (s : Settings) (net : Http.Outcome) (tool : Tool) (args : Arguments) :
    (∀ m, Calls m tool args →
      (tool.Accepts s args → ∃ text, content? s net m = some (.result (.obj [("content",
        .arr [.obj [("type", .str "text"), ("text", .str text)]])]))) ∧
      (¬ tool.Accepts s args → ∃ message, content? s net m =
        some (.error .invalidParams message))) ∧
    (Conforms tool.inputSchema (.obj args) → tool.WithinLimit s args → tool.Accepts s args) ∧
    (∀ p ∈ tool.parameters, ∀ v, tool.TakesAsLeftOut p v → ∀ m m',
      Calls m tool (put p.name v args) → Calls m' tool (erase p.name args) →
      content? s net m = content? s net m') ∧
    (∀ before entry after v, (∀ t, v ≠ .str t) → ∀ m m',
      Calls m .generateBuildZon
        (put "dependencies" (.arr (before ++ .obj (put "url" v entry) :: after)) args) →
      Calls m' .generateBuildZon
        (put "dependencies" (.arr (before ++ .obj (erase "url" entry) :: after)) args) →
      content? s net m = content? s net m') ∧
    FiguresMeasured := by
  refine ⟨fun m hm => ⟨fun haccepts => ?_, fun hrefuses => ?_⟩, Tool.accepts_of_conforms, ?_, ?_,
    figuresMeasured⟩
  · obtain ⟨answer, hrun⟩ := Tool.exists_run.mpr haccepts
    refine ⟨answer.value, ?_⟩
    rw [hm.content?_eq, hrun]
    rfl
  · cases hrun : tool.run s args with
    | ok answer => exact absurd (Tool.exists_run.mp ⟨answer, hrun⟩) hrefuses
    | error fault =>
      refine ⟨fault.message, ?_⟩
      rw [hm.content?_eq, hrun]
      rfl
  · intro p hp v hv m m' hm hm'
    rw [hm.content?_eq, hm'.content?_eq, Tool.value_run_put hp hv]
  · intro before entry after v hv m m' hm hm'
    rw [hm.content?_eq, hm'.content?_eq, Tool.run_put_url hv]

/-- A source text with no mode and with an unknown one, no prompt, and an address that is a
number. -/
theorem toolCall_answers_spoilt :
    (∃ text, content? .standard (.crash "reset")
      (callOf .optimizeCode [("code", .str "x")]) = some (toolResult text)) ∧
    content? .standard (.crash "reset")
        (callOf .optimizeCode [("code", .str "x"), ("optimizationLevel", .str "Fast")]) =
      content? .standard (.crash "reset") (callOf .optimizeCode [("code", .str "x")]) ∧
    (∃ message, content? .standard (.crash "reset") (callOf .generateCode []) =
      some (.error .invalidParams message)) ∧
    content? .standard (.crash "reset") (callOf .generateBuildZon [("dependencies",
        .arr [.obj [("name", .str "zap"), ("url", .int 3)]])]) =
      content? .standard (.crash "reset") (callOf .generateBuildZon [("dependencies",
        .arr [.obj [("name", .str "zap")]])]) := by
  have h := toolCall_answers .standard (.crash "reset")
  have hlimit : Tool.optimizeCode.WithinLimit .standard [("code", .str "x")] := by
    intro key _ hkey t ht
    obtain rfl : "code" = key := Option.some.inj hkey
    rw [← Json.str.inj (Option.some.inj ht)]
    decide
  have hmode : Tool.optimizeCode.TakesAsLeftOut
      ⟨"optimizationLevel", .mode, "Optimization level to target"⟩ (.str "Fast") := by
    refine ⟨by decide, fun mode heq => ?_⟩
    revert heq
    cases mode <;> simp
    all_goals decide
  have haccepts := (h .optimizeCode _).2.1 (Tool.conforms_required rfl "x") hlimit
  refine ⟨((h .optimizeCode _).1 _ calls_callOf).1 haccepts, ?_, ?_, ?_⟩
  · exact (h .optimizeCode [("code", .str "x")]).2.2.1 _ (List.mem_cons_of_mem _ List.mem_cons_self)
      _ hmode _ _ calls_callOf calls_callOf
  · exact ((h .generateCode _).1 _ calls_callOf).2 fun ⟨t, ht⟩ => by cases ht
  · exact (h .generateBuildZon []).2.2.2.1 [] [("name", .str "zap")] [] (.int 3) (by simp) _ _
      calls_callOf calls_callOf

end Rpc

end ZigAdvisor
