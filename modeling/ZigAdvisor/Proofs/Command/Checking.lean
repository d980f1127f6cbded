import ZigAdvisor.Proofs.Command.Failures
import ZigAdvisor.Proofs.Pattern.Returns
import ZigAdvisor.Proofs.Rpc.ToolCalls
import ZigAdvisor.Proofs.Tool.Sections

/-!
# Two ways to review a file

A file can be checked from the command line, or its text can be sent to the server. Checking reads
line feeds for carriage returns, the server takes the text as it is. So the reports are the same
exactly if no classifier minds, and they are for every text without carriage returns. The reviews
of safety, of the build system and of C interoperability never mind; those of style, idioms,
performance, concurrency, metaprogramming, tests, file figures and the language version do for some
texts (`review_withNewlines_iff`).
-/

namespace ZigAdvisor

namespace Metric

theorem measure_withNewlines {table : List Metric}
    (h : ∀ m ∈ table, m.pattern.overlooksReturns = true) (t : Text) :
    measure table t.withNewlines = measure table t :=
  List.map_congr_left fun m hm => congrArg (m.name, ·) (Pattern.count_withNewlines (h m hm) t)

end Metric

theorem BuildIssue.isIn_withNewlines (i : BuildIssue) (t : Text) :
    i.isIn t.withNewlines = i.isIn t := by
  cases i with
  | oldBuilder | setTarget | setBuildMode => exact Text.contains_withNewlines (by decide +kernel) t
  | fileImport | pathLiteral | stepModule =>
    exact Pattern.occursIn_withNewlines (by decide +kernel) t
  | noTargetOptions | noOptimizeOption | noTest | noInstall =>
    exact congrArg (!·) (Text.contains_withNewlines (by decide +kernel) t)

theorem BuildSystem.auditScript_withNewlines (t : Text) :
    auditScript t.withNewlines = auditScript t := by
  have hissues : BuildScript.issues t.withNewlines = BuildScript.issues t :=
    List.filter_congr fun i _ => i.isIn_withNewlines t
  have hentry : entryPoint.occursIn t.withNewlines = entryPoint.occursIn t :=
    Pattern.occursIn_withNewlines (by decide +kernel) t
  rw [auditScript, auditScript, hissues, hentry]

namespace Classifier

variable {c : Classifier}

theorem review_withNewlines {code : Text}
    (hmeasure : c.measure code.withNewlines = c.measure code)
    (haudit : c.audit code.withNewlines = c.audit code) :
    c.review code.withNewlines = c.review code := by
  rw [review, review, classify, classify, ruleFindings, ruleFindings, hmeasure, haudit]

theorem not_overlooks {code : Text} (h : c.review code.withNewlines ≠ c.review code) :
    ¬ ∀ code : Text, c.review code.withNewlines = c.review code := fun hall => h (hall code)

/-- So many line ends of two code points that a bounded repeat reaches over them only once they are
read as one code point each. -/
def longGap : Text := (List.replicate 100 ([('\r' : CodePoint), '\n'] : Text)).flatten

/-- Three classifiers make nothing of carriage returns. The others do: where an end of line is
looked for, or a code point other than a line feed, or a bounded number of code points. -/
theorem review_withNewlines_iff (hc : c ∈ registry) :
    (∀ code : Text, c.review code.withNewlines = c.review code) ↔
      c.name ∈ ["safety", "build_system", "interop"] := by
  rw [registry] at hc
  simp only [List.mem_cons, List.not_mem_nil, or_false] at hc
  rcases hc with rfl | rfl | rfl | rfl | rfl | rfl | rfl | rfl | rfl | rfl | rfl
  · have h : Style.classifier.review (Text.withNewlines "a \r\n") ≠
        Style.classifier.review "a \r\n" := by decide +kernel
    exact iff_of_false (not_overlooks h) (by decide)
  · have h : Idioms.classifier.review (Text.withNewlines (.concat ["if(", longGap, "a)|a|"])) ≠
        Idioms.classifier.review (.concat ["if(", longGap, "a)|a|"]) := by decide +kernel
    exact iff_of_false (not_overlooks h) (by decide)
  · refine iff_of_true (fun code => review_withNewlines ?_ rfl) (by decide)
    exact Metric.measure_withNewlines (by decide +kernel) code
  · have h : Performance.classifier.review (Text.withNewlines "const a=\rstd.hash") ≠
        Performance.classifier.review "const a=\rstd.hash" := by decide +kernel
    exact iff_of_false (not_overlooks h) (by decide)
  · have h : Concurrency.classifier.review (Text.withNewlines "\rvar a;Thread.Pool") ≠
        Concurrency.classifier.review "\rvar a;Thread.Pool" := by decide +kernel
    exact iff_of_false (not_overlooks h) (by decide)
  · have h : Metaprogramming.classifier.review
          (Text.withNewlines (.concat ["fn f(type", longGap, ")type"])) ≠
        Metaprogramming.classifier.review (.concat ["fn f(type", longGap, ")type"]) := by
      decide +kernel
    exact iff_of_false (not_overlooks h) (by decide)
  · have h : Testing.classifier.review (Text.withNewlines "test \"\r\"\x7b") ≠
        Testing.classifier.review "test \"\r\"\x7b" := by decide +kernel
    exact iff_of_false (not_overlooks h) (by decide)
  · refine iff_of_true (fun code => ?_) (by decide)
    exact review_withNewlines (Metric.measure_withNewlines (by decide +kernel) code)
      (BuildSystem.auditScript_withNewlines code)
  · refine iff_of_true (fun code => review_withNewlines ?_ rfl) (by decide)
    exact Metric.measure_withNewlines (by decide +kernel) code
  · have h : FileMetrics.classifier.review (Text.withNewlines "test \"\r\"\x7b") ≠
        FileMetrics.classifier.review "test \"\r\"\x7b" := by decide +kernel
    exact iff_of_false (not_overlooks h) (by decide)
  · have h : Modernity.classifier.review
          (Text.withNewlines (.concat ["for(", longGap, "a)|a,b|"])) ≠
        Modernity.classifier.review (.concat ["for(", longGap, "a)|a,b|"]) := by decide +kernel
    exact iff_of_false (not_overlooks h) (by decide)

end Classifier

end ZigAdvisor

namespace ZigAdvisor.Command.Machine

open Rpc (Calls callOf content? toolResult)

variable {m : Machine} {file prompt text : Text} {source : Bytes} {s : Settings}
  {net : Http.Outcome} {message : Json} {args : Arguments}

/-- Checking a text prints the review of what is read of it. -/
theorem check_eq (hsource : m.HasSource file source) (htext : Utf8.decode source = .ok text)
    (prompt : Text) :
    (m.check file prompt).ending = .done 0 ∧
      (m.check file prompt).output = Tool.review text.withNewlines prompt ++ "\n" := by
  simp only [check, withSource, hsource.hasBytes, hsource.noNull, hsource.read, htext]
  exact ⟨rfl, rfl⟩

/-- A call with a text is answered with its review. -/
theorem content?_review (hcall : Calls message .getRecommendations args)
    (hcode : Json.find? args "code" = some (.str text))
    (hsize : (text.length : ℤ) ≤ s.maxCodeSize) :
    content? s net message =
      some (toolResult (Tool.review text ((args.text? "prompt").getD []))) := by
  have hrequire : args.requireCode s "code" = .ok text := by
    rw [Arguments.requireCode, Arguments.requireText_eq_ok.mpr hcode]
    exact if_neg (not_lt.mpr hsize)
  rw [hcall.content?_eq, Tool.run, hrequire]
  rfl

/-- Checking a file prints what a call with its text and the same prompt is answered with, exactly if
each classifier makes the same of the text with line feeds for carriage returns. So it does for
every text without carriage returns. What counts whole lines makes no difference, nor do the three
classifiers of `Classifier.review_withNewlines_iff`. -/
theorem check_prints_answer_iff (hsource : m.HasSource file source)
    (htext : Utf8.decode source = .ok text) (hcall : Calls message .getRecommendations args)
    (hcode : Json.find? args "code" = some (.str text))
    (hsize : (text.length : ℤ) ≤ s.maxCodeSize)
    (hprompt : (args.text? "prompt").getD [] = prompt) :
    (m.check file prompt).ending = .done 0 ∧
    ∃ answer, content? s net message = some (toolResult answer) ∧
      ((m.check file prompt).output = answer ++ "\n" ↔
        ∀ c ∈ Classifier.registry, c.review text.withNewlines = c.review text) ∧
      ((∀ c ∈ text, c ≠ ('\r' : CodePoint)) → (m.check file prompt).output = answer ++ "\n") ∧
      Text.lines text.withNewlines = Text.lines text := by
  obtain ⟨hends, hprints⟩ := check_eq hsource htext prompt
  have hanswer : content? s net message = some (toolResult (Tool.review text prompt)) := by
    rw [content?_review hcall hcode hsize, hprompt]
  refine ⟨hends, _, hanswer, ?_, ?_, Text.lines_withNewlines text⟩
  · rw [hprints, List.append_cancel_right_eq]
    exact Tool.review_inj
  · intro hreturns
    rw [hprints, Text.withNewlines_of_forall_ne hreturns]

def ofSource (source : Bytes) : Machine where
  files := ⟨[([""], .directory), (["", "work"], .directory), (["", "work", "main.zig"], .file source)]⟩
  directory := ["", "work"]
  home := ["", "home"]
  interpreter := "/usr/bin/python3"
  windows := false
  threshold := 20

theorem check_prints_answer_iff_plain :
    let text : Text := "var a = 1;\n"
    let args : Arguments := [("code", .str text), ("prompt", .str "safety")]
    let m := ofSource (Utf8.encode text)
    (m.HasSource "main.zig" (Utf8.encode text) ∧ Utf8.decode (Utf8.encode text) = .ok text ∧
      (text.length : ℤ) ≤ Settings.standard.maxCodeSize) ∧
    ∃ answer, content? .standard (.crash "reset") (callOf .getRecommendations args) =
        some (toolResult answer) ∧
      (m.check "main.zig" "safety").output = answer ++ "\n" := by
  intro text args m
  have hsource : m.HasSource "main.zig" (Utf8.encode text) := ⟨rfl, rfl, rfl⟩
  have htext : Utf8.decode (Utf8.encode text) = .ok text := Utf8.decode_encode (by decide)
  have hsize : (text.length : ℤ) ≤ Settings.standard.maxCodeSize := by decide
  have hcode : Json.find? args "code" = some (.str text) := rfl
  have hprompt : (args.text? "prompt").getD [] = "safety" := rfl
  have hreturns : ∀ c ∈ text, c ≠ ('\r' : CodePoint) := by decide
  obtain ⟨-, answer, hanswer, -, hprints, -⟩ :=
    check_prints_answer_iff hsource htext Rpc.calls_callOf hcode hsize hprompt
  exact ⟨⟨hsource, htext, hsize⟩, answer, hanswer, hprints hreturns⟩

/-- Line ends of two code points hide blanks before them from the server. -/
theorem check_prints_other :
    let text : Text := "a \r\n"
    let m := ofSource (Utf8.encode text)
    (m.HasSource "main.zig" (Utf8.encode text) ∧ Utf8.decode (Utf8.encode text) = .ok text ∧
      (text.length : ℤ) ≤ Settings.standard.maxCodeSize) ∧
    ∃ answer, content? .standard (.crash "reset")
        (callOf .getRecommendations [("code", .str text)]) = some (toolResult answer) ∧
      (m.check "main.zig" "").output ≠ answer ++ "\n" := by
  intro text m
  have hsource : m.HasSource "main.zig" (Utf8.encode text) := ⟨rfl, rfl, rfl⟩
  have htext : Utf8.decode (Utf8.encode text) = .ok text := Utf8.decode_encode (by decide)
  have hsize : (text.length : ℤ) ≤ Settings.standard.maxCodeSize := by decide
  obtain ⟨-, hprints⟩ := check_eq hsource htext ""
  refine ⟨⟨hsource, htext, hsize⟩, _, content?_review Rpc.calls_callOf rfl hsize, ?_⟩
  have hdiffers : Style.classifier.review "a \n" ≠ Style.classifier.review "a \r\n" := by
    decide +kernel
  rw [hprints, ne_eq, List.append_cancel_right_eq]
  intro hsame
  exact hdiffers (Tool.review_inj.mp hsame _ List.mem_cons_self)

end ZigAdvisor.Command.Machine
