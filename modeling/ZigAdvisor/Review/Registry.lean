import ZigAdvisor.Review.Style
import ZigAdvisor.Review.Idioms
import ZigAdvisor.Review.Safety
import ZigAdvisor.Review.Performance
import ZigAdvisor.Review.Concurrency
import ZigAdvisor.Review.Metaprogramming
import ZigAdvisor.Review.Testing
import ZigAdvisor.Review.BuildSystem
import ZigAdvisor.Review.Interop
import ZigAdvisor.Review.FileMetrics
import ZigAdvisor.Review.Modernity

/-!
# The classifiers of a full review
-/

namespace ZigAdvisor.Classifier

def registry : List Classifier := [
  Style.classifier, Idioms.classifier, Safety.classifier, Performance.classifier,
  Concurrency.classifier, Metaprogramming.classifier, Testing.classifier,
  BuildSystem.classifier, Interop.classifier, FileMetrics.classifier, Modernity.classifier]

end ZigAdvisor.Classifier
