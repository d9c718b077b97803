import Tabular.Analysis.Quality
import Tabular.Decimal.Text

/-!
# Recommendations

Every part of the quality that falls short of its limit gives a recommendation, the most urgent
first. At most five are given, and a remark tells that there are more.
-/

namespace Tabular

open Decimal

namespace Recommendation

def adviseIf (condition : Bool) (advice : String) : List String :=
  if condition then [advice] else []

/-- The number of relationships that lack a cardinality, recovered from their share. -/
def missingCardinalities (q : Quality) : Nat :=
  q.totalRelationships -
    (q.relationshipCompleteness * Float.ofNat q.totalRelationships).round.toUInt64.toNat

def all (l : Limits) (q : Quality) : List String :=
  adviseIf (0 < q.cycleCount)
      ("Break " ++ toString q.cycleCount ++
        " circular measure dependencies; they fail at query time") ++
    adviseIf (0 < q.errorCount)
      ("Fix " ++ toString q.errorCount ++
        " error-level DAX issues, starting with divisions that should use DIVIDE") ++
    adviseIf (5 < q.warningCount)
      ("Review " ++ toString q.warningCount ++
        " DAX warnings (nested conditions, IFERROR, FILTER over ALL)") ++
    adviseIf (q.relationshipCompleteness < 1.0)
      ("Declare explicit cardinality on " ++ toString (missingCardinalities q) ++
        " relationships") ++
    adviseIf (Float.ofNat l.moderateThreshold ≤ q.averageComplexity)
      ("Simplify complex measures (average complexity " ++ fixedText 1 q.averageComplexity ++
        ") with variables and base measures") ++
    adviseIf (q.documentationCoverage < l.coverageThreshold)
      ("Add descriptions to measures: only " ++ fixedText 0 (q.documentationCoverage * 100) ++
        "% are documented") ++
    adviseIf (q.displayFolderCoverage < l.coverageThreshold)
      ("Organize measures into display folders: " ++ fixedText 0 (q.displayFolderCoverage * 100) ++
        "% are assigned") ++
    adviseIf (0 < q.namingIssueCount)
      ("Rename " ++ toString q.namingIssueCount ++ " objects to follow naming conventions")

/-- What is said when there is nothing to recommend. -/
def praise : List String := [
  "Model quality looks good! Keep documenting new measures",
  "Keep monitoring quality metrics as the model grows"]

def more : String := "Additional recommendations available - focus on top priorities first"

end Recommendation

def Quality.recommendations (l : Limits) (q : Quality) : List String :=
  let all := Recommendation.all l q
  if all.isEmpty then Recommendation.praise
  else if 5 < all.length then all.take 5 ++ [Recommendation.more]
  else all

end Tabular
