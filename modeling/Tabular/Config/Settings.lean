import Tabular.Model.Failure

/-!
# Settings

How a model is laid out in its directory, how many loaded projects are kept, and the limits that the
analyses apply. Every setting has a default.
-/

namespace Tabular

/-- The files and directories of a model. -/
structure Layout where
  /-- Follows the project path without its extension. -/
  modelDirSuffix : String := ".SemanticModel"
  definitionDir : String := "definition"
  tablesDir : String := "tables"
  tableExtension : String := "tmdl"
  relationshipsFile : String := "relationships.tmdl"
  modelFile : String := "model.tmdl"
  /-- The name of a model that gives itself none. -/
  defaultModelName : String := "Model"
  deriving DecidableEq, Repr

/-- The limits of the analyses. -/
structure Limits where
  /-- Conditions may nest this deep. -/
  maxIfNesting : Nat := 3
  /-- The least score of a formula that is not simple. -/
  moderateThreshold : Nat := 30
  /-- The least score of a complex formula. -/
  complexThreshold : Nat := 60
  /-- The least share of documented or foldered measures. -/
  coverageThreshold : Float := 0.5
  /-- Abbreviations that names may contain. -/
  allowedAbbreviations : List String := ["YTD", "MTD", "QTD", "KPI", "ID"]
  deriving Repr

/-- All settings. -/
structure Settings where
  layout : Layout := {}
  /-- The number of projects kept; without a number all are. -/
  cacheCapacity : Option Nat := none
  limits : Limits := {}
  deriving Repr

/-- Checks the settings against each other; the first fault counts. -/
def Settings.validate (s : Settings) : Except ConfigFault Unit :=
  let l := s.limits
  if l.complexThreshold ≤ l.moderateThreshold then
    .error (.thresholdOrder l.moderateThreshold l.complexThreshold)
  else if 100 < l.complexThreshold then .error .thresholdRange
  else if !(0.0 ≤ l.coverageThreshold && l.coverageThreshold ≤ 1.0) then .error .coverageRange
  else if s.cacheCapacity = some 0 then .error .emptyCache
  else .ok ()

end Tabular
