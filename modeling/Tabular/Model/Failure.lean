/-!
# Failures

What can go wrong when a model is loaded or asked for one of its objects, with the sentence that
reports it. Reading the definition files themselves never fails.
-/

namespace Tabular

/-- Why a configuration is refused. -/
inductive ConfigFault where
  /-- The file is not written in the TOML language, or a setting has the wrong type. -/
  | malformedToml
  /-- The file is not written in the YAML language, or a setting has the wrong type. -/
  | malformedYaml
  | thresholdOrder (moderate complex : Nat)
  | thresholdRange
  | coverageRange
  | emptyCache
  /-- A count is too great to be written. -/
  | integerRange
  deriving DecidableEq, Repr

namespace ConfigFault

def message : ConfigFault → String
  | malformedToml => "Failed to parse TOML"
  | malformedYaml => "Failed to parse YAML"
  | thresholdOrder moderate complex =>
    "moderate_threshold (" ++ toString moderate ++ ") must be below complex_threshold (" ++
      toString complex ++ ")"
  | thresholdRange => "complex_threshold must not exceed 100"
  | coverageRange => "coverage_threshold must be between 0 and 1"
  | emptyCache => "cache capacity must be positive"
  | integerRange => "Failed to serialize config: out-of-range value for u64 type"

end ConfigFault

/-- Why a model, or an object of it, is not available. -/
inductive Failure where
  | modelNotFound (path : String)
  | tableNotFound (name : String)
  | measureNotFound (name : String)
  | columnNotFound (table column : String)
  | unreadable (path cause : String)
  | badConfig (fault : ConfigFault)
  deriving DecidableEq, Repr

namespace Failure

def message : Failure → String
  | modelNotFound path => "Semantic model not found: " ++ path
  | tableNotFound name => "Table not found: " ++ name
  | measureNotFound name => "Measure not found: " ++ name
  | columnNotFound table column => "Column not found: " ++ table ++ "[" ++ column ++ "]"
  | unreadable path cause => "Failed to read " ++ path ++ ": " ++ cause
  | badConfig fault => "Invalid configuration: " ++ fault.message

def isLookupMiss : Failure → Bool
  | tableNotFound _ | measureNotFound _ | columnNotFound _ _ => true
  | modelNotFound _ | unreadable _ _ | badConfig _ => false

end Failure

end Tabular
