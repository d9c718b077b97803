import Tabular.Config.Settings
import Tabular.Model.Basic
import Tabular.Text.Letter
import Tabular.Text.LetterCase
import Tabular.Text.Lines
import Tabular.Text.Search

/-!
# Naming conventions

A good name consists of words with single spaces between them. Its significant words begin with
capital letters, and it holds no cryptic abbreviation and no special character. For a name that
breaks a rule a better one is suggested.
-/

namespace Tabular

open Text

/-- What a name names. -/
inductive ObjectKind where
  | table
  | measure
  | column
  deriving DecidableEq, Repr

def ObjectKind.word : ObjectKind → String
  | table => "table"
  | measure => "measure"
  | column => "column"

/-- A rule that a name breaks. -/
inductive NamingProblem where
  | outerBlanks
  | repeatedSpaces
  | mixedDelimiters
  | underscores
  | specialCharacters (chars : String)
  | abbreviation (word : String)
  | lowerCaseWords
  deriving DecidableEq, Repr

def NamingProblem.describe : NamingProblem → String
  | outerBlanks => "leading or trailing whitespace"
  | repeatedSpaces => "repeated spaces"
  | mixedDelimiters => "mixed '_' and space delimiters"
  | underscores => "underscore delimiters"
  | specialCharacters chars => "special characters '" ++ chars ++ "'"
  | abbreviation word => "abbreviation '" ++ word ++ "'"
  | lowerCaseWords => "lower-case words"

/-- An object whose name breaks rules, with a name that it could have. -/
structure NamingIssue where
  kind : ObjectKind
  /-- The table of a measure or a column. -/
  table : Option String
  name : String
  problems : List NamingProblem
  suggestedName : String
  deriving DecidableEq, Repr

def NamingIssue.describe (i : NamingIssue) : String :=
  let object :=
    match i.table with
    | some t => i.kind.word ++ " " ++ t ++ "[" ++ i.name ++ "]"
    | none => i.kind.word ++ " " ++ i.name
  object ++ ": " ++ "; ".intercalate (i.problems.map (·.describe)) ++ " (suggested: '" ++
    i.suggestedName ++ "')"

namespace Naming

def abbreviations : List (String × String) := [
  ("amt", "Amount"), ("qty", "Quantity"), ("cnt", "Count"), ("pct", "Percent"), ("yr", "Year"),
  ("mth", "Month"), ("avg", "Average"), ("num", "Number"), ("desc", "Description"),
  ("cust", "Customer"), ("prod", "Product")]

/-- Words that stay in lower case inside a name. -/
def minorWords : List String :=
  ["of", "by", "and", "or", "per", "vs", "to", "in", "the", "for"]

def allowedPunctuation : List Char := ['-', '%', '(', ')', '&', '.', '#', '/', ',']

def isSpecial (c : Char) : Bool :=
  !(isAlphanumeric c || c == ' ' || c == '_' || allowedPunctuation.contains c)

def isDelimiter (c : Char) : Bool := c == '_' || isBlank c

/-- The words of a name, without their special characters. -/
def nameWords (name : List Char) : List (List Char) :=
  ((splitOn isDelimiter name).map fun w => w.filter (!isSpecial ·)).filter (!·.isEmpty)

/-- Whether a word should begin with a capital letter: it begins with a small letter, has no capital
letter, and is no minor word unless it comes first. -/
def needsCapital (index : Nat) (word : List Char) : Bool :=
  (word.head?.any isLowercase) && !word.any isUppercase &&
    (index == 0 || !minorWords.contains (String.ofList word))

/-- A word with a capital first letter. -/
def capitalize : List Char → List Char
  | [] => []
  | c :: cs => upperChar c ++ cs

/-- The allowed abbreviations in lower case. -/
def allowedForms (l : Limits) : List (List Char) :=
  l.allowedAbbreviations.map fun a => lower a.toList

/-- The word that an abbreviation stands for, unless it is allowed. -/
def expansion? (l : Limits) (word : List Char) : Option String :=
  if (allowedForms l).contains (lower word) then none
  else abbreviations.lookup (String.ofList (lower word))

def improve (l : Limits) (index : Nat) (word : List Char) : List Char :=
  match expansion? l word with
  | some full => full.toList
  | none => if needsCapital index word then capitalize word else word

def suggest (l : Limits) (words : List (List Char)) : List Char :=
  joinWith [' '] (words.mapIdx (improve l))

def problemIf (condition : Bool) (p : NamingProblem) : List NamingProblem :=
  if condition then [p] else []

/-- The problem with underscores, if there are any. -/
def underscoreProblem (name : List Char) : List NamingProblem :=
  if !name.contains '_' then []
  else if (trim name).contains ' ' then [.mixedDelimiters]
  else [.underscores]

def problems (l : Limits) (name : List Char) : List NamingProblem :=
  let special := name.filter isSpecial
  let words := nameWords name
  problemIf (name != trim name) .outerBlanks ++
    problemIf (occursIn [' ', ' '] name) .repeatedSpaces ++
    underscoreProblem name ++
    problemIf (!special.isEmpty) (.specialCharacters (String.ofList special)) ++
    (words.filter fun w => (expansion? l w).isSome).map (fun w => .abbreviation (String.ofList w)) ++
    problemIf ((words.mapIdx needsCapital).contains true) .lowerCaseWords

/-- The name suggested for a name: better words, or the trimmed name if it has no words. -/
def suggestion (l : Limits) (name : List Char) : List Char :=
  let s := suggest l (nameWords name)
  if s.isEmpty then trim name else s

def check (l : Limits) (kind : ObjectKind) (table : Option String) (name : String) :
    Option NamingIssue :=
  match problems l name.toList with
  | [] => none
  | ps => some ⟨kind, table, name, ps, String.ofList (suggestion l name.toList)⟩

def checkTable (l : Limits) (t : Table) : List NamingIssue :=
  (check l .table none t.name).toList ++
    t.measures.filterMap (fun m => check l .measure (some t.name) m.name) ++
    t.columns.filterMap (fun c => check l .column (some t.name) c.name)

def checkModel (l : Limits) (m : SemanticModel) : List NamingIssue :=
  m.tables.flatMap (checkTable l)

end Naming

end Tabular
