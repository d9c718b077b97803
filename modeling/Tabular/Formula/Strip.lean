/-!
# Formulas without comments and literals

A formula is read from left to right. A string literal is reduced to its two quotes and a comment to
a space; bracketed names and quoted names are kept as they are, whatever they contain.
-/

namespace Tabular.Formula

/-- Where in a formula a character stands. -/
inductive Place where
  | code
  /-- In a bracketed name, which runs to the next closing bracket. -/
  | bracket
  /-- In a quoted name. A doubled quote inside closes the name and opens it again at once. -/
  | quote
  /-- In a string literal, in which a doubled quote stands for one. -/
  | literal
  /-- In a comment that ends before the next line feed. -/
  | lineComment
  /-- In a comment that ends with `*/`. -/
  | blockComment
  deriving DecidableEq, Repr

/-- What remains of a formula of which the first character stands at a place. -/
def stripFrom : Place → List Char → List Char
  | _, [] => []
  | .code, '"' :: cs => '"' :: '"' :: stripFrom .literal cs
  | .code, '[' :: cs => '[' :: stripFrom .bracket cs
  | .code, '\'' :: cs => '\'' :: stripFrom .quote cs
  | .code, '/' :: '/' :: cs => ' ' :: stripFrom .lineComment cs
  | .code, '-' :: '-' :: cs => ' ' :: stripFrom .lineComment cs
  | .code, '/' :: '*' :: cs => ' ' :: stripFrom .blockComment cs
  | .code, c :: cs => c :: stripFrom .code cs
  | .bracket, c :: cs => c :: stripFrom (if c = ']' then .code else .bracket) cs
  | .quote, c :: cs => c :: stripFrom (if c = '\'' then .code else .quote) cs
  | .literal, '"' :: '"' :: cs => stripFrom .literal cs
  | .literal, c :: cs => stripFrom (if c = '"' then .code else .literal) cs
  | .lineComment, c :: cs =>
    if c = '\n' then '\n' :: stripFrom .code cs else stripFrom .lineComment cs
  | .blockComment, '*' :: '/' :: cs => stripFrom .code cs
  | .blockComment, _ :: cs => stripFrom .blockComment cs

/-- The formula with its literals emptied and its comments blanked. -/
def strip (formula : List Char) : List Char := stripFrom .code formula

end Tabular.Formula
