import Tabular.Export
import Tabular.Proofs.Formula.Enclosed
import Tabular.Proofs.Text.Lines

/-!
# What a script defines

In the script of a table comments stand between formulas. A line of it that ends outside of literals,
block comments and names leads back to the top level, so the lines can be read one by one: of a
comment nothing is left, and of a definition the name and what is left of the formula.
-/

namespace Tabular

open Text

namespace Formula

/-- The text ends outside of literals, block comments and names. It may end in a comment that runs
to the end of its line. -/
def EndsOutside (s : List Char) : Prop :=
  placeAfter .code s = .code ∨ placeAfter .code s = .lineComment

instance (s : List Char) : Decidable (EndsOutside s) :=
  inferInstanceAs (Decidable (placeAfter .code s = .code ∨ placeAfter .code s = .lineComment))

variable {s : List Char} {ls : List (List Char)}

/-- What follows on the next line is read from the top level. -/
theorem EndsOutside.strip_append_newline (h : EndsOutside s) (t : List Char) :
    strip (s ++ '\n' :: t) = strip s ++ '\n' :: strip t := by
  have hnext : stripFrom (placeAfter .code s) ('\n' :: t) = '\n' :: strip t := by
    obtain h | h := h
    · rw [h, stripFrom_code_cons] <;> simp [strip]
    · rw [h, stripFrom, if_pos rfl, strip]
  rw [strip, stripFrom_append_blank (by decide), hnext]
  rfl

/-- Lines that end outside are read one by one. -/
theorem strip_joinWith_newline (h : ∀ l ∈ ls, EndsOutside l) :
    strip (joinWith ['\n'] ls) = joinWith ['\n'] (ls.map strip) := by
  induction ls with
  | nil => rfl
  | cons l ls ih =>
    obtain ⟨hl, hls⟩ := List.forall_mem_cons.mp h
    by_cases hn : ls = []
    · rw [hn, List.map_singleton, joinWith_singleton, joinWith_singleton]
    · have hm : ls.map strip ≠ [] := by simpa using hn
      rw [joinWith_cons hn, List.append_assoc, List.singleton_append, hl.strip_append_newline,
        ih hls, List.map_cons, joinWith_cons hm, List.append_assoc, List.singleton_append]

theorem placeAfter_lineComment (h : '\n' ∉ s) : placeAfter .lineComment s = .lineComment := by
  induction s with
  | nil => rfl
  | cons c s ih =>
    rw [List.mem_cons, not_or] at h
    rw [placeAfter, if_neg (Ne.symm h.1), ih h.2]

theorem placeAfter_bracket (h : ']' ∉ s) (t : List Char) :
    placeAfter .bracket (s ++ ']' :: t) = placeAfter .code t := by
  induction s with
  | nil => simp [placeAfter]
  | cons c s ih =>
    rw [List.mem_cons, not_or] at h
    rw [List.cons_append, placeAfter, if_neg (Ne.symm h.1), ih h.2]

end Formula

open Formula

section Line

variable {text name formula : List Char}

def codeOf (line : List Char) : List Char := dropBlanks (strip line)

theorem endsOutside_commentLine (h : '\n' ∉ text) : EndsOutside (commentLine text) := by
  have hs : '\n' ∉ ' ' :: text := by simpa using h
  exact .inr (placeAfter_lineComment hs)

theorem codeOf_commentLine (h : '\n' ∉ text) : codeOf (commentLine text) = [] := by
  have hs : '\n' ∉ ' ' :: text := by simpa using h
  have hrest : stripFrom .lineComment (' ' :: text) = [] := by
    simpa [stripFrom] using stripFrom_lineComment (q := []) hs (.inl rfl)
  have hstrip : strip (commentLine text) = ' ' :: stripFrom .lineComment (' ' :: text) := by
    simp [commentLine, strip, stripFrom]
  rw [codeOf, hstrip, hrest]
  decide

def definitionLine (name formula : List Char) : List Char :=
  '[' :: (name ++ ']' :: ' ' :: '=' :: ' ' :: formula)

theorem endsOutside_definitionLine (hn : ']' ∉ name) (hf : EndsOutside formula) :
    EndsOutside (definitionLine name formula) := by
  have hp : placeAfter .code (definitionLine name formula) = placeAfter .code formula := by
    rw [definitionLine, placeAfter, placeAfter_bracket hn]
    simp [placeAfter]
  rwa [EndsOutside, hp]

theorem codeOf_definitionLine (hn : ']' ∉ name) (formula : List Char) :
    codeOf (definitionLine name formula) =
      dropBlanks ('[' :: (name ++ ']' :: '=' :: strip formula)) := by
  have hstrip : strip (definitionLine name formula) =
      '[' :: (name ++ ']' :: ' ' :: '=' :: ' ' :: strip formula) := by
    rw [definitionLine, strip, stripFrom, stripFrom_bracket hn]
    simp [strip, stripFrom]
  have hspace : isBlank ' ' = true := by decide
  rw [codeOf, hstrip]
  simp [dropBlanks, List.filter_cons, hspace]

end Line

namespace Measure

/-- What a measure defines: under its name what is left of its formula. -/
def definition (m : Measure) : List Char :=
  '[' :: (m.name.toList ++ ']' :: '=' :: strip m.expression.toList)

/-- A measure that a script can carry. Its name ends where its bracket closes, its format stands on
one line, and its formula does not go on into what follows. -/
structure IsScriptable (m : Measure) : Prop where
  name : ']' ∉ m.name.toList
  format : ∀ f ∈ m.formatString, '\n' ∉ f.toList
  formula : EndsOutside m.expression.toList

variable {m : Measure}

theorem scriptLines_eq (m : Measure) :
    m.scriptLines = (lines m.title.toList).map commentLine ++
      definitionLine m.name.toList m.expression.toList ::
        (m.formatString.toList.map fun f => commentLine ("Format: " ++ f).toList) ++ [[]] := by
  simp [scriptLines, definitionLine]

theorem IsScriptable.newline_notMem_format (h : m.IsScriptable) :
    ∀ f ∈ m.formatString.toList, '\n' ∉ ("Format: " ++ f).toList := by
  intro f hf
  simpa using h.format f (by simpa using hf)

theorem IsScriptable.endsOutside (h : m.IsScriptable) : ∀ l ∈ m.scriptLines, EndsOutside l := by
  intro l hl
  rw [scriptLines_eq, List.mem_append, List.mem_append, List.mem_map, List.mem_cons, List.mem_map,
    List.mem_singleton] at hl
  obtain (⟨text, ht, rfl⟩ | rfl | ⟨f, hf, rfl⟩) | rfl := hl
  · exact endsOutside_commentLine (newline_notMem_of_mem_lines ht)
  · exact endsOutside_definitionLine h.name h.formula
  · exact endsOutside_commentLine (h.newline_notMem_format f hf)
  · exact .inl rfl

/-- Of the lines that a measure gives its definition is left. -/
theorem IsScriptable.code_scriptLines (h : m.IsScriptable) :
    m.scriptLines.flatMap codeOf = dropBlanks m.definition := by
  have htitle : ((lines m.title.toList).map commentLine).flatMap codeOf = [] := by
    rw [List.flatMap_eq_nil_iff, List.forall_mem_map]
    exact fun text ht => codeOf_commentLine (newline_notMem_of_mem_lines ht)
  have hformat : (m.formatString.toList.map fun f => commentLine ("Format: " ++ f).toList).flatMap
      codeOf = [] := by
    rw [List.flatMap_eq_nil_iff, List.forall_mem_map]
    exact fun f hf => codeOf_commentLine (h.newline_notMem_format f hf)
  rw [scriptLines_eq, List.flatMap_append, List.flatMap_append, List.flatMap_cons, htitle, hformat,
    codeOf_definitionLine h.name]
  simp [codeOf, strip, stripFrom, definition, dropBlanks]

end Measure

namespace Table

structure IsScriptable (t : Table) : Prop where
  name : '\n' ∉ t.name.toList
  measures : ∀ m ∈ t.measures, m.IsScriptable

/-- The table with other descriptions of its measures. -/
def describe (description : Measure → Option String) (t : Table) : Table :=
  { t with measures := t.measures.map fun m => { m with description := description m } }

variable {t : Table}

theorem IsScriptable.describe (h : t.IsScriptable) (description : Measure → Option String) :
    (t.describe description).IsScriptable where
  name := h.name
  measures := by
    rw [Table.describe, List.forall_mem_map]
    exact fun m hm => ⟨(h.measures m hm).name, (h.measures m hm).format, (h.measures m hm).formula⟩

theorem IsScriptable.endsOutside (h : t.IsScriptable) : ∀ l ∈ t.scriptLines, EndsOutside l := by
  have hname : '\n' ∉ ("DAX Measures for " ++ t.name).toList := by simpa using h.name
  intro l hl
  rw [scriptLines, List.mem_append, List.mem_flatMap] at hl
  obtain hl | ⟨m, hm, hl⟩ := hl
  · simp only [List.mem_cons, List.not_mem_nil, or_false] at hl
    obtain rfl | rfl | rfl := hl
    · exact endsOutside_commentLine hname
    · exact endsOutside_commentLine (by decide)
    · exact .inl rfl
  · exact (h.measures m hm).endsOutside l hl

/-- A script says what its lines say, and these what the measures define. -/
theorem IsScriptable.code_script (h : t.IsScriptable) :
    dropBlanks (strip t.script.toList) = dropBlanks (t.measures.flatMap Measure.definition) := by
  have hname : '\n' ∉ ("DAX Measures for " ++ t.name).toList := by simpa using h.name
  have hhead : [commentLine ("DAX Measures for " ++ t.name).toList,
      commentLine "Generated by pbi-model-analyzer".toList, []].flatMap codeOf = [] := by
    rw [List.flatMap_cons, List.flatMap_cons, codeOf_commentLine hname, codeOf_commentLine (by decide)]
    rfl
  have hmeasures : (t.measures.flatMap (·.scriptLines)).flatMap codeOf =
      t.measures.flatMap fun m => dropBlanks m.definition := by
    rw [List.flatMap_assoc]
    exact List.flatMap_congr fun m hm => (h.measures m hm).code_scriptLines
  calc dropBlanks (strip t.script.toList)
      = t.scriptLines.flatMap codeOf := by
        rw [script, String.toList_ofList, strip_joinWith_newline h.endsOutside,
          dropBlanks_joinWith (by decide), List.flatMap_map]
        rfl
    _ = t.measures.flatMap fun m => dropBlanks m.definition := by
        rw [scriptLines, List.flatMap_append, hhead, hmeasures, List.nil_append]
    _ = dropBlanks (t.measures.flatMap Measure.definition) := by
        rw [dropBlanks, List.filter_flatMap]
        rfl

/-- A script carries nothing but the definitions of the measures, in order. Hence no description
changes what it defines. -/
theorem dropBlanks_strip_script (h : t.IsScriptable) :
    dropBlanks (strip t.script.toList) = dropBlanks (t.measures.flatMap Measure.definition) ∧
      ∀ description : Measure → Option String,
        dropBlanks (strip (t.describe description).script.toList) =
          dropBlanks (strip t.script.toList) := by
  refine ⟨h.code_script, fun description => ?_⟩
  rw [(h.describe description).code_script, h.code_script, Table.describe, List.flatMap_map]
  rfl

/-- Two measures between texts that look like code, the first of which ends in a comment. -/
def cluttered : Table where
  name := "Sales [EU] -- 'net"
  measures := [
    { name := "Total /* 'Net"
      expression := "SUM(Sales[Amount]) -- [Old] \""
      description := some "Not [Other] = 1\n\"open /* ]\n  [Fake] = 'x"
      formatString := some "\"€\" #,0; /* [x" },
    { name := "Rate", expression := "\"a -- b\" & [Total /* 'Net] // half /* done" }]

theorem dropBlanks_strip_script_cluttered :
    cluttered.IsScriptable ∧
      String.ofList (dropBlanks (strip cluttered.script.toList)) =
        "[Total/*'Net]=SUM(Sales[Amount])[Rate]=\"\"&[Total/*'Net]" ∧
      dropBlanks (strip (cluttered.describe fun _ => some "[A] = 1\n\"").script.toList) =
        dropBlanks (strip cluttered.script.toList) := by
  have h : cluttered.IsScriptable := ⟨by decide, by
    intro m hm
    simp only [cluttered, List.mem_cons, List.not_mem_nil, or_false] at hm
    obtain rfl | rfl := hm
    · exact ⟨by decide, by decide, by decide⟩
    · exact ⟨by decide, by decide, by decide⟩⟩
  obtain ⟨hcode, hdescribe⟩ := dropBlanks_strip_script h
  refine ⟨h, ?_, hdescribe _⟩
  rw [hcode]
  decide +kernel

end Table

end Tabular
