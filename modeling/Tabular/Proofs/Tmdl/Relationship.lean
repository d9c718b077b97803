import Tabular.Proofs.Tmdl.Line
import Tabular.Proofs.Tmdl.Record
import Tabular.Tmdl.Relationship

/-!
# Reading back written relationships

A relationship is written as a line that opens it, with its name if it has one, and a line for each
property. What is read from a written list of relationships are those with both of their ends: a
record that lacks one is dropped, and nothing of it reaches its neighbours.
-/

namespace Tabular.Relationship

open Text Tmdl

section Writing

/-- A property that is written for an end, if the end is there. -/
def endProperty (key table column : String) : List (String × List Char) :=
  if table = "" then [] else [(key, quoteName table.toList ++ '.' :: quoteName column.toList)]

def cardinalityProperty (key : String) (c : Option Cardinality) : List (String × List Char) :=
  (c.map fun c => (key, c.word.toList)).toList

def activityProperty (isActive : Bool) : List (String × List Char) :=
  if isActive then [] else [("isActive", "false".toList)]

def textProperty (key : String) (value : Option String) : List (String × List Char) :=
  (value.map fun s => (key, quoteValue s.toList)).toList

/-- The keys of a relationship with what is written for their values. -/
def properties (r : Relationship) : List (String × List Char) :=
  endProperty "fromColumn" r.fromTable r.fromColumn ++
    endProperty "toColumn" r.toTable r.toColumn ++
    cardinalityProperty "fromCardinality" r.fromCardinality ++
    cardinalityProperty "toCardinality" r.toCardinality ++
    activityProperty r.isActive ++
    textProperty "crossFilteringBehavior" r.crossFilteringBehavior ++
    textProperty "securityFilteringBehavior" r.securityFilteringBehavior ++
    textProperty "lineageTag" r.lineageTag

def header (r : Relationship) : List Char :=
  match r.name with
  | some name => declaration .relationship name none
  | none => Keyword.relationship.word.toList

def propertyRow (depth : Nat) (p : String × List Char) : Row :=
  ⟨depth, p.1.toList ++ ':' :: spaced p.2⟩

def rows (depth : Nat) (r : Relationship) : List Row :=
  ⟨0, r.header⟩ :: r.properties.map (propertyRow depth)

def render (i : Indent) (depth : Nat) (rs : List Relationship) : List Char :=
  unlines ((rs.flatMap (rows depth)).map (Row.write i))

end Writing

def IsComplete (r : Relationship) : Prop :=
  (r.fromTable ≠ "" ∧ r.fromColumn ≠ "") ∧ r.toTable ≠ "" ∧ r.toColumn ≠ ""

instance (r : Relationship) : Decidable r.IsComplete := inferInstanceAs (Decidable (_ ∧ _))

def IsEnd (table column : String) : Prop :=
  table ≠ "" ∧ column ≠ "" ∨ table = "" ∧ column = ""

instance (table column : String) : Decidable (IsEnd table column) :=
  inferInstanceAs (Decidable (_ ∨ _))

def texts (r : Relationship) : List String :=
  r.name.toList ++ [r.fromTable, r.fromColumn, r.toTable, r.toColumn] ++
    r.crossFilteringBehavior.toList ++ r.securityFilteringBehavior.toList ++ r.lineageTag.toList

/-- The texts of the relationship stand on one line, and neither end is there by half. -/
@[mk_iff]
structure IsPlain (r : Relationship) : Prop where
  oneLine : ∀ s ∈ r.texts, OneLine s
  fromEnd : IsEnd r.fromTable r.fromColumn
  toEnd : IsEnd r.toTable r.toColumn

instance (r : Relationship) : Decidable r.IsPlain := decidable_of_iff' _ (isPlain_iff r)

section Ends

variable {t c : List Char}

theorem trim_reference (t c : List Char) :
    trim (quoteName t ++ '.' :: quoteName c) = quoteName t ++ '.' :: quoteName c := by
  have ht := trim_eq_self_iff.mp (trim_quoteName t)
  have hc := trim_eq_self_iff.mp (trim_quoteName c)
  exact trim_append ht.1 (by simp [quoteName]) (trimEnd_append hc.2 (by simp [quoteName]) ['.'])
    (by simp)

theorem isColumnPart_quoteName (hc : c ≠ []) : isColumnPart (quoteName c) = true := by
  have hr : readQuoted (doubleQuotes c ++ ['\'']) = some (c, []) :=
    readQuoted_doubleQuotes c (by simp)
  simp [isColumnPart, isQuotedName, quoteName, hr, hc]

/-- A written end is split into its table and its column, whatever dots and quotes they hold. -/
theorem splitColumnReference_quoteName (ht : t ≠ []) (hc : c ≠ []) :
    splitColumnReference (quoteName t ++ '.' :: quoteName c) = some (t, c) := by
  have hr : readQuoted (doubleQuotes t ++ '\'' :: '.' :: quoteName c) =
      some (t, '.' :: quoteName c) := readQuoted_doubleQuotes t (by simp)
  have hq : referencedTable? (quoteName t ++ '.' :: quoteName c) = some (t, quoteName c) := by
    have he : quoteName t ++ '.' :: quoteName c =
        '\'' :: (doubleQuotes t ++ '\'' :: '.' :: quoteName c) := by
      simp [quoteName]
    rw [he, referencedTable?]
    simp [hr, ht]
  rw [splitColumnReference, trim_reference, hq]
  simp [isColumnPart_quoteName hc, unquoteName_quoteName, hc]

end Ends

section Reading

/-- The relationship with a written property read. -/
def enter (r : Relationship) (p : String × List Char) : Relationship :=
  r.setProperty p.1 (String.ofList p.2)

variable (r : Relationship)

theorem foldl_fromColumn {table column : String} (h : IsEnd table column)
    (hr : r.fromTable = "" ∧ r.fromColumn = "") :
    (endProperty "fromColumn" table column).foldl enter r =
      { r with fromTable := table, fromColumn := column } := by
  rcases h with ⟨ht, hc⟩ | ⟨rfl, rfl⟩
  · have hs := splitColumnReference_quoteName (t := table.toList) (c := column.toList)
      (by simpa using ht) (by simpa using hc)
    simp [endProperty, ht, enter, setProperty, hs]
  · cases r
    obtain ⟨rfl, rfl⟩ := hr
    rfl

theorem foldl_toColumn {table column : String} (h : IsEnd table column)
    (hr : r.toTable = "" ∧ r.toColumn = "") :
    (endProperty "toColumn" table column).foldl enter r =
      { r with toTable := table, toColumn := column } := by
  rcases h with ⟨ht, hc⟩ | ⟨rfl, rfl⟩
  · have hs := splitColumnReference_quoteName (t := table.toList) (c := column.toList)
      (by simpa using ht) (by simpa using hc)
    simp [endProperty, ht, enter, setProperty, hs]
  · cases r
    obtain ⟨rfl, rfl⟩ := hr
    rfl

@[simp] theorem ofText_word (c : Cardinality) : Cardinality.ofText c.word.toList = some c := by
  cases c <;> decide

theorem foldl_cardinality (o : Option Cardinality) :
    (cardinalityProperty "fromCardinality" o).foldl enter r =
        { r with fromCardinality := o.or r.fromCardinality } ∧
      (cardinalityProperty "toCardinality" o).foldl enter r =
        { r with toCardinality := o.or r.toCardinality } := by
  constructor <;> cases o <;> simp [cardinalityProperty, enter, setProperty]

theorem foldl_text (o : Option String) :
    (textProperty "crossFilteringBehavior" o).foldl enter r =
        { r with crossFilteringBehavior := o.or r.crossFilteringBehavior } ∧
      (textProperty "securityFilteringBehavior" o).foldl enter r =
        { r with securityFilteringBehavior := o.or r.securityFilteringBehavior } ∧
      (textProperty "lineageTag" o).foldl enter r = { r with lineageTag := o.or r.lineageTag } := by
  refine ⟨?_, ?_, ?_⟩ <;> cases o <;> simp [textProperty, enter, setProperty]

theorem foldl_activity (isActive : Bool) (h : r.isActive = true) :
    (activityProperty isActive).foldl enter r = { r with isActive := isActive } := by
  cases isActive with
  | true => cases r; subst h; rfl
  | false => rfl

theorem foldl_properties (hf : IsEnd r.fromTable r.fromColumn) (ht : IsEnd r.toTable r.toColumn) :
    r.properties.foldl enter { name := r.name } = r := by
  simp [properties, List.foldl_append, foldl_fromColumn, foldl_toColumn, foldl_cardinality,
    foldl_text, foldl_activity, hf, ht]

end Reading

section Lines

structure IsProperty (p : String × List Char) : Prop where
  key : IsKey p.1
  trim_eq : trim p.2 = p.2
  notMem : '\n' ∉ p.2

variable {r : Relationship} {p : String × List Char} {key : String}

theorem isProperty_end {table column : String} (hk : IsKey key) (ht : OneLine table)
    (hc : OneLine column) (hp : p ∈ endProperty key table column) : IsProperty p := by
  rw [endProperty] at hp
  split at hp
  · exact absurd hp List.not_mem_nil
  · rw [List.mem_singleton.mp hp]
    refine ⟨hk, trim_reference _ _, ?_⟩
    rw [List.mem_append, List.mem_cons]
    rintro (h | h | h)
    · exact newline_notMem_quoteName ht h
    · exact absurd h (by decide)
    · exact newline_notMem_quoteName hc h

theorem isProperty_cardinality {o : Option Cardinality} (hk : IsKey key)
    (hp : p ∈ cardinalityProperty key o) : IsProperty p := by
  have hw : ∀ c : Cardinality, trim c.word.toList = c.word.toList ∧ '\n' ∉ c.word.toList := by
    intro c
    cases c <;> decide
  obtain ⟨c, -, rfl⟩ := Option.map_eq_some_iff.mp (Option.mem_toList.mp hp)
  exact ⟨hk, (hw c).1, (hw c).2⟩

theorem isProperty_activity {isActive : Bool} (hp : p ∈ activityProperty isActive) :
    IsProperty p := by
  cases isActive with
  | true => exact absurd hp List.not_mem_nil
  | false =>
    rw [List.mem_singleton.mp hp]
    exact ⟨by decide, by decide, by decide⟩

theorem isProperty_text {o : Option String} (hk : IsKey key) (ho : ∀ s ∈ o, OneLine s)
    (hp : p ∈ textProperty key o) : IsProperty p := by
  obtain ⟨s, hs, rfl⟩ := Option.map_eq_some_iff.mp (Option.mem_toList.mp hp)
  exact ⟨hk, trim_quoteValue _, newline_notMem_quoteValue (ho s hs)⟩

theorem isProperty_of_mem (hr : r.IsPlain) (hp : p ∈ r.properties) : IsProperty p := by
  have h := hr.oneLine
  simp only [texts, List.mem_append, List.mem_cons, Option.mem_toList] at h
  simp only [properties, List.mem_append] at hp
  rcases hp with ((((((hp | hp) | hp) | hp) | hp) | hp) | hp) | hp
  · exact isProperty_end (by decide) (h _ (by simp)) (h _ (by simp)) hp
  · exact isProperty_end (by decide) (h _ (by simp)) (h _ (by simp)) hp
  · exact isProperty_cardinality (by decide) hp
  · exact isProperty_cardinality (by decide) hp
  · exact isProperty_activity hp
  · exact isProperty_text (by decide) (fun s hs => h s (by simp_all)) hp
  · exact isProperty_text (by decide) (fun s hs => h s (by simp_all)) hp
  · exact isProperty_text (by decide) (fun s hs => h s (by simp_all)) hp

theorem IsProperty.isPhrase (h : IsProperty p) (depth : Nat) :
    IsPhrase (propertyRow depth p).text :=
  h.key.isPhrase_property h.trim_eq h.notMem

theorem isPhrase_header (hr : r.IsPlain) : IsPhrase r.header := by
  rw [header]
  split
  · next name hn =>
    exact isPhrase_declaration .relationship (hr.oneLine name (by simp [texts, hn])) (by simp)
  · exact IsKey.isPhrase (by decide)

theorem isLine_rows (hr : r.IsPlain) (depth : Nat) : ∀ row ∈ r.rows depth, IsLine row.text := by
  intro row hrow
  rcases List.mem_cons.mp hrow with rfl | hrow
  · exact (isPhrase_header hr).isLine
  · obtain ⟨p, hp, rfl⟩ := List.mem_map.mp hrow
    exact ((isProperty_of_mem hr hp).isPhrase depth).isLine

end Lines

section File

variable {r : Relationship} {i : Indent} {depth : Nat}

/-- What reading a row does to what has been read. -/
def feedRow (i : Indent) (s : RelationshipReader) (row : Row) : RelationshipReader :=
  s.feed (Line.ofRaw (row.write i)).kind

theorem feedRow_header (hr : r.IsPlain) (s : RelationshipReader) :
    feedRow i s ⟨0, r.header⟩ = s.openRecord { name := r.name } := by
  rw [feedRow, Row.ofRaw_write (isPhrase_header hr), header]
  cases r.name with
  | some name => rw [ofTrimmed_declaration .relationship name (by simp)]; rfl
  | none => rw [IsKey.ofTrimmed_flag (by decide)]; rfl

theorem feedRow_property {p : String × List Char} (hp : IsProperty p) (s : RelationshipReader) :
    feedRow i s (propertyRow depth p) = { s with current := s.current.map (enter · p) } := by
  rw [feedRow, Row.ofRaw_write (hp.isPhrase depth), propertyRow, hp.key.ofTrimmed_property hp.trim_eq]
  rfl

theorem foldl_feedRow_properties {ps : List (String × List Char)} (hp : ∀ p ∈ ps, IsProperty p)
    (s : RelationshipReader) :
    (ps.map (propertyRow depth)).foldl (feedRow i) s =
      { s with current := s.current.map (ps.foldl enter) } := by
  induction ps generalizing s with
  | nil => simp
  | cons p ps ih =>
    obtain ⟨hp, hps⟩ := List.forall_mem_cons.mp hp
    rw [List.map_cons, List.foldl_cons, feedRow_property hp, ih hps, Option.map_map]
    rfl

/-- The rows of a relationship close the one before it and leave it open with all that it holds. -/
theorem foldl_feedRow_rows (hr : r.IsPlain) (s : RelationshipReader) :
    (r.rows depth).foldl (feedRow i) s = ⟨s.finish, some r⟩ := by
  rw [rows, List.foldl_cons, feedRow_header hr,
    foldl_feedRow_properties fun _ hp => isProperty_of_mem hr hp]
  simp only [RelationshipReader.openRecord, Option.map_some, r.foldl_properties hr.fromEnd hr.toEnd]

/-- The reader keeps the relationships that are complete. -/
theorem hasEndpoints_iff (hr : r.IsPlain) : r.hasEndpoints = true ↔ r.IsComplete := by
  rw [hasEndpoints, IsComplete]
  rcases hr.fromEnd with ⟨ht, hc⟩ | ⟨ht, hc⟩ <;> rcases hr.toEnd with ⟨ht', hc'⟩ | ⟨ht', hc'⟩ <;>
    simp [ht, hc, ht', hc']

theorem finish_foldl_feedRow {rs : List Relationship} (hr : ∀ r ∈ rs, r.IsPlain)
    (s : RelationshipReader) :
    ((rs.flatMap (rows depth)).foldl (feedRow i) s).finish =
      s.finish ++ rs.filter (·.IsComplete) := by
  induction rs generalizing s with
  | nil => simp
  | cons r rs ih =>
    obtain ⟨hr, hrs⟩ := List.forall_mem_cons.mp hr
    have hf : ([r].filter (·.hasEndpoints)) = [r].filter (·.IsComplete) :=
      List.filter_congr fun r' hm => by
        rw [List.mem_singleton.mp hm, Bool.eq_iff_iff, hasEndpoints_iff hr, decide_eq_true_iff]
    rw [List.flatMap_cons, List.foldl_append, foldl_feedRow_rows hr, ih hrs,
      ← List.singleton_append (l := rs), List.filter_append, ← hf, ← List.append_assoc]
    rfl

/-- Of the relationships that were written, those with both ends are read back as they were. -/
theorem parseRelationships_render {rs : List Relationship} (hr : ∀ r ∈ rs, r.IsPlain) (i : Indent)
    (depth : Nat) : parseRelationships (render i depth rs) = rs.filter (·.IsComplete) := by
  have hl : ∀ s ∈ (rs.flatMap (rows depth)).map (Row.write i), IsLine s := by
    intro s hs
    obtain ⟨row, hrow, rfl⟩ := List.mem_map.mp hs
    obtain ⟨r, hm, hrow⟩ := List.mem_flatMap.mp hrow
    exact Row.isLine_write (isLine_rows (hr r hm) depth row hrow) i
  rw [parseRelationships, render, lines_unlines hl, List.foldl_map]
  exact finish_foldl_feedRow hr {}

/-- A relationship with a name, one without its second end, and one without a name. -/
def drafts : List Relationship := [
  { name := some "Sales: it's 'new'", fromTable := "Sales.2024's", fromColumn := "Key: 'x'.y"
    toTable := "Product", toColumn := "'", fromCardinality := some .many, isActive := false
    crossFilteringBehavior := some "both \"ways\"", lineageTag := some "" },
  { name := some "half", fromTable := "Sales", fromColumn := "Date", toCardinality := some .one },
  { fromTable := "Sales", fromColumn := "Date", toTable := "Calendar", toColumn := "Date" }]

theorem parseRelationships_render_drafts :
    (∀ r ∈ drafts, r.IsPlain) ∧
      parseRelationships (render .spaces 1 drafts) = [drafts[0], drafts[2]] := by
  have hp : ∀ r ∈ drafts, r.IsPlain := by
    decide +kernel
  exact ⟨hp, (parseRelationships_render hp .spaces 1).trans (by decide +kernel)⟩

end File

end Tabular.Relationship
