import Tabular.Proofs.Tmdl.Heading

/-!
# Lines of which nothing is made

A definition may have lines that are unknown here: keys that no record keeps, and lines of no known
form. Where lines are read for what they say and no documentation waits, such a line leaves the
draft as it is, and the table is the one that is read without it, whatever lines follow.
-/

namespace Tabular.Tmdl

/-- The keys that a record of some kind keeps. -/
def knownKeys : List String := [
  "lineageTag", "isHidden", "description", "formatString", "displayFolder", "dataCategory",
  "dataType", "sourceColumn", "summarizeBy", "sortByColumn", "isDefault", "relationship",
  "defaultHierarchy", "column", "ordinal"]

/-- A property with the key changes no record of any kind. -/
structure IsUnknown (key : String) : Prop where
  table (t : Table) (value : String) : t.setProperty key value = t
  measure (m : Measure) (value : String) : m.setProperty key value = m
  column (c : Column) (value : String) : c.setProperty key value = c
  variation (v : Variation) (value : String) : v.setProperty key value = v
  hierarchy (h : Hierarchy) (value : String) : h.setProperty key value = h
  level (l : Level) (value : String) : l.setProperty key value = l

namespace IsUnknown

variable {key : String}

theorem of_notMem (hk : key ∉ knownKeys) : IsUnknown key where
  table t value := by
    unfold Table.setProperty
    split <;> first | exact absurd (by decide) hk | rfl
  measure m value := by
    unfold Measure.setProperty
    split <;> first | exact absurd (by decide) hk | rfl
  column c value := by
    unfold Column.setProperty
    split <;> first | exact absurd (by decide) hk | rfl
  variation v value := by
    unfold Variation.setProperty
    split <;> first | exact absurd (by decide) hk | rfl
  hierarchy h value := by
    unfold Hierarchy.setProperty
    split <;> first | exact absurd (by decide) hk | rfl
  level l value := by
    unfold Level.setProperty
    split <;> first | exact absurd (by decide) hk | rfl

theorem notMem (h : IsUnknown key) : key ∉ knownKeys := by
  -- Under each known key a bare flag changes one of these records.
  have hchange : ∀ key ∈ knownKeys, ¬(
      Table.setProperty { name := "" } key "" = { name := "" } ∧
      Measure.setProperty { name := "" } key "" = { name := "" } ∧
      Column.setProperty { name := "", dataType := "int64" } key "" =
        { name := "", dataType := "int64" } ∧
      Variation.setProperty { name := "" } key "" = { name := "" } ∧
      Level.setProperty { name := "", ordinal := some 0 } key "" =
        { name := "", ordinal := some 0 }) := by
    decide
  intro hk
  exact hchange key hk
    ⟨h.table _ _, h.measure _ _, h.column _ _, h.variation _ _, h.level _ _⟩

end IsUnknown

/-- The list is exact: it has the keys under which some record changes, and no others. -/
theorem isUnknown_iff {key : String} : IsUnknown key ↔ key ∉ knownKeys :=
  ⟨IsUnknown.notMem, IsUnknown.of_notMem⟩

theorem Child.setProperty_of_isUnknown {key : String} (hk : IsUnknown key) (here : Nat)
    (value : String) (c : Child) : c.setProperty here key value = c := by
  cases c with
  | measure m n => rw [setProperty, hk.measure]
  | column c n o =>
    rw [setProperty_column, hk.column]
    simp [hk.variation]
  | hierarchy h n o =>
    rw [setProperty_hierarchy, hk.hierarchy]
    simp [hk.level]

namespace Draft

variable {d : Draft} {l : Line}

/-- Nothing is made of the line in the draft: it is blank, of no known form, or has an unknown key. The
key has to stand deeper than the declaration of the open child, since it may close the child
otherwise. -/
def Ignores (d : Draft) : Line → Prop
  | ⟨_, _, .blank⟩ | ⟨_, _, .other⟩ => True
  | ⟨_, n, .property key _⟩ | ⟨_, n, .flag key⟩ => key ∉ knownKeys ∧ ∀ c ∈ d.child, c.depth < n
  | ⟨_, _, .doc _⟩ | ⟨_, _, .declaration _ _ _⟩ | ⟨_, _, .unread _⟩ => False

instance (d : Draft) : (l : Line) → Decidable (d.Ignores l)
  | ⟨_, _, .blank⟩ | ⟨_, _, .other⟩ => inferInstanceAs (Decidable True)
  | ⟨_, _, .property _ _⟩ | ⟨_, _, .flag _⟩ => inferInstanceAs (Decidable (_ ∧ _))
  | ⟨_, _, .doc _⟩ | ⟨_, _, .declaration _ _ _⟩ | ⟨_, _, .unread _⟩ =>
    inferInstanceAs (Decidable False)

theorem settle_of_deeper {n : Nat} (h : ∀ c ∈ d.child, c.depth < n) : d.settle n = d := by
  rw [settle]
  cases hc : d.child with
  | none => rfl
  | some c => simp [h c hc]

theorem setProperty_of_notMem {key : String} {n : Nat} (hk : key ∉ knownKeys)
    (h : ∀ c ∈ d.child, c.depth < n) (value : String) : d.setProperty n key value = d := by
  have hu : IsUnknown key := isUnknown_iff.mpr hk
  obtain ⟨t, k, child, mode, docs⟩ := d
  rw [setProperty, settle_of_deeper h]
  cases child with
  | none => simp [hu.table]
  | some c => simp [Child.setProperty_of_isUnknown hu]

/-- A line of which nothing is made leaves the draft as it is. -/
theorem feed_of_ignores (hm : d.mode = .scan) (hd : d.docs = []) (h : d.Ignores l) :
    d.feed l = d := by
  have hdocs : ({ d with docs := [] } : Draft) = d := by
    rw [← hd]
  obtain ⟨raw, n, kind⟩ := l
  rw [feed, hm]
  cases kind with
  | blank => rfl
  | other => exact hdocs
  | property key value =>
    obtain ⟨hk, hn⟩ := h
    simp only [scan, setProperty_of_notMem hk hn, hdocs]
  | flag key =>
    obtain ⟨hk, hn⟩ := h
    simp only [scan, setProperty_of_notMem hk hn, hdocs]
  | doc | declaration | unread => exact h.elim

end Draft

/-- Lines of which nothing is made leave the table that is read unchanged, whatever lines follow
them, if they stand where lines are read for what they say and no documentation waits. -/
theorem readTable_ignored {before inserted : List (List Char)} {d : Draft}
    (hd : Reader.after before = .inside d) (hm : d.mode = .scan) (hn : d.docs = [])
    (hi : ∀ raw ∈ inserted, d.Ignores (.ofRaw raw)) (rest : List (List Char)) :
    readTable (before ++ inserted ++ rest) = readTable (before ++ rest) := by
  have hfixed : ∀ l ∈ inserted.map Line.ofRaw, (Reader.inside d).feed l = .inside d := by
    intro l hl
    obtain ⟨raw, hr, rfl⟩ := List.mem_map.mp hl
    exact congrArg Reader.inside (Draft.feed_of_ignores hm hn (hi raw hr))
  have hafter : Reader.after (before ++ inserted) = Reader.after before := by
    rw [Reader.after_append, hd, Reader.foldl_feed_of_fixed hfixed]
  rw [Reader.readTable_eq_finish, Reader.readTable_eq_finish, Reader.after_append _ rest, hafter,
    ← Reader.after_append]

/-- The lines of a column and of its variation, so far. -/
def datedColumn : List (List Char) :=
  ["table Sales", "\tcolumn Date", "\t\tvariation Calendar", "\t\t\tisDefault"].map String.toList

def datedDraft : Draft where
  table := { name := "Sales" }
  depth := 0
  child := some (.column { name := "Date" } 1 (some ({ name := "Calendar", isDefault := true }, 2)))

/-- Keys and forms that are unknown, deeper than the column but not all deeper than its variation. -/
def unknownLines : List (List Char) :=
  ["", "\t\tsynonyms: [day, date]", "\t\t\tisFuture", "=> noted", "\t\t\t\tsynonyms"].map
    String.toList

theorem readTable_ignored_calendar :
    Reader.after datedColumn = .inside datedDraft ∧ datedDraft.mode = .scan ∧
      datedDraft.docs = [] ∧ (∀ raw ∈ unknownLines, datedDraft.Ignores (.ofRaw raw)) ∧
      readTable (datedColumn ++ unknownLines ++ ["\t\t\trelationship: r1".toList]) =
        readTable (datedColumn ++ ["\t\t\trelationship: r1".toList]) := by
  have hd : Reader.after datedColumn = .inside datedDraft := by decide
  have hi : ∀ raw ∈ unknownLines, datedDraft.Ignores (.ofRaw raw) := by decide
  exact ⟨hd, rfl, rfl, hi, readTable_ignored hd rfl rfl hi _⟩

/-- An unknown key closes a measure that is declared at its depth, and what follows is the table's. -/
example :
    (readTable (["table Sales", "\tmeasure Total", "\tsynonyms", "\t\tlineageTag: 1"].map
      String.toList)).map Table.lineageTag = some (some "1") := by decide

end Tabular.Tmdl
