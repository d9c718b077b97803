import Tabular.Proofs.Tmdl.Block

/-!
# Reading back a written table

The children that were written join the table one after another, the last of them with the
annotations of the table or at the end. So a table is read back from any way of writing it.
-/

namespace Tabular.Tmdl

open Draft

variable {i : Indent} {t : Table} {c : Option Child}

section Annotations

/-- The annotations of the table close the open child and are added to the table. -/
theorem outcome_tableAnnotations (hc : ∀ k ∈ c, k.depth = 1) {as : List Annotation}
    (ha : ∀ a ∈ as, a.IsPlain) :
    (idle t c).outcome i (annotationRows 1 as) =
      { closed t c with annotations := (closed t c).annotations ++ as } := by
  cases as with
  | nil =>
    rw [List.append_nil]
    exact outcome_idle_nil i t c
  | cons a as =>
    have hs : (idle t c).settle 1 = idle (closed t c) none := by
      cases c with
      | none => rfl
      | some k =>
        rw [idle, settle]
        simp only [hc k rfl]
        rfl
    have hd : { (idle t c).annotate 1 a with docs := [] } =
        idle { closed t c with annotations := (closed t c).annotations ++ [a] } none := by
      rw [annotate, hs]
      rfl
    have hr := outcome_annotationRows (i := i) (n := 1)
      (fun as => idle { closed t c with annotations := as } none)
      (fun _ => rfl) (fun _ _ => rfl) (fun b hb => ha b (List.mem_cons_of_mem a hb))
      ((closed t c).annotations ++ [a]) []
    rw [List.append_nil, outcome_idle_nil] at hr
    rw [annotationRows, List.map_cons, outcome_annotationRow rfl (ha a List.mem_cons_self), hd,
      ← annotationRows, hr, List.append_assoc]
    rfl

end Annotations

/-- Written blocks join the table one after another, and the written annotations come last. -/
theorem outcome_blocks {bs : List Block} (hb : ∀ b ∈ bs, b.IsPlain ∧ b.Admits)
    {as : List Annotation} (ha : ∀ a ∈ as, a.IsPlain) (hc : ∀ k ∈ c, k.depth = 1) :
    (idle t c).outcome i (bs.flatMap Block.rows ++ annotationRows 1 as) =
      { bs.foldl Block.addTo (closed t c) with
        annotations := (bs.foldl Block.addTo (closed t c)).annotations ++ as } := by
  induction bs generalizing t c with
  | nil => exact outcome_tableAnnotations hc ha
  | cons b bs ih =>
    obtain ⟨hp, had⟩ := hb b List.mem_cons_self
    obtain ⟨k, hk, hcl, ho⟩ := Block.outcome_rows (i := i) hp had
    have hsh : Shallow 3 (bs.flatMap Block.rows ++ annotationRows 1 as) :=
      .append (Block.shallow_flatMap_rows fun b' h => hb b' (List.mem_cons_of_mem b h))
        (.of_phrases (annotationRows_phrases ha) (by decide))
    have hd : ∀ k' ∈ some k, k'.depth = 1 := by
      rintro k' ⟨⟩
      exact hk
    rw [List.flatMap_cons, List.append_assoc, ho t c _ hsh,
      ih (fun b' h => hb b' (List.mem_cons_of_mem b h)) hd]
    rw [List.foldl_cons, show closed (closed t c) (some k) = b.addTo (closed t c) from hcl _]

namespace Reader

def outcome (i : Indent) (r : Reader) (rows : List Row) : Option Table :=
  (rows.foldl (fun r row => r.feed (.ofRaw (row.write i))) r).finish

theorem outcome_inside (d : Draft) (rows : List Row) :
    (inside d).outcome i rows = some (d.outcome i rows) := by
  induction rows generalizing d with
  | nil => rfl
  | cons r rs ih => exact ih (d.feed (.ofRaw (r.write i)))

theorem outcome_cons {docs : List String} {r : Row} (hr : IsPhrase r.text) (rs : List Row) :
    (before docs none).outcome i (r :: rs) =
      (scanBefore docs ⟨r.write i, r.depth, .ofTrimmed r.text⟩).outcome i rs := by
  rw [outcome, List.foldl_cons, Row.ofRaw_write hr, feed, ← outcome]

theorem outcome_docLines {n : Nat} {ls : List (List Char)}
    (hl : ∀ l ∈ ls, Text.trim l = l ∧ '\n' ∉ l) (docs : List String) (rs : List Row) :
    (before docs none).outcome i (ls.map (docRow n) ++ rs) =
      (before (docs ++ ls.map String.ofList) none).outcome i rs := by
  induction ls generalizing docs with
  | nil => rw [List.map_nil, List.map_nil, List.nil_append, List.append_nil]
  | cons l ls ih =>
    obtain ⟨ht, hn⟩ := hl l List.mem_cons_self
    rw [List.map_cons, List.cons_append, outcome_cons (isPhrase_doc ht hn), docRow,
      ofTrimmed_doc ht, scanBefore, ih fun m h => hl m (List.mem_cons_of_mem l h),
      List.append_assoc]
    rfl

theorem outcome_docRows {n : Nat} {o : Option String} (ho : ∀ s ∈ o, IsDoc s) (rs : List Row) :
    start.outcome i (docRows n o ++ rs) = (before (docLines o) none).outcome i rs := by
  cases o with
  | none => rfl
  | some s =>
    have hl : ∀ l ∈ textLines s, Text.trim l = l ∧ '\n' ∉ l := fun l hl =>
      ⟨ho s rfl l hl, notMem_of_mem_textLines hl⟩
    exact outcome_docLines hl [] rs

theorem outcome_table {name : String} (hn : OneLine name) (docs : List String) (rs : List Row) :
    (before docs none).outcome i (⟨0, declaration .table name none⟩ :: rs) =
      some ((idle { name := name, description := description docs } none).outcome i rs) := by
  rw [outcome_cons (isPhrase_declaration .table hn (by simp)),
    ofTrimmed_declaration .table name (by simp), ← outcome_inside]
  rfl

end Reader

namespace Layout

variable {t : Table}

theorem isPlain_of_mem (ht : t.IsPlain) (l : Layout t) {b : Block} (hb : b ∈ l.blocks) :
    b.IsPlain := by
  cases b with
  | measure m f =>
    have hm : m ∈ t.measures := by
      rw [← l.measures_eq]
      exact List.mem_filterMap.mpr ⟨_, hb, rfl⟩
    exact ht.measures m hm
  | column k f =>
    have hk : k ∈ t.columns := by
      rw [← l.columns_eq]
      exact List.mem_filterMap.mpr ⟨_, hb, rfl⟩
    exact ht.columns k hk
  | hierarchy h =>
    have hh : h ∈ t.hierarchies := by
      rw [← l.hierarchies_eq]
      exact List.mem_filterMap.mpr ⟨_, hb, rfl⟩
    exact ht.hierarchies h hh

theorem isLine_rows (ht : t.IsPlain) (l : Layout t) : ∀ r ∈ l.rows, Text.IsLine r.text := by
  intro r hr
  simp only [rows, List.mem_append, List.mem_cons] at hr
  rcases hr with hr | rfl | hr | hr | hr
  · exact (docRows_phrases ht.description r hr).1.isLine
  · exact (isPhrase_declaration .table ht.name (by simp)).isLine
  · exact (settingRows_phrases ht.settings r hr).1.isLine
  · obtain ⟨b, hb, hr⟩ := List.mem_flatMap.mp hr
    exact Block.isLine_rows (l.isPlain_of_mem ht hb) (l.admits b hb) r hr
  · exact (annotationRows_phrases ht.annotations r hr).1.isLine

/-- What is parsed from a written table is read from its rows. -/
theorem parseTable_render_eq_outcome (ht : t.IsPlain) (l : Layout t) :
    parseTable l.render = Reader.start.outcome l.indent l.rows := by
  have hl : ∀ s ∈ l.rows.map (Row.write l.indent), Text.IsLine s := by
    intro s hs
    obtain ⟨r, hr, rfl⟩ := List.mem_map.mp hs
    exact Row.isLine_write (l.isLine_rows ht r hr) l.indent
  rw [parseTable, render, Text.lines_unlines hl, readTable, List.foldl_map]
  rfl

/-- A table is read back from any way of writing it. -/
theorem parseTable_render (ht : t.IsPlain) (l : Layout t) : parseTable l.render = some t := by
  have hb : ∀ b ∈ l.blocks, b.IsPlain ∧ b.Admits := fun b h =>
    ⟨l.isPlain_of_mem ht h, l.admits b h⟩
  calc parseTable l.render
      = Reader.start.outcome l.indent l.rows := l.parseTable_render_eq_outcome ht
    _ = some ((idle { name := t.name, description := t.description } none).outcome l.indent
          (t.settings.flatMap (·.rows 1) ++
            (l.blocks.flatMap Block.rows ++ annotationRows 1 t.annotations))) := by
        rw [rows, Reader.outcome_docRows ht.description, Reader.outcome_table ht.name,
          description_docLines]
    _ = some ((idle
          { name := t.name, lineageTag := t.lineageTag, isHidden := t.isHidden,
            description := t.description } none).outcome l.indent
          (l.blocks.flatMap Block.rows ++ annotationRows 1 t.annotations)) := by
        rw [outcome_settings (idle · none) Table.setProperty (fun _ => rfl)
          (fun _ _ _ => rfl) ht.settings, Table.foldl_settings]
    _ = some t := by
        rw [outcome_blocks hb ht.annotations (by simp), Block.foldl_addTo, l.measures_eq,
          l.columns_eq, l.hierarchies_eq]
        rfl

def orders : Table where
  name := "Customer's orders"
  lineageTag := some "7f3a"
  isHidden := true
  description := some "One row for each order.\n\nLoaded: daily"
  measures := [
    { name := "Total", expression := "SUM('Customer''s orders'[Amount])",
      formatString := some "0.00 \"EUR\"" },
    { name := "Growth = 'new'", description := some "Against last year",
      expression := "VAR now = [Total]\n\n    RETURN\n        now - 1", isHidden := true,
      annotations := [⟨"Owner", "it's 'us'"⟩] }]
  columns := [
    { name := "Date", dataType := "dateTime", sortByColumn := some "Day's number",
      variation := some {
        name := "Calendar", isDefault := true, defaultHierarchy := some "Dates.'By month'" } },
    { name := "Margin", expression := some "" }]
  hierarchies := [
    { name := "By month", displayFolder := some "",
      levels := [{ name := "Year", column := some "Year", ordinal := some 0 },
        { name := "Month", ordinal := some (-1) }] }]
  annotations := [⟨"Source", ""⟩]

def ordersLayout : Layout orders where
  indent := .spaces
  blocks := [
    .hierarchy orders.hierarchies[0], .measure orders.measures[0] .inline,
    .column orders.columns[0] .inline, .measure orders.measures[1] (.fenced 0 4),
    .column orders.columns[1] (.below 1)]
  measures_eq := rfl
  columns_eq := rfl
  hierarchies_eq := rfl
  admits := by
    decide

theorem parseTable_render_orders :
    orders.IsPlain ∧ parseTable ordersLayout.render = some orders := by
  have hp : orders.IsPlain := by
    decide +kernel
  exact ⟨hp, parseTable_render hp ordersLayout⟩

end Layout

end Tabular.Tmdl
