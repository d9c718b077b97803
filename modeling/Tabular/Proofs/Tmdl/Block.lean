import Tabular.Proofs.Tmdl.Draft

/-!
# Reading back a written measure, column or hierarchy

A measure, a column or a hierarchy that was written is read back as the child that is open once its
rows have been read. What is to follow it has to be shallow: otherwise it could belong to an
expression below the declaration.
-/

namespace Tabular.Tmdl

open Draft

variable {i : Indent} {t : Table} {c : Option Child} {rs : List Row}

section Rows

variable {n : Nat}

theorem settingRows_phrases {ss : List Setting} (hs : ∀ s ∈ ss, s.IsPlain) :
    ∀ r ∈ ss.flatMap (·.rows n), IsPhrase r.text ∧ r.depth = n := by
  intro r hr
  obtain ⟨s, hm, hr⟩ := List.mem_flatMap.mp hr
  obtain ⟨v, hv, rfl⟩ := Option.map_eq_some_iff.mp (Option.mem_toList.mp hr)
  exact ⟨Setting.isPhrase_line (hs s hm) hv, rfl⟩

theorem annotationRows_phrases {as : List Annotation} (ha : ∀ a ∈ as, a.IsPlain) :
    ∀ r ∈ annotationRows n as, IsPhrase r.text ∧ r.depth = n := by
  intro r hr
  obtain ⟨a, hm, rfl⟩ := List.mem_map.mp hr
  refine ⟨isPhrase_declaration .note (ha a hm).1 ?_, rfl⟩
  rintro v ⟨⟩
  exact ⟨Text.trim_quoteValue _, Text.newline_notMem_quoteValue (ha a hm).2⟩

theorem docRows_phrases {o : Option String} (ho : ∀ s ∈ o, IsDoc s) :
    ∀ r ∈ docRows n o, IsPhrase r.text ∧ r.depth = n := by
  intro r hr
  cases o with
  | none => exact absurd hr List.not_mem_nil
  | some s =>
    obtain ⟨l, hl, rfl⟩ := List.mem_map.mp hr
    exact ⟨isPhrase_doc (ho s rfl l hl) (notMem_of_mem_textLines hl), rfl⟩

section Declared

variable {k : Keyword} {name : String} {f : ExpressionForm} {o : Option String}

theorem declarationRow_phrase (hn : OneLine name) (ho : ∀ e ∈ o, IsCode e ∧ f.Admits e) :
    IsPhrase (declaration k name (o.map f.value)) := by
  refine isPhrase_declaration k hn fun v hv => ?_
  obtain ⟨e, he, rfl⟩ := Option.map_eq_some_iff.mp hv
  exact ExpressionForm.trim_value (ho e he).1.1 (ho e he).2

theorem expressionRows_ne_nil : expressionRows n k name f o ≠ [] := by
  cases o <;> simp [expressionRows]

theorem shallow_head {m : Nat} (hnm : n < m) {d : Option String} (hd : ∀ s ∈ d, IsDoc s)
    (hn : OneLine name) (ho : ∀ e ∈ o, IsCode e ∧ f.Admits e) :
    Shallow m (docRows n d ++ expressionRows n k name f o) := by
  have hp := declarationRow_phrase (k := k) hn ho
  refine .append (.of_phrases (docRows_phrases hd) hnm) ?_
  cases o with
  | none =>
    rintro r ⟨⟩
    exact ⟨hp, hnm⟩
  | some e =>
    rintro r ⟨⟩
    exact ⟨hp, hnm⟩

theorem isLine_of_mem_textLines {e : String} (he : IsCode e) {l : List Char}
    (hl : l ∈ textLines e) : Text.IsLine l :=
  ⟨notMem_of_mem_textLines hl, (he.2 l hl).2⟩

theorem isLine_expressionRows (hn : OneLine name) (ho : ∀ e ∈ o, IsCode e ∧ f.Admits e) :
    ∀ r ∈ expressionRows n k name f o, Text.IsLine r.text := by
  have hp := declarationRow_phrase (k := k) hn ho
  intro r hr
  cases o with
  | none =>
    rw [List.mem_singleton.mp hr]
    exact hp.isLine
  | some e =>
    have he := (ho e rfl).1
    rcases List.mem_cons.mp hr with rfl | hr
    · exact hp.isLine
    · cases f with
      | inline => exact absurd hr List.not_mem_nil
      | inlineFenced => exact absurd hr List.not_mem_nil
      | fenced p q =>
        rcases List.mem_append.mp hr with hr | hr
        · obtain ⟨l, hl, rfl⟩ := List.mem_map.mp hr
          exact isLine_of_mem_textLines he hl
        · rw [List.mem_singleton.mp hr]
          exact (⟨by decide, by decide⟩ : Text.IsLine fence)
      | below p =>
        obtain ⟨l, hl, rfl⟩ := List.mem_map.mp hr
        exact isLine_of_mem_textLines he hl

end Declared

end Rows

section Measure

variable {m : Measure} {f : ExpressionForm}

/-- A written measure is read back as the open child. -/
theorem outcome_measure (hm : m.IsPlain) (hf : f.Admits m.expression) (hr : Shallow 3 rs) :
    (idle t c).outcome i (m.rows f ++ rs) =
      (idle (closed t c) (some (.measure m 1))).outcome i rs := by
  have hsh : Shallow 3 (m.settings.flatMap (·.rows 2) ++ (annotationRows 2 m.annotations ++ rs)) :=
    .append (.of_phrases (settingRows_phrases hm.settings) (by decide))
      (.append (.of_phrases (annotationRows_phrases hm.annotations) (by decide)) hr)
  calc (idle t c).outcome i (m.rows f ++ rs)
      = ({ idle t c with docs := docLines m.description } : Draft).outcome i
          (expressionRows 1 .measure m.name f (some m.expression) ++
            (m.settings.flatMap (·.rows 2) ++ (annotationRows 2 m.annotations ++ rs))) := by
        rw [Measure.rows, List.append_assoc, List.append_assoc, List.append_assoc,
          outcome_docRows hm.description rfl rfl]
    _ = (idle (closed t c) (some (.measure
          { name := m.name, description := m.description, expression := m.expression } 1))).outcome i
            (m.settings.flatMap (·.rows 2) ++ (annotationRows 2 m.annotations ++ rs)) := by
        refine outcome_expressionRows
          (.measure { name := m.name, description := m.description } 1) ?_ hm.name ?_ hsh
        · intro v
          rw [declare, description_docLines]
        · rintro e ⟨⟩
          exact ⟨hm.expression, hf⟩
    _ = (idle (closed t c) (some (.measure { m with annotations := [] } 1))).outcome i
          (annotationRows 2 m.annotations ++ rs) := by
        rw [outcome_settings (fun m => idle (closed t c) (some (.measure m 1)))
          Measure.setProperty (fun _ => rfl) (fun _ _ _ => rfl) hm.settings,
          Measure.foldl_settings]
    _ = (idle (closed t c) (some (.measure m 1))).outcome i rs :=
        outcome_annotationRows
          (fun as => idle (closed t c) (some (.measure { m with annotations := as } 1)))
          (fun _ => rfl) (fun _ _ => rfl) hm.annotations [] rs

end Measure

section Column

theorem variationRow_phrase {v : Variation} (hv : v.IsPlain) :
    IsPhrase (declaration .variation v.name none) :=
  isPhrase_declaration .variation hv.name (by simp)

theorem outcome_variation {k : Column} {v : Variation} (hv : v.IsPlain) :
    (idle t (some (.column k 1 none))).outcome i (v.rows ++ rs) =
      (idle t (some (.column k 1 (some (v, 2))))).outcome i rs := by
  rw [Variation.rows, List.cons_append, outcome_declaration rfl hv.name (by simp)]
  calc (idle t (some (.column k 1 (some ({ name := v.name }, 2))))).outcome i
        (v.settings.flatMap (·.rows 3) ++ rs)
      = (idle t (some (.column k 1 (some (v.settings.foldl (Setting.enter Variation.setProperty)
          { name := v.name }, 2))))).outcome i rs :=
        outcome_settings (fun v => idle t (some (.column k 1 (some (v, 2))))) Variation.setProperty
          (fun _ => rfl) (fun _ _ _ => rfl) hv.settings { name := v.name } rs
    _ = (idle t (some (.column k 1 (some (v, 2))))).outcome i rs := by
        rw [Variation.foldl_settings hv]

theorem outcome_column {k : Column} {f : ExpressionForm} (hk : k.IsPlain)
    (hf : ∀ e ∈ k.expression, f.Admits e) (hr : Shallow 3 rs) :
    (idle t c).outcome i (k.rows f ++ rs) =
      (idle (closed t c) (some (.column { k with variation := none } 1
        (k.variation.map (·, 2))))).outcome i rs := by
  have hsh : Shallow 3 (k.settings.flatMap (·.rows 2) ++ (annotationRows 2 k.annotations ++
      (k.variation.toList.flatMap Variation.rows ++ rs))) := by
    refine .append (.of_phrases (settingRows_phrases hk.settings) (by decide))
      (.append (.of_phrases (annotationRows_phrases hk.annotations) (by decide)) ?_)
    cases hv : k.variation with
    | none => exact hr
    | some v =>
      rintro r ⟨⟩
      exact ⟨variationRow_phrase (hk.variation v hv), Nat.lt_succ_self 2⟩
  calc (idle t c).outcome i (k.rows f ++ rs)
      = ({ idle t c with docs := docLines k.description } : Draft).outcome i
          (expressionRows 1 .column k.name f k.expression ++ (k.settings.flatMap (·.rows 2) ++
            (annotationRows 2 k.annotations ++
              (k.variation.toList.flatMap Variation.rows ++ rs)))) := by
        rw [Column.rows, List.append_assoc, List.append_assoc, List.append_assoc, List.append_assoc,
          outcome_docRows hk.description rfl rfl]
    _ = (idle (closed t c) (some (.column
          { name := k.name, description := k.description, expression := k.expression } 1
            none))).outcome i (k.settings.flatMap (·.rows 2) ++ (annotationRows 2 k.annotations ++
              (k.variation.toList.flatMap Variation.rows ++ rs))) := by
        rw [outcome_expressionRows
          (.column { name := k.name, description := k.description } 1 none) ?_ hk.name
          (fun e he => ⟨hk.expression e he, hf e he⟩) hsh]
        · cases k.expression <;> rfl
        · intro v
          rw [declare, description_docLines]
    _ = (idle (closed t c) (some (.column { k with annotations := [], variation := none } 1
          none))).outcome i (annotationRows 2 k.annotations ++
            (k.variation.toList.flatMap Variation.rows ++ rs)) := by
        rw [outcome_settings (fun k => idle (closed t c) (some (.column k 1 none)))
          Column.setProperty (fun _ => rfl) (fun _ _ _ => rfl) hk.settings,
          Column.foldl_settings]
    _ = (idle (closed t c) (some (.column { k with variation := none } 1 none))).outcome i
          (k.variation.toList.flatMap Variation.rows ++ rs) :=
        outcome_annotationRows
          (fun as => idle (closed t c)
            (some (.column { k with annotations := as, variation := none } 1 none)))
          (fun _ => rfl) (fun _ _ => rfl) hk.annotations [] _
    _ = (idle (closed t c) (some (.column { k with variation := none } 1
          (k.variation.map (·, 2))))).outcome i rs := by
        cases hv : k.variation with
        | none => rfl
        | some v =>
          rw [Option.toList_some, List.flatMap_singleton]
          exact outcome_variation (hk.variation v hv)

end Column

section Hierarchy

theorem outcome_level {h : Hierarchy} {o : Option (Level × Nat)} {l : Level} (hl : l.IsPlain) :
    (idle t (some (.hierarchy h 1 o))).outcome i (l.rows ++ rs) =
      (idle t (some (.hierarchy { h with levels := h.levels ++ (o.map Prod.fst).toList } 1
        (some (l, 2))))).outcome i rs := by
  rw [Level.rows, List.cons_append, outcome_declaration rfl hl.name (by simp)]
  calc (idle t (some (.hierarchy { h with levels := h.levels ++ (o.map Prod.fst).toList } 1
        (some ({ name := l.name }, 2))))).outcome i (l.settings.flatMap (·.rows 3) ++ rs)
      = (idle t (some (.hierarchy { h with levels := h.levels ++ (o.map Prod.fst).toList } 1
          (some (l.settings.foldl (Setting.enter Level.setProperty) { name := l.name },
            2))))).outcome i rs :=
        outcome_settings (fun l => idle t (some (.hierarchy
            { h with levels := h.levels ++ (o.map Prod.fst).toList } 1 (some (l, 2)))))
          Level.setProperty (fun _ => rfl) (fun _ _ _ => rfl) hl.settings { name := l.name } rs
    _ = _ := by
        rw [Level.foldl_settings]

/-- Written levels are read back behind those of the open hierarchy, the last of them still open. -/
theorem outcome_levels {h : Hierarchy} {o : Option (Level × Nat)} {ls : List Level}
    (hl : ∀ l ∈ ls, l.IsPlain) :
    ∃ (h' : Hierarchy) (o' : Option (Level × Nat)),
      (∀ t, (Child.hierarchy h' 1 o').close t = Child.close t (.hierarchy
        { h with levels := h.levels ++ (o.map Prod.fst).toList ++ ls } 1 none)) ∧
      ∀ t rs, (idle t (some (.hierarchy h 1 o))).outcome i (ls.flatMap Level.rows ++ rs) =
        (idle t (some (.hierarchy h' 1 o'))).outcome i rs := by
  induction ls generalizing h o with
  | nil => exact ⟨h, o, fun t => by simp [Child.close], fun t rs => rfl⟩
  | cons l ls ih =>
    obtain ⟨h', o', hc, ho⟩ := ih
      (h := { h with levels := h.levels ++ (o.map Prod.fst).toList }) (o := some (l, 2))
      fun m hm => hl m (List.mem_cons_of_mem l hm)
    refine ⟨h', o', fun t => ?_, fun t rs => ?_⟩
    · rw [hc]
      simp [Child.close]
    · rw [List.flatMap_cons, List.append_assoc, outcome_level (hl l List.mem_cons_self), ho]

/-- A written hierarchy is read back as the open child. -/
theorem outcome_hierarchy {h : Hierarchy} (hh : h.IsPlain) :
    ∃ (h' : Hierarchy) (o : Option (Level × Nat)),
      (∀ t, (Child.hierarchy h' 1 o).close t = { t with hierarchies := t.hierarchies ++ [h] }) ∧
      ∀ t c rs, (idle t c).outcome i (h.rows ++ rs) =
        (idle (closed t c) (some (.hierarchy h' 1 o))).outcome i rs := by
  obtain ⟨h', o, hc, ho⟩ := outcome_levels (i := i) (h := { h with levels := [] }) (o := none)
    hh.levels
  refine ⟨h', o, fun t => ?_, fun t c rs => ?_⟩
  · rw [hc]
    simp [Child.close]
  · have hd : { (idle t c).declare 1 h.name none .hierarchy with docs := [] } =
        idle (closed t c) (some (.hierarchy { name := h.name } 1 none)) := by
      cases c <;> rfl
    rw [Hierarchy.rows, List.append_assoc, List.cons_append,
      outcome_declaration rfl hh.name (by simp), Option.map_none, hd,
      outcome_settings (fun h => idle (closed t c) (some (.hierarchy h 1 none)))
        Hierarchy.setProperty (fun _ => rfl) (fun _ _ _ => rfl) hh.settings,
      Hierarchy.foldl_settings, ho]

end Hierarchy

namespace Block

/-- The table with the record as the last of its kind. -/
def addTo (t : Table) : Block → Table
  | measure m _ => { t with measures := t.measures ++ [m] }
  | column k _ => { t with columns := t.columns ++ [k] }
  | hierarchy h => { t with hierarchies := t.hierarchies ++ [h] }

def IsPlain : Block → Prop
  | measure m _ => m.IsPlain
  | column k _ => k.IsPlain
  | hierarchy h => h.IsPlain

theorem foldl_addTo (bs : List Block) (t : Table) :
    bs.foldl addTo t =
      { t with
        measures := t.measures ++ bs.filterMap measure?
        columns := t.columns ++ bs.filterMap column?
        hierarchies := t.hierarchies ++ bs.filterMap hierarchy? } := by
  induction bs generalizing t with
  | nil => simp
  | cons b bs ih =>
    rw [List.foldl_cons, ih]
    cases b <;> simp [addTo, measure?, column?, hierarchy?, List.filterMap_cons]

/-- The rows of a block begin with its documentation or its declaration. -/
theorem shallow_rows {b : Block} (hb : b.IsPlain) (ha : b.Admits) : Shallow 3 b.rows := by
  cases b with
  | measure m f =>
    have ho : ∀ e ∈ some m.expression, IsCode e ∧ f.Admits e := by
      rintro e ⟨⟩
      exact ⟨hb.expression, ha⟩
    have hh := shallow_head (n := 1) (m := 3) (k := .measure) (by decide) hb.description hb.name ho
    exact (hh.append_right (by simp [expressionRows_ne_nil]) _).append_right
      (by simp [expressionRows_ne_nil]) _
  | column k f =>
    have hh := shallow_head (n := 1) (m := 3) (k := .column) (by decide) hb.description hb.name
      fun e he => ⟨hb.expression e he, ha e he⟩
    exact ((hh.append_right (by simp [expressionRows_ne_nil]) _).append_right
      (by simp [expressionRows_ne_nil]) _).append_right (by simp [expressionRows_ne_nil]) _
  | hierarchy h =>
    rintro r ⟨⟩
    exact ⟨isPhrase_declaration .hierarchy hb.name (by simp), (by decide : 1 < 3)⟩

theorem shallow_flatMap_rows {bs : List Block} (hb : ∀ b ∈ bs, b.IsPlain ∧ b.Admits) :
    Shallow 3 (bs.flatMap rows) := by
  induction bs with
  | nil => exact fun r hr => absurd hr (by simp)
  | cons b bs ih =>
    obtain ⟨hp, ha⟩ := hb b List.mem_cons_self
    exact .append (shallow_rows hp ha) (ih fun b' h => hb b' (List.mem_cons_of_mem b h))

theorem isLine_rows {b : Block} (hb : b.IsPlain) (ha : b.Admits) :
    ∀ r ∈ b.rows, Text.IsLine r.text := by
  intro r hr
  cases b with
  | measure m f =>
    simp only [rows, Measure.rows, List.mem_append] at hr
    rcases hr with ((hr | hr) | hr) | hr
    · exact (docRows_phrases hb.description r hr).1.isLine
    · refine isLine_expressionRows hb.name ?_ r hr
      rintro e ⟨⟩
      exact ⟨hb.expression, ha⟩
    · exact (settingRows_phrases hb.settings r hr).1.isLine
    · exact (annotationRows_phrases hb.annotations r hr).1.isLine
  | column k f =>
    simp only [rows, Column.rows, List.mem_append] at hr
    rcases hr with (((hr | hr) | hr) | hr) | hr
    · exact (docRows_phrases hb.description r hr).1.isLine
    · exact isLine_expressionRows hb.name (fun e he => ⟨hb.expression e he, ha e he⟩) r hr
    · exact (settingRows_phrases hb.settings r hr).1.isLine
    · exact (annotationRows_phrases hb.annotations r hr).1.isLine
    · obtain ⟨v, hv, hr⟩ := List.mem_flatMap.mp hr
      have hp := hb.variation v (Option.mem_toList.mp hv)
      rcases List.mem_cons.mp hr with rfl | hr
      · exact (variationRow_phrase hp).isLine
      · exact (settingRows_phrases hp.settings r hr).1.isLine
  | hierarchy h =>
    simp only [rows, Hierarchy.rows, List.mem_append, List.mem_cons] at hr
    rcases hr with (rfl | hr) | hr
    · exact (isPhrase_declaration .hierarchy hb.name (by simp)).isLine
    · exact (settingRows_phrases hb.settings r hr).1.isLine
    · obtain ⟨l, hl, hr⟩ := List.mem_flatMap.mp hr
      have hp := hb.levels l hl
      rcases List.mem_cons.mp hr with rfl | hr
      · exact (isPhrase_declaration .level hp.name (by simp)).isLine
      · exact (settingRows_phrases hp.settings r hr).1.isLine

/-- A written block is read back as a child that is open after its rows. -/
theorem outcome_rows {b : Block} (hb : b.IsPlain) (ha : b.Admits) :
    ∃ k : Child, k.depth = 1 ∧ (∀ t, k.close t = b.addTo t) ∧
      ∀ t c rs, Shallow 3 rs → (idle t c).outcome i (b.rows ++ rs) =
        (idle (closed t c) (some k)).outcome i rs := by
  cases b with
  | measure m f =>
    exact ⟨.measure m 1, rfl, fun t => rfl, fun t c rs hr => outcome_measure hb ha hr⟩
  | column k f =>
    refine ⟨.column { k with variation := none } 1 (k.variation.map (·, 2)), rfl, fun t => ?_,
      fun t c rs hr => outcome_column hb ha hr⟩
    have hv : (k.variation.map (·, 2)).map Prod.fst = k.variation := by
      cases k.variation <;> rfl
    rw [Child.close, hv]
    rfl
  | hierarchy h =>
    obtain ⟨h', o, hc, ho⟩ := outcome_hierarchy hb
    exact ⟨.hierarchy h' 1 o, rfl, hc, fun t c rs _ => ho t c rs⟩

end Block

end Tabular.Tmdl
