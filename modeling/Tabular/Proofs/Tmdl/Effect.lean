import Tabular.Tmdl.Table

/-!
# What a line does

A line that is read inside a table does one of three things. It opens a child, which closes the one
before; it adds to the child that is open; or it adds to the table, having closed the open child if
it stands no deeper. How the lines after it are taken is told by the line alone.
-/

namespace Tabular.Tmdl

open Text

namespace Line

/-- How a measure or a column that the line declares begins its expression. -/
def opening? (l : Line) : Option Opening :=
  match l.kind with
  | .declaration .measure _ value | .declaration .column _ value => value.map Opening.ofValue
  | _ => none

def inline? (l : Line) : Option String :=
  match l.opening? with
  | some (.inline expression) => some expression
  | some .fenced | some .below | none => none

def mode (l : Line) : Mode :=
  match l.kind with
  | .unread _ => .skip l.depth
  | _ =>
    match l.opening? with
    | some .fenced => .fenced []
    | some .below => .indented (l.depth + 2) []
    | some (.inline _) | none => .scan

/-- The child that the line opens, with the formula if it can have one. -/
def child? (formula : Option String) (docs : List String) (l : Line) : Option Child :=
  match l.kind with
  | .declaration .measure name _ =>
    some (.measure
      { name := name, expression := formula.getD "", description := Draft.description docs } l.depth)
  | .declaration .column name _ =>
    some (.column { name := name, description := Draft.description docs, expression := formula }
      l.depth none)
  | .declaration .hierarchy name _ => some (.hierarchy { name := name } l.depth none)
  | _ => none

/-- Whether the line closes a child that is declared at `depth` in a table at `tableDepth`. -/
def closes (l : Line) (tableDepth depth : Nat) : Bool :=
  match l.kind with
  | .declaration .measure _ _ | .declaration .column _ _ | .declaration .hierarchy _ _ => true
  | .declaration .note _ _ | .property _ _ | .flag _ => !(depth < l.depth || depth ≤ tableDepth)
  | .unread _ => !(depth < l.depth)
  | _ => false

def docsAfter (docs : List String) (l : Line) : List String :=
  match l.kind with
  | .blank => docs
  | .doc text => docs ++ [text]
  | _ => []

theorem child?_setExpression (formula : Option String) (e : String) (docs : List String)
    (l : Line) : (l.child? formula docs).map (Child.setExpression e) = l.child? (some e) docs := by
  rw [child?, child?]
  split <;> rfl

theorem opening?_eq_none {formula : Option String} {docs : List String} {l : Line}
    (h : l.child? formula docs = none) : l.opening? = none := by
  rw [child?] at h
  rw [opening?]
  split <;> simp_all

end Line

def noteOf (name : String) (value : Option String) : Annotation :=
  ⟨name, (value.map valueText).getD ""⟩

/-- The child with what a line says that belongs to it. -/
def Child.absorb (l : Line) (c : Child) : Child :=
  match l.kind with
  | .declaration .level name _ => c.openLevel name l.depth
  | .declaration .variation name _ => c.openVariation name l.depth
  | .declaration .note name value => c.annotate (noteOf name value)
  | .property key value => c.setProperty l.depth key value
  | .flag name => c.setProperty l.depth name ""
  | _ => c

end Tmdl

open Tmdl in
/-- The table with what a line says that belongs to no child of it. -/
def Table.absorb (l : Line) (t : Table) : Table :=
  match l.kind with
  | .declaration .note name value => { t with annotations := t.annotations ++ [noteOf name value] }
  | .property key value => t.setProperty key value
  | .flag name => t.setProperty name ""
  | _ => t

/-- No property of a table is one of its records or annotations. -/
theorem Table.records_setProperty (key value : String) (t : Table) :
    (t.setProperty key value).measures = t.measures ∧
      (t.setProperty key value).columns = t.columns ∧
      (t.setProperty key value).hierarchies = t.hierarchies ∧
      (t.setProperty key value).annotations = t.annotations := by
  unfold setProperty
  split <;> exact ⟨rfl, rfl, rfl, rfl⟩

namespace Tmdl

namespace Child

variable (n here : Nat) (key value : String)

theorem setProperty_column (c : Column) (o : Option (Variation × Nat)) :
    (column c n o).setProperty here key value =
      if o.any fun v => v.2 < here || isVariationKey key then
        column c n (o.map fun v => (v.1.setProperty key value, v.2))
      else column (c.setProperty key value) n o := by
  cases o with
  | none => rfl
  | some v => rfl

theorem setProperty_hierarchy (h : Hierarchy) (o : Option (Level × Nat)) :
    (hierarchy h n o).setProperty here key value =
      if o.any fun l => l.2 < here || isLevelKey key then
        hierarchy h n (o.map fun l => (l.1.setProperty key value, l.2))
      else hierarchy (h.setProperty key value) n o := by
  cases o with
  | none => rfl
  | some l => rfl

theorem depth_setProperty (c : Child) : (c.setProperty here key value).depth = c.depth := by
  cases c with
  | measure m n => rfl
  | column c n o =>
    rw [setProperty_column]
    split <;> rfl
  | hierarchy h n o =>
    rw [setProperty_hierarchy]
    split <;> rfl

theorem depth_absorb (l : Line) (c : Child) : (c.absorb l).depth = c.depth := by
  unfold absorb
  split
  · cases c <;> rfl
  · cases c <;> rfl
  · cases c <;> rfl
  · exact depth_setProperty _ _ _ c
  · exact depth_setProperty _ _ _ c
  · rfl

end Child

namespace Draft

variable {d : Draft}

def closeFor (l : Line) (d : Draft) : Draft :=
  if d.child.any fun c => l.closes d.depth c.depth then d.flush else d

/-- The draft with what a line says, in the child if one is open and else in the table. -/
def absorb (l : Line) (d : Draft) : Draft :=
  match d.child with
  | some c => { d with child := some (c.absorb l) }
  | none => { d with table := d.table.absorb l }

theorem mode_flush (d : Draft) : d.flush.mode = d.mode := by
  rw [flush]
  split <;> rfl

theorem depth_flush (d : Draft) : d.flush.depth = d.depth := by
  rw [flush]
  split <;> rfl

theorem docs_flush (d : Draft) : d.flush.docs = d.docs := by
  rw [flush]
  split <;> rfl

theorem table_flush (d : Draft) : d.flush.table = d.child.elim d.table fun c => c.close d.table := by
  rw [flush]
  cases d.child <;> rfl

theorem child_flush (d : Draft) : d.flush.child = none := by
  rw [flush]
  cases h : d.child with
  | none => exact h
  | some c => rfl

theorem openChild_eq (hm : d.mode = .scan) (c : Child) (n : Nat) (value : Option String) :
    d.openChild c n value = match value.map Opening.ofValue with
      | some (.inline e) => { d.flush with child := some (c.setExpression e), mode := .scan }
      | some .fenced => { d.flush with child := some c, mode := .fenced [] }
      | some .below => { d.flush with child := some c, mode := .indented (n + 2) [] }
      | none => { d.flush with child := some c, mode := .scan } := by
  have hs : d.flush.mode = .scan := (mode_flush d).trans hm
  rw [openChild]
  rcases value.map Opening.ofValue with _ | ⟨e⟩ | _ | _
  · exact congrArg (fun m => ({ d.flush with child := some c, mode := m } : Draft)) hs
  · exact congrArg (fun m => ({ d.flush with child := some _, mode := m } : Draft)) hs
  · rfl
  · rfl

theorem settle_eq_closeFor {l : Line}
    (h : ∀ k, l.closes d.depth k = !(k < l.depth || k ≤ d.depth)) :
    d.settle l.depth = d.closeFor l := by
  rw [settle, closeFor]
  cases d.child with
  | none => rfl
  | some c =>
    simp only [Option.any_some, h]
    generalize (decide (c.depth < l.depth) || decide (c.depth ≤ d.depth)) = b
    cases b <;> rfl

theorem mode_closeFor (l : Line) (d : Draft) : (d.closeFor l).mode = d.mode := by
  rw [closeFor]
  split
  · exact mode_flush d
  · rfl

theorem setProperty_eq {l : Line} {key value : String}
    (hc : ∀ k, l.closes d.depth k = !(k < l.depth || k ≤ d.depth))
    (ha : ∀ c : Child, c.absorb l = c.setProperty l.depth key value)
    (ht : ∀ t : Table, t.absorb l = t.setProperty key value) :
    d.setProperty l.depth key value = (d.closeFor l).absorb l := by
  rw [setProperty, settle_eq_closeFor hc, absorb]
  cases (d.closeFor l).child with
  | none => simp [ht]
  | some c => simp [ha]

theorem annotate_eq {l : Line} {a : Annotation}
    (hc : ∀ k, l.closes d.depth k = !(k < l.depth || k ≤ d.depth))
    (ha : ∀ c : Child, c.absorb l = c.annotate a)
    (ht : ∀ t : Table, t.absorb l = { t with annotations := t.annotations ++ [a] }) :
    d.annotate l.depth a = (d.closeFor l).absorb l := by
  rw [annotate, settle_eq_closeFor hc, absorb]
  cases (d.closeFor l).child with
  | none => simp [ht]
  | some c => simp [ha]

theorem mode_absorb (l : Line) (d : Draft) : (d.absorb l).mode = d.mode := by
  rw [absorb]
  split <;> rfl

theorem absorb_eq_self {l : Line} (hc : ∀ c : Child, c.absorb l = c)
    (ht : ∀ t : Table, t.absorb l = t) (d : Draft) : d.absorb l = d := by
  obtain ⟨t, k, child, mode, docs⟩ := d
  cases child with
  | none => exact congrArg (fun t => (⟨t, k, none, mode, docs⟩ : Draft)) (ht t)
  | some c => exact congrArg (fun c => (⟨t, k, some c, mode, docs⟩ : Draft)) (hc c)

theorem skipBlock_eq {l : Line} (hc : ∀ k, l.closes d.depth k = !(k < l.depth)) :
    d.skipBlock l.depth = { d.closeFor l with mode := .skip l.depth } := by
  rw [skipBlock, closeFor]
  cases h : d.child with
  | none => simp [flush, h]
  | some c =>
    simp only [Option.any_some, hc]
    by_cases hl : c.depth < l.depth <;> simp [hl]

theorem absorb_closeFor_with_mode {e : Draft} {l : Line} (hm : d.mode = .scan)
    (h : e = (d.closeFor l).absorb l) :
    { e with docs := [] } = { (d.closeFor l).absorb l with mode := .scan, docs := [] } := by
  have hs : e.mode = .scan := by
    rw [h, mode_absorb, mode_closeFor, hm]
  rw [← h, ← hs]

/-- What a line does that is read. -/
theorem scan_eq (hm : d.mode = .scan) (l : Line) :
    d.scan l = match l.child? l.inline? d.docs with
      | some c => { d.flush with child := some c, mode := l.mode, docs := [] }
      | none => { (d.closeFor l).absorb l with mode := l.mode, docs := l.docsAfter d.docs } := by
  obtain ⟨raw, n, kind⟩ := l
  obtain ⟨t, k, child, mode, docs⟩ := d
  subst hm
  cases kind with
  | blank | doc text | other => cases child <;> rfl
  | declaration keyword name value =>
    cases keyword with
    | measure | column =>
      simp only [scan, declare, Line.child?, Line.inline?, Line.mode, Line.opening?]
      rw [openChild_eq rfl]
      rcases value.map Opening.ofValue with _ | ⟨e⟩ | _ | _ <;> rfl
    | hierarchy =>
      simp only [scan, declare, Line.child?, Line.mode, Line.opening?]
      rw [openChild_eq rfl]
      rfl
    | note =>
      exact absorb_closeFor_with_mode (l := ⟨raw, n, .declaration .note name value⟩) rfl
        (annotate_eq (fun _ => rfl) (fun _ => rfl) (fun _ => rfl))
    | model | table | relationship | level | variation => cases child <;> rfl
  | unread keyword =>
    have hs := skipBlock_eq (d := ⟨t, k, child, .scan, docs⟩) (l := ⟨raw, n, .unread keyword⟩)
      fun _ => rfl
    have ha := absorb_eq_self (l := ⟨raw, n, .unread keyword⟩) (fun _ => rfl) (fun _ => rfl)
      (closeFor ⟨raw, n, .unread keyword⟩ ⟨t, k, child, .scan, docs⟩)
    simp only [scan, Line.child?, ha]
    rw [hs]
    rfl
  | property key value =>
    exact absorb_closeFor_with_mode (l := ⟨raw, n, .property key value⟩) rfl
      (setProperty_eq (fun _ => rfl) (fun _ => rfl) (fun _ => rfl))
  | flag name =>
    exact absorb_closeFor_with_mode (l := ⟨raw, n, .flag name⟩) rfl
      (setProperty_eq (fun _ => rfl) (fun _ => rfl) (fun _ => rfl))

theorem absorb_closeFor_child {l : Line} {c : Child} (hc : d.child = some c)
    (hn : l.closes d.depth c.depth = false) :
    (d.closeFor l).absorb l = { d with child := some (c.absorb l) } := by
  have hs : d.closeFor l = d := by
    simp [closeFor, hc, hn]
  rw [hs, absorb, hc]

theorem absorb_closeFor_table {l : Line} (h : ∀ c ∈ d.child, l.closes d.depth c.depth = true) :
    (d.closeFor l).absorb l = { d.flush with table := d.flush.table.absorb l } := by
  have hs : d.closeFor l = d.flush := by
    cases hc : d.child with
    | none => simp [closeFor, flush, hc]
    | some c => simp [closeFor, hc, h c hc]
  rw [hs, absorb]
  split
  · next c hc => rw [child_flush] at hc; cases hc
  · rfl

/-- What a line does to the mode is told by the line. -/
theorem mode_scan (hm : d.mode = .scan) (l : Line) : (d.scan l).mode = l.mode := by
  rw [scan_eq hm]
  split <;> rfl

end Draft

end Tmdl

end Tabular
