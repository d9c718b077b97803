import Tabular.Proofs.Tmdl.Outline

/-!
# The expression of one record

Two drafts that differ in the expression of one record go on to differ in nothing else, whatever
passages are applied to them: no line that is read looks at an expression.
-/

namespace Tabular

open Tmdl

inductive Slot where
  | measure (index : Nat)
  | column (index : Nat)
  deriving DecidableEq, Repr

namespace Table

/-- The place of the next record that is declared with a keyword. -/
def nextSlot? (t : Table) : Keyword → Option Slot
  | .measure => some (.measure t.measures.length)
  | .column => some (.column t.columns.length)
  | _ => none

def nameAt? (t : Table) : Slot → Option String
  | .measure i => t.measures[i]?.map Measure.name
  | .column i => t.columns[i]?.map Column.name

/-- The table in which the record at a place has this expression. -/
def reword (s : Slot) (expression : String) (t : Table) : Table :=
  match s with
  | .measure i =>
    { t with measures := t.measures.modify i fun m => { m with expression := expression } }
  | .column i =>
    { t with columns := t.columns.modify i fun c => { c with expression := some expression } }

end Table

section Modify

variable {α : Type} (f : α → α)

theorem modify_append_of_lt {l : List α} {i : Nat} (h : i < l.length) (l' : List α) :
    (l ++ l').modify i f = l.modify i f ++ l' := by
  induction l generalizing i with
  | nil => simp at h
  | cons a l ih =>
    cases i with
    | zero => simp
    | succ i => simp [ih (Nat.lt_of_succ_lt_succ h)]

theorem modify_concat_length (l : List α) (a : α) :
    (l ++ [a]).modify l.length f = l ++ [f a] := by
  induction l with
  | nil => simp
  | cons b l ih => simp [ih]

end Modify

section Property

variable (key value expression : String)

theorem Measure.setProperty_expression (m : Measure) :
    { m with expression := expression }.setProperty key value =
      { m.setProperty key value with expression := expression } := by
  unfold setProperty
  split <;> dsimp only

theorem Column.setProperty_expression (c : Column) :
    { c with expression := some expression }.setProperty key value =
      { c.setProperty key value with expression := some expression } := by
  unfold setProperty
  split <;> dsimp only

theorem Table.setProperty_reword (s : Slot) (t : Table) :
    (t.reword s expression).setProperty key value =
      (t.setProperty key value).reword s expression := by
  unfold setProperty
  cases s with
  | measure i | column i =>
    dsimp only [reword]
    split <;> dsimp only

theorem Table.nameAt?_setProperty (s : Slot) (t : Table) :
    (t.setProperty key value).nameAt? s = t.nameAt? s := by
  obtain ⟨hm, hc, -⟩ := t.records_setProperty key value
  cases s with
  | measure i => rw [nameAt?, hm, nameAt?]
  | column i => rw [nameAt?, hc, nameAt?]

end Property

namespace Table

variable {s : Slot} {name : String} {t : Table}

theorem absorb_reword (s : Slot) (e : String) (l : Line) (t : Table) :
    (t.reword s e).absorb l = (t.absorb l).reword s e := by
  unfold absorb
  split
  · cases s <;> rfl
  · exact setProperty_reword _ _ e s t
  · exact setProperty_reword _ _ e s t
  · rfl

theorem nameAt?_absorb (s : Slot) (l : Line) (t : Table) :
    (t.absorb l).nameAt? s = t.nameAt? s := by
  unfold absorb
  split
  · cases s <;> rfl
  · exact nameAt?_setProperty _ _ s t
  · exact nameAt?_setProperty _ _ s t
  · rfl

theorem nameAt?_close (h : t.nameAt? s = some name) (c : Child) :
    (c.close t).nameAt? s = some name := by
  cases s with
  | measure i =>
    obtain ⟨m, hm, rfl⟩ := Option.map_eq_some_iff.mp h
    obtain ⟨hi, -⟩ := List.getElem?_eq_some_iff.mp hm
    cases c with
    | measure m' n => simp [nameAt?, Child.close, List.getElem?_append_left hi, hm]
    | column c n v | hierarchy r n l => exact h
  | column i =>
    obtain ⟨c', hm, rfl⟩ := Option.map_eq_some_iff.mp h
    obtain ⟨hi, -⟩ := List.getElem?_eq_some_iff.mp hm
    cases c with
    | column c n v => simp [nameAt?, Child.close, List.getElem?_append_left hi, hm]
    | measure m n | hierarchy r n l => exact h

theorem close_reword (h : t.nameAt? s = some name) (e : String) (c : Child) :
    c.close (t.reword s e) = (c.close t).reword s e := by
  cases s with
  | measure i =>
    obtain ⟨m, hm, -⟩ := Option.map_eq_some_iff.mp h
    obtain ⟨hi, -⟩ := List.getElem?_eq_some_iff.mp hm
    cases c with
    | measure m' n => simp [reword, Child.close, modify_append_of_lt _ hi]
    | column c n v | hierarchy h n l => rfl
  | column i =>
    obtain ⟨c', hm, -⟩ := Option.map_eq_some_iff.mp h
    obtain ⟨hi, -⟩ := List.getElem?_eq_some_iff.mp hm
    cases c with
    | column c n v => simp [reword, Child.close, modify_append_of_lt _ hi]
    | measure m n | hierarchy h n l => rfl

end Table

namespace Tmdl

namespace Child

/-- The place that the child takes in the table when it is closed, and its name. -/
def place? (t : Table) : Child → Option (Slot × String)
  | measure m _ => some (.measure t.measures.length, m.name)
  | column c _ _ => some (.column t.columns.length, c.name)
  | hierarchy _ _ _ => none

variable {s : Slot} {name : String} {t : Table} {c : Child}

theorem close_setExpression (h : c.place? t = some (s, name)) (e : String) :
    (c.setExpression e).close t = (c.close t).reword s e ∧
      (c.close t).nameAt? s = some name := by
  cases c with
  | measure m n =>
    cases h
    simp [setExpression, close, Table.reword, Table.nameAt?, modify_concat_length]
  | column c n v =>
    cases h
    simp [setExpression, close, Table.reword, Table.nameAt?, modify_concat_length]
  | hierarchy h n l => cases h

theorem depth_setExpression (e : String) (c : Child) : (c.setExpression e).depth = c.depth := by
  cases c <;> rfl

theorem setProperty_setExpression (here : Nat) (key value e : String) (c : Child) :
    (c.setExpression e).setProperty here key value =
      (c.setProperty here key value).setExpression e := by
  cases c with
  | measure m n => exact congrArg (measure · n) (m.setProperty_expression key value e)
  | column c n v =>
    rw [setExpression, setProperty_column, setProperty_column, c.setProperty_expression]
    split <;> rfl
  | hierarchy h n l =>
    rw [setExpression, setProperty_hierarchy]
    split <;> rfl

theorem absorb_setExpression (l : Line) (e : String) (c : Child) :
    (c.setExpression e).absorb l = (c.absorb l).setExpression e := by
  unfold absorb
  split
  · cases c <;> rfl
  · cases c <;> rfl
  · cases c <;> rfl
  · exact setProperty_setExpression _ _ _ e c
  · exact setProperty_setExpression _ _ _ e c
  · rfl

theorem place?_setProperty (here : Nat) (key value : String) (c : Child) :
    (c.setProperty here key value).place? t = c.place? t := by
  cases c with
  | measure m n => exact congrArg (fun a => some (_, a)) (m.outline_setProperty key value).1
  | column c n v =>
    rw [setProperty_column]
    split
    · rfl
    · exact congrArg (fun a => some (_, a)) (c.outline_setProperty key value).1
  | hierarchy h n l =>
    rw [setProperty_hierarchy]
    split <;> rfl

theorem place?_absorb (l : Line) (c : Child) : (c.absorb l).place? t = c.place? t := by
  unfold absorb
  split
  · cases c <;> rfl
  · cases c <;> rfl
  · cases c <;> rfl
  · exact place?_setProperty _ _ _ c
  · exact place?_setProperty _ _ _ c
  · rfl

end Child

namespace Draft

/-- Two drafts that differ in the expression of one record, which is in the table or still open. -/
inductive Reworded (s : Slot) (name expression : String) : Draft → Draft → Prop where
  | closed {d : Draft} (h : d.table.nameAt? s = some name) :
    Reworded s name expression d { d with table := d.table.reword s expression }
  | opened {d : Draft} {c : Child} (hc : d.child = some c)
      (h : c.place? d.table = some (s, name)) :
    Reworded s name expression d { d with child := some (c.setExpression expression) }

namespace Reworded

variable {s : Slot} {name e : String} {d d' : Draft}

/-- Once the child is closed the record is in the table. -/
theorem flush (h : Reworded s name e d d') :
    d'.flush = { d.flush with table := d.flush.table.reword s e } ∧
      d.flush.table.nameAt? s = some name := by
  cases h with
  | closed h =>
    cases hc : d.child with
    | none => simp [Draft.flush, hc, h]
    | some c => simp [Draft.flush, hc, Table.close_reword h, Table.nameAt?_close h]
  | opened hc h =>
    obtain ⟨he, hn⟩ := Child.close_setExpression h e
    simp [Draft.flush, hc, he, hn]

/-- A passage is applied to both alike. -/
theorem take (hm : d.mode = .scan) (h : Reworded s name e d d') (p : Passage) :
    Reworded s name e (d.take p) (d'.take p) := by
  obtain ⟨hf, hn⟩ := h.flush
  have hm' : d'.mode = .scan := by
    cases h <;> exact hm
  have hd : d'.docs = d.docs ∧ d'.depth = d.depth := by
    cases h <;> exact ⟨rfl, rfl⟩
  obtain ⟨c, ho⟩ | ⟨ho, ⟨c, hc, hl⟩ | hl⟩ := passage_cases d p
  · rw [take_of_opens hm ho, take_of_opens hm' (hd.1 ▸ ho), hf]
    exact closed (d := { d.flush with child := some c, mode := .scan, docs := [] }) hn
  · cases h with
    | closed h =>
      rw [take_of_open_child hm ho hc hl, take_of_open_child hm' ho hc hl]
      exact closed (d := { d with
        child := some (c.absorb p.line), mode := .scan, docs := p.line.docsAfter d.docs }) h
    | opened hc' h =>
      cases hc'.symm.trans hc
      rw [take_of_open_child hm ho hc hl,
        take_of_open_child hm' ho rfl ((c.depth_setExpression e).symm ▸ hl),
        Child.absorb_setExpression]
      exact opened (d := { d with
        child := some (c.absorb p.line), mode := .scan, docs := p.line.docsAfter d.docs }) rfl
        ((c.place?_absorb p.line).trans h)
  · have hl' : ∀ c ∈ d'.child, p.line.closes d'.depth c.depth = true := by
      cases h with
      | closed h => exact hl
      | opened hc h =>
        rintro c ⟨⟩
        rw [Child.depth_setExpression]
        exact hl _ hc
    rw [take_of_no_child hm ho hl, take_of_no_child hm' (hd.1 ▸ ho) hl', hf, hd.1,
      Table.absorb_reword]
    exact closed (d := { d.flush with
      table := d.flush.table.absorb p.line, mode := .scan, docs := p.line.docsAfter d.docs })
      ((Table.nameAt?_absorb s p.line _).trans hn)

theorem foldl_take (hm : d.mode = .scan) (h : Reworded s name e d d') (ps : List Passage) :
    Reworded s name e (ps.foldl Draft.take d) (ps.foldl Draft.take d') := by
  induction ps generalizing d d' with
  | nil => exact h
  | cons p ps ih => exact ih (mode_take d p) (h.take hm p)

end Reworded

end Draft

end Tmdl

end Tabular
