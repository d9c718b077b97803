import Mathlib.Data.List.Induction
import Tabular.Proofs.Tmdl.Heading

/-!
# What becomes of the declarations

Every measure, column and hierarchy that is declared inside a table is a record of it in the end, in
the order of the declarations. A measure or a column has the expression that its own passage gives
it, and a hierarchy has the levels that are declared until it is closed.
-/

namespace Tabular

/-- The names of the records of a table, with the expressions and the levels that belong to them. -/
structure Outline where
  measures : List (String × String) := []
  columns : List (String × Option String) := []
  hierarchies : List (String × List String) := []
  deriving DecidableEq, Repr

namespace Outline

instance : Append Outline where
  append a b :=
    ⟨a.measures ++ b.measures, a.columns ++ b.columns, a.hierarchies ++ b.hierarchies⟩

variable (a b c : Outline)

theorem append_def :
    a ++ b = ⟨a.measures ++ b.measures, a.columns ++ b.columns, a.hierarchies ++ b.hierarchies⟩ :=
  rfl

theorem nil_append : ({} : Outline) ++ a = a := rfl

theorem append_nil : a ++ ({} : Outline) = a := by
  simp [append_def]

theorem append_assoc : a ++ b ++ c = a ++ (b ++ c) := by
  simp [append_def]

end Outline

def Table.outline (t : Table) : Outline where
  measures := t.measures.map fun m => (m.name, m.expression)
  columns := t.columns.map fun c => (c.name, c.expression)
  hierarchies := t.hierarchies.map fun h => (h.name, h.levels.map Level.name)

section Property

variable (key value : String)

theorem Measure.outline_setProperty (m : Measure) :
    (m.setProperty key value).name = m.name ∧
      (m.setProperty key value).expression = m.expression := by
  unfold setProperty
  split <;> exact ⟨rfl, rfl⟩

theorem Column.outline_setProperty (c : Column) :
    (c.setProperty key value).name = c.name ∧
      (c.setProperty key value).expression = c.expression := by
  unfold setProperty
  split <;> exact ⟨rfl, rfl⟩

theorem Hierarchy.outline_setProperty (h : Hierarchy) :
    (h.setProperty key value).name = h.name ∧ (h.setProperty key value).levels = h.levels := by
  unfold setProperty
  split <;> exact ⟨rfl, rfl⟩

theorem Level.name_setProperty (l : Level) : (l.setProperty key value).name = l.name := by
  unfold setProperty
  split <;> rfl

theorem Table.outline_setProperty (t : Table) : (t.setProperty key value).outline = t.outline := by
  obtain ⟨hm, hc, hh, -⟩ := t.records_setProperty key value
  rw [outline, hm, hc, hh, outline]

end Property

theorem Table.outline_absorb (l : Tmdl.Line) (t : Table) : (t.absorb l).outline = t.outline := by
  unfold absorb
  split
  · rfl
  · exact outline_setProperty _ _ t
  · exact outline_setProperty _ _ t
  · rfl

namespace Tmdl

def Line.level? (l : Line) : Option String :=
  match l.kind with
  | .declaration .level name _ => some name
  | _ => none

/-- The levels that are declared before a hierarchy is closed whose declaration is at `depth`. -/
def levelsOf (tableDepth depth : Nat) (ps : List Passage) : List String :=
  (ps.takeWhile fun p => !p.line.closes tableDepth depth).filterMap fun p => p.line.level?

/-- The record that a passage declares, which has these levels if it is a hierarchy. -/
def Passage.outline (levels : List String) (p : Passage) : Outline :=
  match p.line.kind with
  | .declaration .measure name _ => { measures := [(name, p.formula?.getD "")] }
  | .declaration .column name _ => { columns := [(name, p.formula?)] }
  | .declaration .hierarchy name _ => { hierarchies := [(name, levels)] }
  | _ => {}

def outlineOf (tableDepth : Nat) : List Passage → Outline
  | [] => {}
  | p :: ps => p.outline (levelsOf tableDepth p.line.depth ps) ++ outlineOf tableDepth ps

namespace Child

/-- What comes of an open child that is a hierarchy if these levels are still to come. -/
def outline (coming : List String) : Child → Outline
  | measure m _ => { measures := [(m.name, m.expression)] }
  | column c _ _ => { columns := [(c.name, c.expression)] }
  | hierarchy h _ l =>
    { hierarchies :=
        [(h.name, (h.levels ++ (l.map Prod.fst).toList).map Level.name ++ coming)] }

variable (coming : List String) (c : Child)

theorem outline_close (t : Table) : (c.close t).outline = t.outline ++ c.outline [] := by
  cases c <;> simp [close, Table.outline, outline, Outline.append_def]

theorem outline_setProperty (here : Nat) (key value : String) :
    (c.setProperty here key value).outline coming = c.outline coming := by
  cases c with
  | measure m n =>
    obtain ⟨hn, he⟩ := m.outline_setProperty key value
    rw [setProperty, outline, hn, he, outline]
  | column c n v =>
    obtain ⟨hn, he⟩ := c.outline_setProperty key value
    rw [setProperty_column]
    split
    · rfl
    · rw [outline, hn, he, outline]
  | hierarchy h n o =>
    obtain ⟨hn, hl⟩ := h.outline_setProperty key value
    rw [setProperty_hierarchy]
    split
    · cases o with
      | none => rfl
      | some l => simp [outline, l.1.name_setProperty]
    · rw [outline, hn, hl, outline]

/-- Of what an open child takes up a level alone shows in the outline. -/
theorem outline_absorb (l : Line) :
    (c.absorb l).outline coming = c.outline (l.level?.toList ++ coming) := by
  obtain ⟨raw, n, kind⟩ := l
  cases kind with
  | blank | doc text | unread keyword | other => rfl
  | property key value => exact c.outline_setProperty coming n key value
  | flag name => exact c.outline_setProperty coming n name ""
  | declaration keyword name value =>
    cases keyword with
    | level => cases c <;> simp [absorb, Line.level?, openLevel, outline]
    | variation | note => cases c <;> rfl
    | model | table | measure | column | hierarchy | relationship => rfl

end Child

theorem outline_of_child? {p : Passage} {docs : List String} {c : Child}
    (h : p.line.child? p.formula? docs = some c) (coming : List String) :
    c.outline coming = p.outline coming ∧ c.depth = p.line.depth := by
  unfold Line.child? at h
  unfold Passage.outline
  split at h <;> simp_all
  all_goals
    subst h
    exact ⟨rfl, rfl⟩

theorem outline_eq_nil {p : Passage} {docs : List String}
    (h : p.line.child? p.formula? docs = none) (levels : List String) : p.outline levels = {} := by
  unfold Line.child? at h
  unfold Passage.outline
  split at h <;> simp_all

theorem closes_of_child? {p : Passage} {docs : List String} {c : Child}
    (h : p.line.child? p.formula? docs = some c) (k n : Nat) : p.line.closes k n = true := by
  unfold Line.child? at h
  unfold Line.closes
  split at h <;> simp_all

theorem levelsOf_cons_of_closes {p : Passage} {k n : Nat} (h : p.line.closes k n = true)
    (ps : List Passage) : levelsOf k n (p :: ps) = [] := by
  simp [levelsOf, h]

theorem levelsOf_cons_of_not_closes {p : Passage} {k n : Nat} (h : p.line.closes k n = false)
    (ps : List Passage) : levelsOf k n (p :: ps) = p.line.level?.toList ++ levelsOf k n ps := by
  rw [levelsOf, List.takeWhile_cons_of_pos (by simp [h]), List.filterMap_cons]
  cases p.line.level? <;> rfl

namespace Draft

variable {d : Draft}

theorem outline_flush (d : Draft) :
    d.flush.table.outline = d.table.outline ++ d.child.elim {} (Child.outline []) := by
  rw [table_flush]
  cases d.child with
  | none => exact (Outline.append_nil _).symm
  | some c => exact c.outline_close d.table

/-- What the passages that are left add to the outline of a draft. -/
theorem outline_foldl_take (hm : d.mode = .scan) (ps : List Passage) :
    (ps.foldl take d).flush.table.outline =
      d.table.outline ++ (d.child.elim {} fun c => c.outline (levelsOf d.depth c.depth ps)) ++
        outlineOf d.depth ps := by
  induction ps generalizing d with
  | nil =>
    rw [List.foldl_nil, outline_flush, outlineOf, Outline.append_nil]
    rfl
  | cons p ps ih =>
    rw [List.foldl_cons, ih (mode_take d p), depth_take hm, outlineOf]
    obtain ⟨c, ho⟩ | ⟨ho, ⟨c, hc, hn⟩ | hc⟩ := passage_cases d p
    · obtain ⟨hk, hn⟩ := outline_of_child? ho (levelsOf d.depth p.line.depth ps)
      have hl : (d.child.elim {} fun k => k.outline (levelsOf d.depth k.depth (p :: ps))) =
          d.child.elim {} (Child.outline []) := by
        cases d.child with
        | none => rfl
        | some k => simp [levelsOf_cons_of_closes (closes_of_child? ho d.depth k.depth)]
      rw [take_of_opens hm ho, hl, ← outline_flush]
      simp only [Option.elim_some, hn, hk, Outline.append_assoc]
    · rw [take_of_open_child hm ho hc hn, hc, outline_eq_nil ho, Outline.nil_append]
      simp only [Option.elim_some, Child.depth_absorb, Child.outline_absorb,
        levelsOf_cons_of_not_closes hn]
    · have hl : (d.child.elim {} fun k => k.outline (levelsOf d.depth k.depth (p :: ps))) =
          d.child.elim {} (Child.outline []) := by
        cases h : d.child with
        | none => rfl
        | some k => simp [levelsOf_cons_of_closes (hc k h)]
      rw [take_of_no_child hm ho hc, hl, ← outline_flush, outline_eq_nil ho, Outline.nil_append]
      simp only [child_flush, Option.elim_none, Outline.append_nil, Table.outline_absorb]

end Draft

def Line.Declares (l : Line) : Child → Prop
  | .measure m n => (∃ value, l.kind = .declaration .measure m.name value) ∧ n = l.depth
  | .column c n _ => (∃ value, l.kind = .declaration .column c.name value) ∧ n = l.depth
  | .hierarchy _ _ _ => False

theorem Line.declares_of_child? {l : Line} {formula : Option String} {docs : List String}
    {c : Child} (hc : l.child? formula docs = some c) (ho : l.opening? ≠ none) : l.Declares c := by
  unfold child? at hc
  unfold opening? at ho
  split at hc
  · next name value hk =>
    cases hc
    exact ⟨⟨value, hk⟩, rfl⟩
  · next name value hk =>
    cases hc
    exact ⟨⟨value, hk⟩, rfl⟩
  · next name value hk => simp [hk] at ho
  · cases hc

theorem Draft.exists_declares_scan {d : Draft} {l : Line} {body : List (List Char)}
    (hm : d.mode = .scan) (h : l.mode.expression? = some body) :
    body = [] ∧ ∃ c, (d.scan l).child = some c ∧ l.Declares c := by
  have ho : l.opening? ≠ none ∧ body = [] := by
    rw [l.expression?_mode] at h
    split at h <;> simp_all
  refine ⟨ho.2, ?_⟩
  rw [scan_eq hm]
  cases hc : l.child? l.inline? d.docs with
  | none => exact absurd (Line.opening?_eq_none hc) ho.1
  | some c => exact ⟨c, rfl, Line.declares_of_child? hc ho.1⟩

namespace Reader

theorem mode_of_feed_before {docs : List String} {skipping : Option Nat} {l : Line} {d : Draft}
    (h : (before docs skipping).feed l = inside d) : d.mode = .scan := by
  have hs : ∀ docs, scanBefore docs l = inside d → d.mode = .scan := by
    intro docs hs
    unfold scanBefore at hs
    split at hs <;> cases hs
    rfl
  cases skipping with
  | none => exact hs docs h
  | some n =>
    rw [feed] at h
    split at h
    · cases h
    · exact hs docs h

/-- While the lines of an expression are taken, the open child is the one whose declaration began it,
and what has been taken is all that came after that. -/
theorem exists_declares_of_expression {ls body : List (List Char)} {d : Draft}
    (hd : after ls = inside d) (hb : d.mode.expression? = some body) :
    ∃ before line c, ls = before ++ line :: body ∧ (after before).reads (.ofRaw line) = true ∧
      d.child = some c ∧ (Line.ofRaw line).Declares c := by
  induction ls using List.reverseRecOn generalizing d body with
  | nil => cases hd
  | append_singleton ls raw ih =>
    have ha : after (ls ++ [raw]) = (after ls).feed (.ofRaw raw) := by
      simp [after]
    rw [ha] at hd
    cases hr : after ls with
    | before docs skipping =>
      rw [hr] at hd
      have hs := mode_of_feed_before hd
      rw [hs] at hb
      cases hb
    | inside d₀ =>
      rw [hr, feed, Reader.inside.injEq] at hd
      subst hd
      rcases d₀.mode.holds_or_reads_or_closing (.ofRaw raw) with h | h | ⟨lines, hm, h⟩
      · rw [Draft.feed_of_holds h] at hb ⊢
        rw [Mode.expression?_keep, Option.map_eq_some_iff] at hb
        obtain ⟨taken, ht, rfl⟩ := hb
        obtain ⟨before, line, c, hl, hread, hc, hdecl⟩ := ih hr ht
        exact ⟨before, line, c, by simp [hl, Line.ofRaw], hread, hc, hdecl⟩
      · rw [Draft.feed_of_reads h] at hb ⊢
        rw [Draft.mode_scan (Draft.mode_resume d₀)] at hb
        obtain ⟨rfl, c, hc, hdecl⟩ := Draft.exists_declares_scan (Draft.mode_resume d₀) hb
        exact ⟨ls, raw, c, rfl, by rw [hr]; exact h, hc, hdecl⟩
      · rw [Draft.feed_closing hm h, Draft.mode_resume] at hb
        cases hb

end Reader

/-- A table has the records that are declared in the lines read after its own declaration, in order
and each with its own expression and levels; and an expression is never taken but for the open
record, whose declaration began it. -/
theorem outline_readTable (ls : List (List Char)) :
    (readTable ls).map Table.outline =
        (heading? [] (ls.map Line.ofRaw)).map (fun h => outlineOf h.depth (passages h.rest)) ∧
      (∀ h ∈ heading? [] (ls.map Line.ofRaw),
        (passages h.rest).map Passage.line = h.draft.readLines h.rest ∧
          ∃ n docs skipping, Reader.after (ls.take n) = .before docs skipping ∧
            Reader.after (ls.take (n + 1)) = .inside h.draft ∧
            (ls.drop (n + 1)).map Line.ofRaw = h.rest) ∧
      ∀ d body, Reader.after ls = .inside d → d.mode.expression? = some body →
        ∃ before line c, ls = before ++ line :: body ∧
          (Reader.after before).reads (.ofRaw line) = true ∧
          d.child = some c ∧ (Line.ofRaw line).Declares c := by
  refine ⟨?_, ?_, fun d body hd hb => Reader.exists_declares_of_expression hd hb⟩
  · rw [readTable_eq, Option.map_map]
    refine congrArg (Option.map · (heading? [] (ls.map Line.ofRaw))) (funext fun h => ?_)
    exact (Draft.outline_foldl_take (d := h.draft) rfl (passages h.rest)).trans
      (Outline.nil_append _)
  · intro h hh
    have hr : h.draft.mode.rest h.rest = h.rest := by
      cases h.rest <;> rfl
    exact ⟨by rw [Draft.readLines_eq, hr], Reader.exists_after_of_heading? hh⟩

def unfinished : List (List Char) :=
  ["table Sales", "\tmeasure Total =", "", "\t\t\tmeasure Other = 1"].map String.toList

theorem outline_readTable_unfinished :
    (∃ h ∈ heading? [] (unfinished.map Line.ofRaw),
      (passages h.rest).map Passage.line = h.draft.readLines h.rest ∧
        ∃ n docs skipping, Reader.after (unfinished.take n) = .before docs skipping ∧
          Reader.after (unfinished.take (n + 1)) = .inside h.draft ∧
          (unfinished.drop (n + 1)).map Line.ofRaw = h.rest) ∧
      ∃ d body, Reader.after unfinished = .inside d ∧ d.mode.expression? = some body ∧
        ∃ before line c, unfinished = before ++ line :: body ∧
          (Reader.after before).reads (.ofRaw line) = true ∧
          d.child = some c ∧ (Line.ofRaw line).Declares c := by
  obtain ⟨houtline, hheading, hexpression⟩ := outline_readTable unfinished
  constructor
  · cases hh : heading? [] (unfinished.map Line.ofRaw) with
    | none =>
      rw [hh] at houtline
      cases houtline
    | some h => exact ⟨h, rfl, hheading h hh⟩
  · exact ⟨_, _, rfl, rfl, hexpression _ _ rfl rfl⟩

end Tmdl

end Tabular
