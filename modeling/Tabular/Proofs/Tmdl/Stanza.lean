import Tabular.Proofs.Tmdl.Body

/-!
# Stanzas

The record of a child, with the documentation before it and whatever is indented below it, is a
stanza. A stanza begins by closing the child before it, and nothing at its own depth is held back by
what that child left open, unless it is a fence. So the stanzas of a table are read as each would be
in a table of its own.
-/

namespace Tabular

/-- The records and annotations of a table are those of another and then those of a list of
tables. -/
structure Table.Extends (base : Table) (ts : List Table) (t : Table) : Prop where
  measures : t.measures = base.measures ++ ts.flatMap Table.measures
  columns : t.columns = base.columns ++ ts.flatMap Table.columns
  hierarchies : t.hierarchies = base.hierarchies ++ ts.flatMap Table.hierarchies
  annotations : t.annotations = base.annotations ++ ts.flatMap Table.annotations

namespace Table.Extends

open Tmdl

variable {base t t' : Table} {ts : List Table}

theorem refl (base : Table) : base.Extends [] base := by
  constructor <;> simp

theorem trans (h : base.Extends [t] t') {t'' : Table} (h' : t'.Extends ts t'') :
    base.Extends (t :: ts) t'' := by
  constructor
  · simp [h'.measures, h.measures]
  · simp [h'.columns, h.columns]
  · simp [h'.hierarchies, h.hierarchies]
  · simp [h'.annotations, h.annotations]

theorem close (h : base.Extends [t] t') (c : Child) : base.Extends [c.close t] (c.close t') := by
  obtain ⟨hm, hc, hh, ha⟩ := h
  cases c <;> constructor <;> simp_all [Child.close]

theorem setProperty (h : base.Extends [t] t') (key value : String) :
    base.Extends [t.setProperty key value] (t'.setProperty key value) := by
  obtain ⟨hm, hc, hh, ha⟩ := h
  obtain ⟨hm₁, hc₁, hh₁, ha₁⟩ := t.records_setProperty key value
  obtain ⟨hm₂, hc₂, hh₂, ha₂⟩ := t'.records_setProperty key value
  constructor <;> simp_all

theorem absorb (h : base.Extends [t] t') (l : Line) :
    base.Extends [t.absorb l] (t'.absorb l) := by
  unfold Table.absorb
  split
  · obtain ⟨hm, hc, hh, ha⟩ := h
    constructor <;> simp_all
  · exact h.setProperty _ _
  · exact h.setProperty _ _
  · exact h

end Table.Extends

namespace Tmdl

open Text

namespace Mode

/-- The mode after a line. -/
def next (m : Mode) (l : Line) : Mode :=
  if m.holds l then m.keep [l] else if m.reads l then l.mode else scan

/-- A mode that holds back no line at depth `n`, a fence apart. -/
def Within (n : Nat) : Mode → Prop
  | scan | fenced _ => True
  | indented m _ => n < m
  | skip m => n ≤ m

variable {n : Nat} {m : Mode} {l : Line}

theorem within_keep (h : m.Within n) (ls : List Line) : (m.keep ls).Within n := by
  cases m <;> exact h

theorem within_mode (h : l.isBlank = true ∨ n ≤ l.depth) : l.mode.Within n := by
  rw [Line.mode]
  split
  · next keyword hk =>
    have hb : l.isBlank = false := by
      rw [Line.isBlank, hk]
      rfl
    rw [hb] at h
    exact h.resolve_left (by simp)
  · next hk =>
    cases ho : l.opening? with
    | none => trivial
    | some o =>
      have hb : l.isBlank = false := by
        rw [Line.isBlank, beq_eq_false_iff_ne]
        intro hk
        rw [Line.opening?, hk] at ho
        cases ho
      rw [hb] at h
      have hd : n ≤ l.depth := h.resolve_left (by simp)
      cases o with
      | below =>
        change n < l.depth + 2
        omega
      | fenced | inline e => trivial

theorem within_next (hm : m.Within n) (h : l.isBlank = true ∨ n ≤ l.depth) :
    (m.next l).Within n := by
  rw [next]
  split
  · exact within_keep hm [l]
  · split
    · exact within_mode h
    · trivial

theorem within_foldl_next (hm : m.Within n) {ls : List Line}
    (h : ∀ l ∈ ls, l.isBlank = true ∨ n ≤ l.depth) : (ls.foldl next m).Within n := by
  induction ls generalizing m with
  | nil => exact hm
  | cons l ls ih =>
    obtain ⟨hl, hls⟩ := List.forall_mem_cons.mp h
    exact ih (within_next hm hl) hls

theorem reads_of_within (hm : m.Within n) (hf : ∀ taken, m ≠ fenced taken)
    (hb : l.isBlank = false) (hd : l.depth = n) : m.reads l = true := by
  cases m with
  | scan => rfl
  | fenced taken => exact absurd rfl (hf taken)
  | indented k taken =>
    have hk : n < k := hm
    simp only [reads, holds, hb, Bool.false_or, Bool.not_eq_true', decide_eq_false_iff_not]
    omega
  | skip k =>
    have hk : n ≤ k := hm
    simp only [reads, holds, hb, Bool.false_or, Bool.not_eq_true', decide_eq_false_iff_not]
    omega

end Mode

namespace Draft

theorem mode_feed (d : Draft) (l : Line) : (d.feed l).mode = d.mode.next l := by
  rw [Mode.next]
  rcases d.mode.holds_or_reads_or_closing l with h | h | ⟨lines, hm, h⟩
  · rw [feed_of_holds h, if_pos h]
  · have hn := Mode.not_holds_of_reads h
    rw [feed_of_reads h, mode_scan (mode_resume d), hn, h]
    rfl
  · have hn : d.mode.holds l = false := by
      simp [hm, Mode.holds, h]
    rw [feed_closing hm h, mode_resume, hn, hm]
    rfl

theorem mode_foldl_feed (d : Draft) (ls : List Line) :
    (ls.foldl feed d).mode = ls.foldl Mode.next d.mode :=
  (List.foldl_hom mode fun d l => (mode_feed d l).symm).symm

/-- Two drafts that are alike but for what the table of the second one has before the records and
annotations of the first. -/
structure Follows (base : Table) (d d' : Draft) : Prop where
  table : base.Extends [d.table] d'.table
  depth : d'.depth = d.depth
  child : d'.child = d.child
  docs : d'.docs = d.docs

namespace Follows

variable {base : Table} {d d' : Draft}

theorem flush (h : Follows base d d') : Follows base d.flush d'.flush := by
  obtain ⟨ht, hd, hc, hs⟩ := h
  constructor
  · rw [table_flush, table_flush, hc]
    cases d.child with
    | none => exact ht
    | some c => exact ht.close c
  · rw [depth_flush, depth_flush, hd]
  · rw [child_flush, child_flush]
  · rw [docs_flush, docs_flush, hs]

theorem take (hm : d.mode = .scan) (hm' : d'.mode = .scan) (h : Follows base d d') (p : Passage) :
    Follows base (d.take p) (d'.take p) := by
  obtain ⟨ht, hd, -, -⟩ := h.flush
  obtain ⟨c, ho⟩ | ⟨ho, ⟨c, hc, hn⟩ | hc⟩ := passage_cases d p
  · rw [take_of_opens hm ho, take_of_opens hm' (h.docs ▸ ho)]
    exact ⟨ht, hd, rfl, rfl⟩
  · rw [take_of_open_child hm ho hc hn,
      take_of_open_child hm' (h.docs ▸ ho) (h.child ▸ hc) (h.depth ▸ hn)]
    exact ⟨h.table, h.depth, rfl, by rw [h.docs]⟩
  · rw [take_of_no_child hm ho hc,
      take_of_no_child hm' (h.docs ▸ ho) (by rw [h.child, h.depth]; exact hc)]
    exact ⟨ht.absorb p.line, hd, by rw [child_flush, child_flush], by rw [h.docs]⟩

theorem foldl_take (hm : d.mode = .scan) (hm' : d'.mode = .scan) (h : Follows base d d')
    (ps : List Passage) : Follows base (ps.foldl Draft.take d) (ps.foldl Draft.take d') := by
  induction ps generalizing d d' with
  | nil => exact h
  | cons p ps ih => exact ih (mode_take d p) (mode_take d' p) (h.take hm hm' p)

end Follows

end Draft

def Line.isDoc (l : Line) : Bool :=
  match l.kind with
  | .doc _ => true
  | _ => false

def Line.opensChild (l : Line) : Bool :=
  match l.kind with
  | .declaration .measure _ _ | .declaration .column _ _ | .declaration .hierarchy _ _ => true
  | _ => false

/-- A child of a table that is declared at depth `n`, with the documentation before it and the
deeper lines after it. -/
structure Stanza (n : Nat) where
  docs : List (List Char)
  head : List Char
  body : List (List Char)
  docs_isDoc : ∀ l ∈ docs, indentDepth l = n ∧ (Line.ofRaw l).isDoc = true
  head_opensChild : indentDepth head = n ∧ (Line.ofRaw head).opensChild = true
  body_isDeep : IsDeep (n + 1) body

namespace Stanza

variable {n : Nat} (b : Stanza n)

def lines : List (List Char) := b.docs ++ b.head :: b.body

/-- After the stanza no fence is open and no documentation waits. -/
def IsComplete (heading : List Char) : Prop :=
  ∃ d, Reader.after (heading :: b.lines) = .inside d ∧ (∀ taken, d.mode ≠ .fenced taken) ∧
    d.docs = []

theorem not_blank_of_isDoc {l : Line} (h : l.isDoc = true) : l.isBlank = false := by
  rw [Line.isBlank, beq_eq_false_iff_ne]
  intro hk
  rw [Line.isDoc, hk] at h
  cases h

theorem not_blank_of_opensChild {l : Line} (h : l.opensChild = true) : l.isBlank = false := by
  rw [Line.isBlank, beq_eq_false_iff_ne]
  intro hk
  rw [Line.opensChild, hk] at h
  cases h

theorem exists_lines_eq_cons :
    ∃ l ls, b.lines = l :: ls ∧ (Line.ofRaw l).isBlank = false ∧ indentDepth l = n := by
  obtain ⟨docs, head, body, hdocs, hhead, hbody⟩ := b
  cases docs with
  | nil => exact ⟨head, body, rfl, not_blank_of_opensChild hhead.2, hhead.1⟩
  | cons l docs =>
    obtain ⟨hn, hl⟩ := hdocs l List.mem_cons_self
    exact ⟨l, docs ++ head :: body, rfl, not_blank_of_isDoc hl, hn⟩

theorem isBlank_or_le_depth {l : Line} (hl : l ∈ b.lines.map Line.ofRaw) :
    l.isBlank = true ∨ n ≤ l.depth := by
  obtain ⟨raw, hr, rfl⟩ := List.mem_map.mp hl
  rw [lines, List.mem_append, List.mem_cons] at hr
  rcases hr with hr | rfl | hr
  · exact .inr (Nat.le_of_eq (b.docs_isDoc raw hr).1.symm)
  · exact .inr (Nat.le_of_eq b.head_opensChild.1.symm)
  · rcases b.body_isDeep.isBlank_or_le_depth (List.mem_map_of_mem hr) with hb | hd
    · exact .inl hb
    · exact .inr (Nat.le_of_succ_le hd)

end Stanza

namespace Draft

variable {n : Nat} {d : Draft}

theorem feed_of_isDoc (hm : d.mode = .scan) {l : Line} (h : l.isDoc = true) :
    (d.feed l).mode = .scan ∧ (d.feed l).flush = d.flush.feed l := by
  obtain ⟨t, k, child, mode, docs⟩ := d
  obtain ⟨raw, depth, kind⟩ := l
  cases hm
  cases kind with
  | doc text => cases child <;> exact ⟨rfl, rfl⟩
  | blank | declaration keyword name value | unread keyword | property key value | flag name
    | other => cases h

theorem feed_of_opensChild (hm : d.mode = .scan) {l : Line} (h : l.opensChild = true) :
    d.feed l = d.flush.feed l := by
  have hs : d.flush.mode = .scan := (mode_flush d).trans hm
  have hf : d.flush.flush = d.flush := by
    rw [flush, child_flush]
  obtain ⟨c, hc⟩ : ∃ c, l.child? l.inline? d.docs = some c := by
    obtain ⟨raw, k, kind⟩ := l
    cases kind with
    | declaration keyword name value =>
      cases keyword with
      | measure | column | hierarchy => exact ⟨_, rfl⟩
      | model | table | level | variation | note | relationship => cases h
    | blank | doc text | unread keyword | property key value | flag name | other => cases h
  rw [feed, hm, feed, hs]
  dsimp only
  rw [scan_eq hm, scan_eq hs, docs_flush, hc, hf]

/-- A stanza begins by closing the child that was open. -/
theorem foldl_feed_stanza (hm : d.mode = .scan) (b : Stanza n) :
    (b.lines.map Line.ofRaw).foldl feed d = (b.lines.map Line.ofRaw).foldl feed d.flush := by
  have hd : ∀ l ∈ b.docs, (Line.ofRaw l).isDoc = true := fun l hl => (b.docs_isDoc l hl).2
  rw [Stanza.lines]
  generalize b.docs = docs at hd
  induction docs generalizing d with
  | nil =>
    have hh := feed_of_opensChild hm b.head_opensChild.2
    rw [List.nil_append, List.map_cons, List.foldl_cons, hh, List.foldl_cons]
  | cons l docs ih =>
    obtain ⟨hl, hds⟩ := List.forall_mem_cons.mp hd
    obtain ⟨hmode, hflush⟩ := feed_of_isDoc hm hl
    rw [List.cons_append, List.map_cons, List.foldl_cons, ih hmode hds, hflush, List.foldl_cons]

end Draft

section Siblings

variable {n : Nat} {d : Draft}

/-- Nothing is left over at the end of a stanza that would hold back the next one. -/
structure Draft.Ready (n : Nat) (d : Draft) : Prop where
  within : d.mode.Within n
  unfenced : ∀ taken, d.mode ≠ .fenced taken
  docs : d.docs = []

theorem Heading.extends_draft (h : Heading) (t : Table) : t.Extends [h.draft.table] t := by
  constructor <;> simp [draft]

/-- A stanza is read after others as it is read first of all. -/
theorem Draft.Ready.foldl_feed (hd : d.Ready n) {h : Heading} (hk : d.depth = h.depth)
    (b : Stanza n) (hb : ((b.lines.map .ofRaw).foldl feed h.draft).Ready n) :
    ((b.lines.map .ofRaw).foldl feed d).Ready n ∧
      ((b.lines.map .ofRaw).foldl feed d).depth = h.depth ∧
      d.finish.Extends [((b.lines.map .ofRaw).foldl feed h.draft).finish]
        ((b.lines.map .ofRaw).foldl feed d).finish := by
  obtain ⟨l, ls, hl, hblank, hdepth⟩ := b.exists_lines_eq_cons
  have hr : d.mode.reads (.ofRaw l) = true :=
    Mode.reads_of_within hd.within hd.unfenced hblank hdepth
  have hstart : (b.lines.map .ofRaw).foldl feed d =
      (b.lines.map .ofRaw).foldl feed d.resume.flush := by
    rw [← foldl_feed_stanza (mode_resume d), hl, List.map_cons, foldl_feed_of_reads hr]
  have hs : d.resume.flush.mode = .scan := (mode_flush _).trans (mode_resume d)
  have hmode : ((b.lines.map .ofRaw).foldl feed d).mode =
      ((b.lines.map .ofRaw).foldl feed h.draft).mode := by
    rw [hstart, mode_foldl_feed, mode_foldl_feed, hs]
    rfl
  have hf : Follows d.finish h.draft d.resume.flush := by
    constructor
    · rw [finish_eq_resume]
      exact h.extends_draft _
    · rw [depth_flush, depth_resume, hk]
      rfl
    · exact child_flush _
    · rw [docs_flush, docs_resume, hd.docs]
      rfl
  have hlast := hf.foldl_take rfl hs (passages (b.lines.map .ofRaw))
  have hfirst := depth_foldl_take (d := h.draft) rfl (passages (b.lines.map .ofRaw))
  rw [← resume_foldl_feed_eq rfl] at hfirst
  rw [← resume_foldl_feed_eq rfl, ← resume_foldl_feed_eq hs, ← hstart] at hlast
  refine ⟨⟨hmode ▸ hb.within, hmode ▸ hb.unfenced, ?_⟩, ?_, ?_⟩
  · rw [← docs_resume, hlast.docs, docs_resume, hb.docs]
  · rw [← depth_resume, hlast.depth, hfirst]
    rfl
  · rw [finish_eq_resume (List.foldl feed h.draft _), finish_eq_resume (List.foldl feed d _)]
    exact hlast.flush.table

theorem Draft.Ready.foldl_feed_flatMap (hd : d.Ready n) {h : Heading} (hk : d.depth = h.depth)
    {bs : List (Stanza n)}
    (hb : ∀ b ∈ bs, ((b.lines.map .ofRaw).foldl feed h.draft).Ready n) :
    d.finish.Extends (bs.map fun b => ((b.lines.map .ofRaw).foldl feed h.draft).finish)
      (((bs.flatMap Stanza.lines).map .ofRaw).foldl feed d).finish := by
  induction bs generalizing d with
  | nil => exact .refl _
  | cons b bs ih =>
    obtain ⟨hb, hbs⟩ := List.forall_mem_cons.mp hb
    obtain ⟨hr, hk', he⟩ := hd.foldl_feed hk b hb
    rw [List.flatMap_cons, List.map_append, List.foldl_append, List.map_cons]
    exact he.trans (ih hr hk' hbs)

theorem Reader.after_cons_of_table {heading : List Char} {name : String} {value : Option String}
    (hh : (Line.ofRaw heading).kind = .declaration .table name value) (ls : List (List Char)) :
    after (heading :: ls) =
      inside ((ls.map .ofRaw).foldl Draft.feed (Heading.draft ⟨name, [], indentDepth heading, []⟩)) := by
  have hf : start.feed (.ofRaw heading) =
      inside (Heading.draft ⟨name, [], indentDepth heading, []⟩) := feed_of_heading hh []
  rw [after_eq, List.map_cons, List.foldl_cons, hf, foldl_feed_inside]

theorem Stanza.IsComplete.ready {heading : List Char} {name : String} {value : Option String}
    (hh : (Line.ofRaw heading).kind = .declaration .table name value) {b : Stanza n}
    (hb : b.IsComplete heading) :
    ((b.lines.map .ofRaw).foldl Draft.feed
      (Heading.draft ⟨name, [], indentDepth heading, []⟩)).Ready n := by
  obtain ⟨d, hd, hf, hdocs⟩ := hb
  rw [Reader.after_cons_of_table hh, Reader.inside.injEq] at hd
  subst hd
  refine ⟨?_, hf, hdocs⟩
  have hs : Mode.scan.Within n := trivial
  rw [Draft.mode_foldl_feed]
  exact Mode.within_foldl_next hs fun l hl => b.isBlank_or_le_depth hl

/-- The stanzas of a table are read independently of one another: its records and annotations are
those of tables that have one of the stanzas each. -/
theorem readTable_stanzas {heading : List Char} {name : String} {value : Option String}
    (hh : (Line.ofRaw heading).kind = .declaration .table name value) {n : Nat}
    {bs : List (Stanza n)} (hb : ∀ b ∈ bs, b.IsComplete heading) :
    ∃ (t : Table) (ts : List Table), readTable (heading :: bs.flatMap Stanza.lines) = some t ∧
      bs.map (fun b => readTable (heading :: b.lines)) = ts.map some ∧
      t.measures = ts.flatMap Table.measures ∧ t.columns = ts.flatMap Table.columns ∧
      t.hierarchies = ts.flatMap Table.hierarchies ∧
      t.annotations = ts.flatMap Table.annotations := by
  have hread : ∀ ls, readTable (heading :: ls) = some ((ls.map .ofRaw).foldl Draft.feed
      (Heading.draft ⟨name, [], indentDepth heading, []⟩)).finish := by
    intro ls
    rw [Reader.readTable_eq_finish, Reader.after_cons_of_table hh]
    rfl
  have hready : (Heading.draft ⟨name, [], indentDepth heading, []⟩).Ready n :=
    ⟨trivial, by simp [Heading.draft], rfl⟩
  obtain ⟨hm, hc, hr, ha⟩ := hready.foldl_feed_flatMap rfl fun b h => (hb b h).ready hh
  refine ⟨_, _, hread _, ?_, hm, hc, hr, ha⟩
  rw [List.map_map]
  exact List.map_congr_left fun b _ => hread b.lines

def totalStanza : Stanza 1 where
  docs := ["\t/// All of it.".toList]
  head := "\tmeasure Total =".toList
  body := ["\t\t\tSUM(Amount)".toList, []]
  docs_isDoc := by decide
  head_opensChild := by decide
  body_isDeep := by decide

def amountStanza : Stanza 1 where
  docs := []
  head := "\tcolumn Amount".toList
  body := ["\t\tannotation Unit = Euro".toList, "\t\tpartition p = m".toList]
  docs_isDoc := by decide
  head_opensChild := by decide
  body_isDeep := by decide

theorem readTable_stanzas_sales :
    ∃ (t : Table) (ts : List Table),
      readTable ("table Sales".toList :: [totalStanza, amountStanza, totalStanza].flatMap
        Stanza.lines) = some t ∧
      [totalStanza, amountStanza, totalStanza].map
        (fun b => readTable ("table Sales".toList :: b.lines)) = ts.map some ∧
      t.measures = ts.flatMap Table.measures ∧ t.columns = ts.flatMap Table.columns ∧
      t.hierarchies = ts.flatMap Table.hierarchies ∧
      t.annotations = ts.flatMap Table.annotations := by
  have htotal : totalStanza.IsComplete "table Sales".toList := by
    refine ⟨_, rfl, ?_, rfl⟩
    intro taken h
    cases h
  have hamount : amountStanza.IsComplete "table Sales".toList := by
    refine ⟨_, rfl, ?_, rfl⟩
    intro taken h
    cases h
  refine readTable_stanzas rfl ?_
  intro b hb
  simp only [List.mem_cons, List.not_mem_nil, or_false] at hb
  rcases hb with rfl | rfl | rfl
  · exact htotal
  · exact hamount
  · exact htotal

end Siblings

end Tmdl

end Tabular
