import Tabular.Proofs.Tmdl.Expression
import Tabular.Proofs.Tmdl.Heading

/-!
# Indenting a whole definition

Only the depth of one line against that of another matters. Whole units of indentation before every
line, the same ones each time, move all depths together and are cut off expressions again, so the
same table is read.
-/

namespace Tabular.Tmdl

open Text

/-- Units of indentation one after another, tabs and groups of spaces in any mix. -/
def indentation (us : List Indent) : List Char := us.flatMap Indent.unit

section Text

variable (us : List Indent)

theorem isBlank_of_mem_indentation {us : List Indent} {c : Char} (h : c ∈ indentation us) :
    isBlank c = true := by
  obtain ⟨i, -, hc⟩ := List.mem_flatMap.mp h
  cases i <;> simp only [Indent.unit, List.mem_cons, List.not_mem_nil, or_false, or_self] at hc <;>
    subst hc <;> decide

theorem indentDepth_indentation (s : List Char) :
    indentDepth (indentation us ++ s) = us.length + indentDepth s := by
  induction us with
  | nil => simp [indentation]
  | cons i us ih =>
    have hu : indentation (i :: us) ++ s = i.unit ++ (indentation us ++ s) := by
      simp [indentation]
    rw [hu, indentDepth, indentFrom_unit, ← indentDepth, ih, List.length_cons]
    omega

theorem trim_indentation (s : List Char) : trim (indentation us ++ s) = trim s :=
  trim_append_of_blank (fun _ h => isBlank_of_mem_indentation h) s

theorem isBlankText_indentation (s : List Char) :
    isBlankText (indentation us ++ s) = isBlankText s := by
  have hu : isBlankText (indentation us) = true :=
    List.all_eq_true.mpr fun c hc => isBlank_of_mem_indentation hc
  rw [isBlankText_append, hu, Bool.true_and]

theorem leadingBytes_indentation (s : List Char) :
    leadingBytes (indentation us ++ s) = utf8Length (indentation us) + leadingBytes s := by
  rw [leadingBytes, List.takeWhile_append_of_pos fun c hc => isBlank_of_mem_indentation hc,
    utf8Length_append, leadingBytes]

theorem dedentLine_indentation (n : Nat) (s : List Char) :
    dedentLine (utf8Length (indentation us) + n) (indentation us ++ s) = dedentLine n s := by
  rw [dedentLine, isBlankText_indentation, dropUtf8_add_append,
    trimStart_append_of_blank fun c hc => isBlank_of_mem_indentation hc, dedentLine]

theorem min?_map_add (k : Nat) (ns : List Nat) :
    (ns.map (k + ·)).min? = ns.min?.map (k + ·) := by
  induction ns with
  | nil => rfl
  | cons n ns ih =>
    rw [List.map_cons, List.min?_cons, List.min?_cons, ih]
    cases ns.min? with
    | none => rfl
    | some m => simp only [Option.map_some, Option.elim_some]; congr 1; omega

theorem commonIndent_indentation {ls : List (List Char)} {l : List Char} (hl : l ∈ ls)
    (hb : isBlankText l = false) :
    commonIndent (ls.map (indentation us ++ ·)) =
      utf8Length (indentation us) + commonIndent ls := by
  have hm : ((ls.map (indentation us ++ ·)).filter (!isBlankText ·)).map leadingBytes =
      ((ls.filter (!isBlankText ·)).map leadingBytes).map (utf8Length (indentation us) + ·) := by
    have hf : (fun l => !isBlankText l) ∘ (indentation us ++ ·) = fun l => !isBlankText l := by
      funext l
      rw [Function.comp_apply, isBlankText_indentation]
    rw [List.filter_map, hf, List.map_map, List.map_map]
    exact List.map_congr_left fun l _ => leadingBytes_indentation us l
  have hn : ((ls.filter (!isBlankText ·)).map leadingBytes).min? ≠ none := by
    rw [ne_eq, List.min?_eq_none_iff, List.map_eq_nil_iff, List.filter_eq_nil_iff]
    intro h
    exact absurd (h l hl) (by simp [hb])
  obtain ⟨m, hm'⟩ := Option.ne_none_iff_exists'.mp hn
  rw [commonIndent, hm, min?_map_add, commonIndent, hm']
  rfl

/-- The indentation that all lines have is cut off an expression. -/
theorem joinExpression_indentation (ls : List (List Char)) :
    joinExpression (ls.map (indentation us ++ ·)) = joinExpression ls := by
  have hd : ls.map (dedentLine (commonIndent (ls.map (indentation us ++ ·))) ∘
      (indentation us ++ ·)) = ls.map (dedentLine (commonIndent ls)) := by
    refine List.map_congr_left fun l hl => ?_
    rw [Function.comp_apply]
    cases hb : isBlankText l with
    | true =>
      have hb' : isBlankText (indentation us ++ l) = true :=
        (isBlankText_indentation us l).trans hb
      rw [dedentLine, if_pos hb', dedentLine, if_pos hb]
    | false => rw [commonIndent_indentation us hl hb, dedentLine_indentation]
  rw [joinExpression, List.map_map, hd, ← joinExpression]

end Text

section Deepen

variable (us : List Indent)

/-- A line with more indentation before it. -/
def Line.deepen (l : Line) : Line := ⟨indentation us ++ l.raw, us.length + l.depth, l.kind⟩

theorem Line.ofRaw_indentation (raw : List Char) :
    Line.ofRaw (indentation us ++ raw) = (Line.ofRaw raw).deepen us := by
  rw [ofRaw, indentDepth_indentation, trim_indentation, deepen, ofRaw]

def Mode.deepen : Mode → Mode
  | scan => scan
  | fenced lines => fenced (lines.map (indentation us ++ ·))
  | indented n lines => indented (us.length + n) (lines.map (indentation us ++ ·))
  | skip n => skip (us.length + n)

theorem Line.mode_deepen (l : Line) : (l.deepen us).mode = l.mode.deepen us := by
  obtain ⟨raw, n, kind⟩ := l
  cases kind with
  | unread keyword => rfl
  | blank | doc text | property key value | flag name | other => rfl
  | declaration keyword name value =>
    cases keyword with
    | measure | column => cases value with
      | none => rfl
      | some v =>
        simp only [mode, deepen, opening?, Option.map_some]
        cases Opening.ofValue v <;> rfl
    | model | table | hierarchy | level | variation | note | relationship => rfl

theorem Mode.holds_deepen (m : Mode) (l : Line) : (m.deepen us).holds (l.deepen us) = m.holds l := by
  cases m with
  | scan => rfl
  | fenced lines => simp [deepen, holds, Line.deepen, trim_indentation]
  | indented n lines | skip n => simp [deepen, holds, Line.deepen, Line.isBlank]

theorem Mode.rest_deepen (m : Mode) (ls : List Line) :
    (m.deepen us).rest (ls.map (Line.deepen us)) = (m.rest ls).map (Line.deepen us) := by
  have hd : (ls.map (Line.deepen us)).dropWhile (m.deepen us).holds =
      (ls.dropWhile m.holds).map (Line.deepen us) := by
    rw [List.dropWhile_map]
    exact congrArg (fun p => (ls.dropWhile p).map _) (funext (holds_deepen us m))
  cases m with
  | fenced lines => exact (congrArg List.tail hd).trans List.map_tail.symm
  | scan | indented n lines | skip n => exact hd

def Passage.deepen (p : Passage) : Passage := ⟨p.line.deepen us, p.body.map (Line.deepen us)⟩

theorem passages_deepen (ls : List Line) :
    passages (ls.map (Line.deepen us)) = (passages ls).map (Passage.deepen us) := by
  induction ls using passages.induct with
  | case1 => rw [List.map_nil, passages_nil, List.map_nil]
  | case2 l ls ih =>
    have ht : (ls.map (Line.deepen us)).takeWhile (l.mode.deepen us).holds =
        (ls.takeWhile l.mode.holds).map (Line.deepen us) := by
      rw [List.takeWhile_map]
      exact congrArg (fun p => (ls.takeWhile p).map _) (funext (l.mode.holds_deepen us))
    rw [List.map_cons, passages_cons, passages_cons, List.map_cons, Line.mode_deepen, ht,
      Mode.rest_deepen, ih, Passage.deepen]

theorem Passage.formula?_deepen (p : Passage) : (p.deepen us).formula? = p.formula? := by
  have hj : joinExpression ((p.body.map (Line.deepen us)).map Line.raw) =
      joinExpression (p.body.map Line.raw) := by
    rw [← joinExpression_indentation us (p.body.map Line.raw), List.map_map, List.map_map]
    rfl
  simp only [formula?, deepen, hj]
  rfl

namespace Child

/-- A child whose lines all have `k` more units of indentation. -/
def deepen (k : Nat) : Child → Child
  | measure m n => measure m (k + n)
  | column c n v => column c (k + n) (v.map (Prod.map id (k + ·)))
  | hierarchy h n l => hierarchy h (k + n) (l.map (Prod.map id (k + ·)))

variable (k : Nat) (c : Child)

theorem depth_deepen : (c.deepen k).depth = k + c.depth := by
  cases c <;> rfl

theorem close_deepen (t : Table) : (c.deepen k).close t = c.close t := by
  cases c with
  | measure m n => rfl
  | column c n v => cases v <;> rfl
  | hierarchy h n l => cases l <;> rfl

theorem setProperty_deepen (here : Nat) (key value : String) :
    (c.deepen k).setProperty (k + here) key value = (c.setProperty here key value).deepen k := by
  cases c with
  | measure m n => rfl
  | column c n v =>
    cases v with
    | none => rfl
    | some v =>
      simp only [deepen, Option.map_some, Prod.map, setProperty, Nat.add_lt_add_iff_left]
      split <;> rfl
  | hierarchy h n l =>
    cases l with
    | none => rfl
    | some l =>
      simp only [deepen, Option.map_some, Prod.map, setProperty, Nat.add_lt_add_iff_left]
      split <;> rfl

theorem absorb_deepen (l : Line) :
    (c.deepen us.length).absorb (l.deepen us) = (c.absorb l).deepen us.length := by
  obtain ⟨raw, n, kind⟩ := l
  cases kind with
  | blank | doc text | unread keyword | other => rfl
  | property key value => exact setProperty_deepen _ c n key value
  | flag name => exact setProperty_deepen _ c n name ""
  | declaration keyword name value =>
    cases keyword with
    | level => cases c with
      | hierarchy h n l => cases l <;> rfl
      | measure m n | column c n v => rfl
    | variation | note => cases c <;> rfl
    | model | table | measure | column | hierarchy | relationship => rfl

end Child

theorem Line.child?_deepen (formula : Option String) (docs : List String) (l : Line) :
    (l.deepen us).child? formula docs = (l.child? formula docs).map (Child.deepen us.length) := by
  obtain ⟨raw, n, kind⟩ := l
  cases kind with
  | declaration keyword name value => cases keyword <;> rfl
  | blank | doc text | unread keyword | property key value | flag name | other => rfl

theorem Line.closes_deepen (l : Line) (tableDepth n : Nat) :
    (l.deepen us).closes (us.length + tableDepth) (us.length + n) = l.closes tableDepth n := by
  simp only [closes, deepen, Nat.add_lt_add_iff_left, Nat.add_le_add_iff_left]

namespace Draft

def deepen (k : Nat) (d : Draft) : Draft :=
  { d with depth := k + d.depth, child := d.child.map (Child.deepen k) }

theorem flush_deepen (k : Nat) (d : Draft) : (d.deepen k).flush = d.flush.deepen k := by
  obtain ⟨t, n, child, mode, docs⟩ := d
  cases child with
  | none => rfl
  | some c => simp only [flush, deepen, Option.map_some, Child.close_deepen, Option.map_none]

theorem closeFor_deepen (d : Draft) (l : Line) :
    (d.deepen us.length).closeFor (l.deepen us) = (d.closeFor l).deepen us.length := by
  have hc : (d.deepen us.length).child.any (fun c =>
      (l.deepen us).closes (d.deepen us.length).depth c.depth) =
      d.child.any fun c => l.closes d.depth c.depth := by
    cases h : d.child with
    | none => simp [deepen, h]
    | some c => simp [deepen, h, Child.depth_deepen, Line.closes_deepen]
  rw [closeFor, hc, flush_deepen, closeFor]
  split <;> rfl

theorem absorb_deepen (d : Draft) (l : Line) :
    (d.deepen us.length).absorb (l.deepen us) = (d.absorb l).deepen us.length := by
  obtain ⟨t, n, child, mode, docs⟩ := d
  cases child with
  | none => rfl
  | some c => simp only [absorb, deepen, Option.map_some, Child.absorb_deepen]

theorem take_deepen {d : Draft} (hm : d.mode = .scan) (p : Passage) :
    (d.deepen us.length).take (p.deepen us) = (d.take p).deepen us.length := by
  have hc : (p.deepen us).line.child? (p.deepen us).formula? (d.deepen us.length).docs =
      (p.line.child? p.formula? d.docs).map (Child.deepen us.length) := by
    rw [Passage.formula?_deepen]
    exact p.line.child?_deepen us p.formula? d.docs
  have ha : ((d.deepen us.length).closeFor (p.deepen us).line).absorb (p.deepen us).line =
      ((d.closeFor p.line).absorb p.line).deepen us.length := by
    rw [← absorb_deepen, ← closeFor_deepen]
    rfl
  rw [take_eq (d := d.deepen us.length) hm, take_eq hm, hc, ha, flush_deepen]
  cases p.line.child? p.formula? d.docs <;> rfl

/-- Passages that all have the same indentation more make the same table. -/
theorem foldl_take_deepen {d : Draft} (hm : d.mode = .scan) (ps : List Passage) :
    (ps.map (Passage.deepen us)).foldl take (d.deepen us.length) =
      (ps.foldl take d).deepen us.length := by
  induction ps generalizing d with
  | nil => rfl
  | cons p ps ih => rw [List.map_cons, List.foldl_cons, take_deepen us hm, ih (mode_take d p),
      List.foldl_cons]

end Draft

def Heading.deepen (h : Heading) : Heading :=
  { h with depth := us.length + h.depth, rest := h.rest.map (Line.deepen us) }

theorem heading?_deepen (docs : List String) (ls : List Line) :
    heading? docs (ls.map (Line.deepen us)) = (heading? docs ls).map (Heading.deepen us) := by
  induction docs, ls using heading?.induct with
  | case1 docs => rw [List.map_nil, heading?]; rfl
  | case2 docs l ls name value h =>
    have hd : (l.deepen us).kind = .declaration .table name value := h
    rw [List.map_cons, heading?, heading?, h, hd]
    rfl
  | case3 docs l ls keyword h ih =>
    have hd : (l.deepen us).kind = .unread keyword := h
    have hr := Mode.rest_deepen us (.skip l.depth) ls
    rw [List.map_cons, heading?, heading?, h, hd, ← ih]
    exact congrArg (heading? []) hr
  | case4 docs l ls ht hu ih =>
    have hk : (l.deepen us).kind = l.kind := rfl
    rw [List.map_cons, heading?, heading?, hk]
    split
    · next name value h => exact absurd h (ht name value)
    · next keyword h => exact absurd h (hu keyword)
    · exact ih

end Deepen

/-- Indenting every line by the same units leaves the table that is read as it is. -/
theorem readTable_indentation (us : List Indent) (ls : List (List Char)) :
    readTable (ls.map (indentation us ++ ·)) = readTable ls := by
  have hl : (ls.map (indentation us ++ ·)).map Line.ofRaw =
      (ls.map Line.ofRaw).map (Line.deepen us) := by
    rw [List.map_map, List.map_map]
    exact List.map_congr_left fun l _ => Line.ofRaw_indentation us l
  rw [readTable_eq, readTable_eq, hl, heading?_deepen, Option.map_map]
  refine congrArg (Option.map · (heading? [] (ls.map Line.ofRaw))) (funext fun h => ?_)
  have hf := Draft.foldl_take_deepen us (d := h.draft) rfl (passages h.rest)
  rw [Function.comp_apply, Heading.deepen, passages_deepen]
  exact (congrArg (fun d => d.flush.table) hf).trans
    (congrArg Draft.table (Draft.flush_deepen us.length _))

end Tabular.Tmdl
