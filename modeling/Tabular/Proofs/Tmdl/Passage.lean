import Mathlib.Data.List.Basic
import Tabular.Proofs.Tmdl.Effect

/-!
# Passages

A line that is read may take lines after it, which are set aside: those of its expression, or those
of a block of which nothing is read. The line and what it takes are a passage. Where a passage ends
is told by its lines alone, and reading a table line by line comes to applying its passages one
after another.
-/

namespace Tabular.Tmdl

open Text

namespace Mode

/-- Whether the line is set aside and those after it are taken in the same way. -/
def holds (m : Mode) (l : Line) : Bool :=
  match m with
  | scan => false
  | fenced _ => trim l.raw != fence
  | indented n _ => l.isBlank || n ≤ l.depth
  | skip n => l.isBlank || n < l.depth

/-- Whether the line is read for what it says. A closing fence is not, though it ends its mode. -/
def reads (m : Mode) (l : Line) : Bool :=
  match m with
  | fenced _ => false
  | scan | indented _ _ | skip _ => !m.holds l

def keep (m : Mode) (ls : List Line) : Mode :=
  match m with
  | fenced lines => fenced (lines ++ ls.map Line.raw)
  | indented n lines => indented n (lines ++ ls.map Line.raw)
  | scan | skip _ => m

def rest (m : Mode) (ls : List Line) : List Line :=
  match m with
  | fenced _ => (ls.dropWhile m.holds).tail
  | scan | indented _ _ | skip _ => ls.dropWhile m.holds

/-- The lines of the expression that is being taken, if there is one. -/
def expression? : Mode → Option (List (List Char))
  | fenced lines | indented _ lines => some lines
  | scan | skip _ => none

variable (m : Mode) (l : Line) (ls : List Line)

theorem keep_nil : m.keep [] = m := by
  cases m <;> simp [keep]

theorem keep_cons : m.keep (l :: ls) = (m.keep [l]).keep ls := by
  cases m <;> simp [keep]

theorem holds_keep : (m.keep ls).holds = m.holds := by
  funext l
  cases m <;> rfl

theorem rest_keep (bs : List Line) : (m.keep bs).rest ls = m.rest ls := by
  cases m <;> rfl

theorem rest_cons_of_holds {m : Mode} {l : Line} (h : m.holds l = true) (ls : List Line) :
    m.rest (l :: ls) = m.rest ls := by
  cases m <;> simp [rest, List.dropWhile_cons_of_pos h]

theorem rest_cons_of_reads {m : Mode} {l : Line} (h : m.reads l = true) (ls : List Line) :
    m.rest (l :: ls) = l :: ls := by
  cases m with
  | fenced lines => simp [reads] at h
  | scan | indented n lines | skip n =>
    simp only [reads, Bool.not_eq_true'] at h
    simp [rest, h]

theorem length_rest_le : (m.rest ls).length ≤ ls.length := by
  have hd : (ls.dropWhile m.holds).length ≤ ls.length := (List.dropWhile_sublist _).length_le
  cases m with
  | fenced lines =>
    rw [rest, List.length_tail]
    omega
  | scan | indented n lines | skip n => exact hd

theorem expression?_keep : (m.keep ls).expression? = m.expression?.map (· ++ ls.map Line.raw) := by
  cases m <;> rfl

theorem not_holds_of_reads {m : Mode} {l : Line} (h : m.reads l = true) : m.holds l = false := by
  cases m with
  | fenced lines => cases h
  | scan | indented n lines | skip n =>
    rw [reads, Bool.not_eq_true'] at h
    exact h

/-- A line that is neither set aside nor read is a closing fence. -/
theorem holds_or_reads_or_closing :
    m.holds l = true ∨ m.reads l = true ∨ ∃ lines, m = fenced lines ∧ trim l.raw = fence := by
  cases m with
  | fenced lines =>
    by_cases h : trim l.raw = fence
    · exact .inr (.inr ⟨lines, rfl, h⟩)
    · exact .inl (by simp [holds, h])
  | scan | indented n lines | skip n =>
    simp only [reads, Bool.not_eq_true']
    cases holds _ l <;> simp

end Mode

/-- Only an expression that the line leaves open is taken from the lines after it. -/
theorem Line.expression?_mode (l : Line) :
    l.mode.expression? = match l.opening? with
      | some .fenced | some .below => some []
      | some (.inline _) | none => none := by
  rw [mode]
  split
  · next h => rw [opening?, h]; rfl
  · rcases l.opening? with _ | ⟨e⟩ | _ | _ <;> rfl

/-- A line that is read, with the lines that it takes after it. -/
structure Passage where
  line : Line
  body : List Line
  deriving DecidableEq, Repr

def Passage.formula? (p : Passage) : Option String :=
  match p.line.opening? with
  | some (.inline expression) => some expression
  | some .fenced | some .below => some (String.ofList (joinExpression (p.body.map Line.raw)))
  | none => none

/-- The passages of the lines inside a table. -/
def passages : List Line → List Passage
  | [] => []
  | l :: ls => ⟨l, ls.takeWhile l.mode.holds⟩ :: passages (l.mode.rest ls)
termination_by ls => ls.length
decreasing_by exact Nat.lt_succ_of_le (l.mode.length_rest_le ls)

theorem passages_nil : passages [] = [] := by
  rw [passages]

theorem passages_cons (l : Line) (ls : List Line) :
    passages (l :: ls) = ⟨l, ls.takeWhile l.mode.holds⟩ :: passages (l.mode.rest ls) := by
  rw [passages]

namespace Draft

variable {d : Draft} {l : Line}

/-- The draft with the expression ended that is being taken, or the block that is passed over. -/
def resume (d : Draft) : Draft :=
  match d.mode.expression? with
  | some lines => d.setExpression lines
  | none => { d with mode := .scan }

/-- A passage is applied: its line is read, and its body ends. -/
def take (d : Draft) (p : Passage) : Draft :=
  ({ d.scan p.line with mode := p.line.mode.keep p.body } : Draft).resume

theorem mode_resume (d : Draft) : d.resume.mode = .scan := by
  rw [resume]
  split <;> rfl

theorem docs_resume (d : Draft) : d.resume.docs = d.docs := by
  rw [resume]
  split <;> rfl

theorem depth_resume (d : Draft) : d.resume.depth = d.depth := by
  rw [resume]
  split <;> rfl

theorem resume_eq_self (hm : d.mode = .scan) : d.resume = d := by
  rw [resume, hm]
  exact congrArg (fun m => { d with mode := m }) hm.symm

theorem mode_take (d : Draft) (p : Passage) : (d.take p).mode = .scan := mode_resume _

theorem finish_eq_resume (d : Draft) : d.finish = d.resume.flush.table := by
  rw [finish, resume]
  cases d.mode with
  | scan | skip n =>
    simp only [Mode.expression?]
    cases hc : d.child <;> simp [flush, hc]
  | fenced lines | indented n lines => rfl

theorem feed_of_holds (h : d.mode.holds l = true) :
    d.feed l = { d with mode := d.mode.keep [l] } := by
  rw [feed]
  cases hm : d.mode with
  | scan => simp [hm, Mode.holds] at h
  | fenced lines =>
    have hf : trim l.raw ≠ fence := by
      simpa [hm, Mode.holds] using h
    exact if_neg hf
  | indented n lines =>
    rw [hm, Mode.holds] at h
    simp only [h, if_true]
    rfl
  | skip n =>
    rw [hm, Mode.holds] at h
    simp only [h, if_true]
    exact congrArg (fun m => { d with mode := m }) hm

theorem feed_of_reads (h : d.mode.reads l = true) : d.feed l = d.resume.scan l := by
  rw [feed, resume]
  cases hm : d.mode with
  | scan => exact congrArg (fun m => ({ d with mode := m } : Draft).scan l) hm
  | fenced lines => simp [hm, Mode.reads] at h
  | indented n lines | skip n =>
    rw [hm, Mode.reads, Bool.not_eq_true', Mode.holds] at h
    simp only [h, Mode.expression?]
    rfl

theorem feed_closing {lines : List (List Char)} (hm : d.mode = .fenced lines)
    (h : trim l.raw = fence) : d.feed l = d.resume := by
  rw [feed, resume, hm]
  exact if_pos h

/-- A line that is read ends what came before it. -/
theorem foldl_feed_of_reads (h : d.mode.reads l = true) (ls : List Line) :
    (l :: ls).foldl feed d = (l :: ls).foldl feed d.resume := by
  have hr : d.resume.mode.reads l = true := by
    rw [mode_resume]
    rfl
  rw [List.foldl_cons, List.foldl_cons, feed_of_reads h, feed_of_reads hr,
    resume_eq_self (mode_resume d)]

/-- The lines that a mode holds are set aside together. -/
theorem resume_foldl_feed (d : Draft) (ls : List Line) :
    (ls.foldl feed d).resume = ((d.mode.rest ls).foldl feed
      ({ d with mode := d.mode.keep (ls.takeWhile d.mode.holds) } : Draft).resume).resume := by
  induction ls generalizing d with
  | nil =>
    have hr : d.mode.rest [] = [] := by
      cases d.mode <;> rfl
    rw [hr, List.takeWhile_nil, Mode.keep_nil]
    exact (resume_eq_self (mode_resume d)).symm
  | cons l ls ih =>
    rcases d.mode.holds_or_reads_or_closing l with h | h | ⟨lines, hm, h⟩
    · rw [List.foldl_cons, feed_of_holds h, ih]
      simp only [Mode.rest_keep, Mode.holds_keep]
      rw [Mode.rest_cons_of_holds h, List.takeWhile_cons_of_pos h, ← Mode.keep_cons]
    · have hn := Mode.not_holds_of_reads h
      rw [Mode.rest_cons_of_reads h, List.takeWhile_cons_of_neg (by simp [hn]), Mode.keep_nil,
        foldl_feed_of_reads h]
    · have hn : d.mode.holds l = false := by
        simp [hm, Mode.holds, h]
      have hr : d.mode.rest (l :: ls) = ls := by
        rw [hm] at hn ⊢
        simp [Mode.rest, hn]
      rw [hr, List.takeWhile_cons_of_neg (by simp [hn]), Mode.keep_nil, List.foldl_cons,
        feed_closing hm h]

/-- Reading lines one by one comes to applying their passages. -/
theorem resume_foldl_feed_eq (hm : d.mode = .scan) (ls : List Line) :
    (ls.foldl feed d).resume = (passages ls).foldl take d := by
  induction ls using passages.induct generalizing d with
  | case1 => rw [passages_nil, List.foldl_nil, List.foldl_nil, resume_eq_self hm]
  | case2 l ls ih =>
    have hf : d.feed l = d.scan l := by
      rw [feed, hm]
    have ht : ({ d.scan l with
        mode := (d.scan l).mode.keep (ls.takeWhile (d.scan l).mode.holds) } : Draft).resume =
        d.take ⟨l, ls.takeWhile l.mode.holds⟩ := by
      rw [mode_scan hm, take]
    rw [passages_cons, List.foldl_cons, List.foldl_cons, hf, resume_foldl_feed, ht, mode_scan hm,
      ih (mode_take d _)]

/-- The lines that are read for what they say when these are fed to a draft. -/
def readLines (d : Draft) : List Line → List Line
  | [] => []
  | l :: ls => if d.mode.reads l then l :: (d.feed l).readLines ls else (d.feed l).readLines ls

/-- What is read are the first lines of the passages. -/
theorem readLines_eq (d : Draft) (ls : List Line) :
    d.readLines ls = (passages (d.mode.rest ls)).map Passage.line := by
  induction ls generalizing d with
  | nil =>
    have hr : d.mode.rest [] = [] := by
      cases d.mode <;> rfl
    rw [readLines, hr, passages_nil, List.map_nil]
  | cons l ls ih =>
    rw [readLines, ih]
    rcases d.mode.holds_or_reads_or_closing l with h | h | ⟨lines, hm, h⟩
    · have hn : ¬d.mode.reads l = true := by
        intro hr
        rw [Mode.not_holds_of_reads hr] at h
        cases h
      rw [if_neg hn, feed_of_holds h, Mode.rest_keep, Mode.rest_cons_of_holds h]
    · rw [if_pos h, feed_of_reads h, mode_scan (mode_resume d), Mode.rest_cons_of_reads h,
        passages_cons, List.map_cons]
    · have hn : ¬d.mode.reads l = true := by
        simp [hm, Mode.reads]
      have hr : d.mode.rest (l :: ls) = ls := by
        simp [hm, Mode.rest, Mode.holds, h]
      have hs : Mode.scan.rest ls = ls := by
        cases ls <;> rfl
      rw [if_neg hn, feed_closing hm h, mode_resume, hr, hs]

theorem resume_of_expression?_eq_none {m : Mode} (h : m.expression? = none) :
    ({ d with mode := m } : Draft).resume = { d with mode := .scan } := by
  simp only [resume, h]

/-- What a passage does. -/
theorem take_eq (hm : d.mode = .scan) (p : Passage) :
    d.take p = match p.line.child? p.formula? d.docs with
      | some c => { d.flush with child := some c, mode := .scan, docs := [] }
      | none => { (d.closeFor p.line).absorb p.line with
          mode := .scan, docs := p.line.docsAfter d.docs } := by
  have he := (p.line.mode.expression?_keep p.body).trans
    (congrArg (Option.map (· ++ p.body.map Line.raw)) p.line.expression?_mode)
  rw [take, scan_eq hm, Passage.formula?]
  rw [Line.inline?]
  cases ho : p.line.opening? with
  | none =>
    rw [ho] at he
    rw [resume_of_expression?_eq_none he]
    cases p.line.child? none d.docs <;> rfl
  | some o =>
    cases o with
    | inline e =>
      rw [ho] at he
      rw [resume_of_expression?_eq_none he]
      dsimp only
      cases p.line.child? (some e) d.docs <;> rfl
    | fenced | below =>
      rw [ho] at he
      dsimp only at he ⊢
      cases hc : p.line.child? none d.docs with
      | none => rw [Line.opening?_eq_none hc] at ho; cases ho
      | some c =>
        rw [← Line.child?_setExpression none, hc, resume]
        simp only [he]
        rfl

section Cases

variable {p : Passage} {c : Child}

theorem take_of_opens (hm : d.mode = .scan) (ho : p.line.child? p.formula? d.docs = some c) :
    d.take p = { d.flush with child := some c, mode := .scan, docs := [] } := by
  rw [take_eq hm, ho]

theorem take_of_open_child (hm : d.mode = .scan) (ho : p.line.child? p.formula? d.docs = none)
    (hc : d.child = some c) (hn : p.line.closes d.depth c.depth = false) :
    d.take p = { d with
      child := some (c.absorb p.line), mode := .scan, docs := p.line.docsAfter d.docs } := by
  rw [take_eq hm, ho, absorb_closeFor_child hc hn]

theorem take_of_no_child (hm : d.mode = .scan) (ho : p.line.child? p.formula? d.docs = none)
    (hc : ∀ c ∈ d.child, p.line.closes d.depth c.depth = true) :
    d.take p = { d.flush with
      table := d.flush.table.absorb p.line, mode := .scan, docs := p.line.docsAfter d.docs } := by
  rw [take_eq hm, ho, absorb_closeFor_table hc]

/-- A passage opens a child, or adds to the child that is open, or else adds to the table. -/
theorem passage_cases (d : Draft) (p : Passage) :
    (∃ c, p.line.child? p.formula? d.docs = some c) ∨
      p.line.child? p.formula? d.docs = none ∧
        ((∃ c, d.child = some c ∧ p.line.closes d.depth c.depth = false) ∨
          ∀ c ∈ d.child, p.line.closes d.depth c.depth = true) := by
  cases p.line.child? p.formula? d.docs with
  | some c => exact .inl ⟨c, rfl⟩
  | none =>
    refine .inr ⟨rfl, ?_⟩
    cases d.child with
    | none => exact .inr (by simp)
    | some c =>
      cases h : p.line.closes d.depth c.depth with
      | false => exact .inl ⟨c, rfl, h⟩
      | true => exact .inr (by simp [h])

end Cases

theorem depth_take (hm : d.mode = .scan) (p : Passage) : (d.take p).depth = d.depth := by
  obtain ⟨c, ho⟩ | ⟨ho, ⟨c, hc, hn⟩ | hc⟩ := passage_cases d p
  · rw [take_of_opens hm ho]
    exact depth_flush d
  · rw [take_of_open_child hm ho hc hn]
  · rw [take_of_no_child hm ho hc]
    exact depth_flush d

theorem depth_foldl_take (hm : d.mode = .scan) (ps : List Passage) :
    (ps.foldl take d).depth = d.depth := by
  induction ps generalizing d with
  | nil => rfl
  | cons p ps ih => exact (ih (mode_take d p)).trans (depth_take hm p)

end Draft

end Tabular.Tmdl
