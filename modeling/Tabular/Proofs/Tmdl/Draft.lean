import Tabular.Proofs.Tmdl.Expression
import Tabular.Proofs.Tmdl.Record

/-!
# Reading written rows into a draft

What is read from a row depends on the rows after it only where an expression stands below its
declaration: such an expression ends at the next row that is less deep. Each kind of row is followed
here to the draft from which the rows after it are read.
-/

namespace Tabular.Tmdl

open Text

namespace Draft

/-- The table that comes of a draft when these rows are what is left. -/
def outcome (i : Indent) (d : Draft) (rows : List Row) : Table :=
  (rows.foldl (fun d r => d.feed (.ofRaw (r.write i))) d).finish

def idle (t : Table) (child : Option Child) : Draft := { table := t, depth := 0, child := child }

/-- The table with the open child, if there is one, as the last of its kind. -/
def closed (t : Table) (child : Option Child) : Table := child.elim t (Child.close t)

theorem outcome_idle_nil (i : Indent) (t : Table) (child : Option Child) :
    (idle t child).outcome i [] = closed t child := by
  cases child <;> rfl

end Draft

/-- The first of the rows, if there is one, says something and is less deep than `n`. -/
def Shallow (n : Nat) (rows : List Row) : Prop :=
  ∀ r ∈ rows.head?, IsPhrase r.text ∧ r.depth < n

namespace Shallow

variable {n : Nat} {a b : List Row}

theorem of_phrases {k : Nat} (h : ∀ r ∈ a, IsPhrase r.text ∧ r.depth = k) (hk : k < n) :
    Shallow n a := by
  intro r hr
  obtain ⟨hp, hd⟩ := h r (List.mem_of_mem_head? hr)
  exact ⟨hp, hd ▸ hk⟩

theorem append (ha : Shallow n a) (hb : Shallow n b) : Shallow n (a ++ b) := by
  cases a with
  | nil => exact hb
  | cons r a => exact ha

theorem append_right (ha : Shallow n a) (hn : a ≠ []) (b : List Row) : Shallow n (a ++ b) := by
  cases a with
  | nil => exact absurd rfl hn
  | cons r a => exact ha

end Shallow

namespace Draft

variable {i : Indent} {d : Draft} {r : Row} {rs : List Row}

theorem outcome_cons (hm : d.mode = .scan) (hr : IsPhrase r.text) (rs : List Row) :
    d.outcome i (r :: rs) =
      (d.scan ⟨r.write i, r.depth, .ofTrimmed r.text⟩).outcome i rs := by
  rw [outcome, List.foldl_cons, Row.ofRaw_write hr, feed, hm]
  rfl

section Documentation

def docLines : Option String → List String
  | none => []
  | some s => (textLines s).map String.ofList

theorem intercalate_textLines (s : String) :
    "\n".intercalate ((textLines s).map String.ofList) = s := by
  refine String.toList_injective ?_
  rw [String.toList_intercalate, List.map_map]
  have hl : (textLines s).map (String.toList ∘ String.ofList) = textLines s := by
    conv => rhs; rw [← List.map_id (textLines s)]
    exact List.map_congr_left fun l _ => String.toList_ofList
  rw [hl]
  exact joinWith_splitOn '\n' s.toList

theorem description_docLines (o : Option String) : description (docLines o) = o := by
  cases o with
  | none => rfl
  | some s =>
    have hn : (docLines (some s)).isEmpty = false := by
      simp [docLines, textLines, splitOn_ne_nil]
    rw [description, hn]
    exact congrArg some (intercalate_textLines s)

theorem outcome_docLines {n : Nat} {ls : List (List Char)} (hl : ∀ l ∈ ls, trim l = l ∧ '\n' ∉ l)
    (hm : d.mode = .scan) (rs : List Row) :
    d.outcome i (ls.map (docRow n) ++ rs) =
      { d with docs := d.docs ++ ls.map String.ofList }.outcome i rs := by
  induction ls generalizing d with
  | nil => rw [List.map_nil, List.map_nil, List.nil_append, List.append_nil]
  | cons l ls ih =>
    obtain ⟨ht, hn⟩ := hl l List.mem_cons_self
    have hi := ih (d := { d with docs := d.docs ++ [String.ofList l] })
      (fun m h => hl m (List.mem_cons_of_mem l h)) hm
    rw [List.map_cons, List.cons_append, outcome_cons hm (isPhrase_doc ht hn), docRow,
      ofTrimmed_doc ht, scan, hi, List.append_assoc]
    rfl

theorem outcome_docRows {n : Nat} {o : Option String} (ho : ∀ s ∈ o, IsDoc s) (hm : d.mode = .scan)
    (hd : d.docs = []) (rs : List Row) :
    d.outcome i (docRows n o ++ rs) = { d with docs := docLines o }.outcome i rs := by
  cases o with
  | none => rw [docRows, List.nil_append, docLines, ← hd]
  | some s =>
    have hl : ∀ l ∈ textLines s, trim l = l ∧ '\n' ∉ l := fun l hl =>
      ⟨ho s rfl l hl, notMem_of_mem_textLines hl⟩
    rw [docRows, outcome_docLines hl hm, hd, List.nil_append, docLines]

end Documentation

/-- A declaration is applied and takes the documentation that has waited. -/
theorem outcome_declaration {n : Nat} {k : Keyword} {name : String} {v : Option (List Char)}
    (hm : d.mode = .scan) (hn : OneLine name) (hv : ∀ t ∈ v, trim t = t ∧ '\n' ∉ t)
    (rs : List Row) :
    d.outcome i (⟨n, declaration k name v⟩ :: rs) =
      { d.declare n name (v.map String.ofList) k with docs := [] }.outcome i rs := by
  rw [outcome_cons hm (isPhrase_declaration k hn hv),
    ofTrimmed_declaration k name fun t ht => (hv t ht).1, scan]

section Expression

variable {acc : List (List Char)} {e : String} {child : Child}

theorem outcome_fenced {n k : Nat} {ls : List (List Char)} (hl : ∀ l ∈ ls, trim l ≠ fence)
    (hm : d.mode = .fenced acc) (rs : List Row) :
    d.outcome i (ls.map (⟨n, ·⟩) ++ ⟨k, fence⟩ :: rs) =
      (d.setExpression (acc ++ ls.map fun l => Row.write i ⟨n, l⟩)).outcome i rs := by
  induction ls generalizing d acc with
  | nil =>
    have hf : trim (Row.write i ⟨k, fence⟩) = fence := by
      rw [Row.trim_write]
      exact (by decide : trim fence = fence)
    rw [List.map_nil, List.nil_append, List.map_nil, List.append_nil, outcome, List.foldl_cons,
      feed, hm]
    simp only [Line.ofRaw, hf, if_true]
    rfl
  | cons l ls ih =>
    have hf : trim (Row.write i ⟨n, l⟩) ≠ fence := by
      rw [Row.trim_write]
      exact hl l List.mem_cons_self
    have hd : d.feed (.ofRaw (Row.write i ⟨n, l⟩)) =
        { d with mode := .fenced (acc ++ [Row.write i ⟨n, l⟩]) } := by
      rw [feed, hm]
      simp only [Line.ofRaw, hf, if_false]
    have hi := ih (d := { d with mode := .fenced (acc ++ [Row.write i ⟨n, l⟩]) })
      (fun m h => hl m (List.mem_cons_of_mem l h)) rfl
    rw [List.map_cons, List.cons_append, outcome, List.foldl_cons, hd, ← outcome, hi]
    simp [setExpression]

theorem ofTrimmed_ne_blank {s : List Char} (h : s ≠ []) : LineKind.ofTrimmed s ≠ .blank := by
  unfold LineKind.ofTrimmed LineKind.ofPlain
  intro he
  split at he
  · exact h rfl
  · cases he
  · dsimp only at he
    split at he
    · cases he
    · split at he
      · cases he
      · split at he
        · cases he
        · split at he <;> cases he

/-- An expression below its declaration ends where the rows are shallow. -/
theorem outcome_end_below {n : Nat} (hm : d.mode = .indented n acc) (hr : Shallow n rs) :
    d.outcome i rs = (d.setExpression acc).outcome i rs := by
  cases rs with
  | nil =>
    rw [outcome, outcome, List.foldl_nil, List.foldl_nil, finish, hm]
    rfl
  | cons r rs =>
    obtain ⟨hp, hd⟩ := hr r rfl
    rw [outcome_cons (d := d.setExpression acc) rfl hp, outcome, List.foldl_cons,
      Row.ofRaw_write hp, feed, hm]
    have hb : Line.isBlank ⟨r.write i, r.depth, .ofTrimmed r.text⟩ = false :=
      beq_eq_false_iff_ne.mpr (ofTrimmed_ne_blank hp.ne_nil)
    simp only [hb, Bool.false_or, decide_eq_true_eq, Nat.not_le.mpr hd, if_false]
    rfl

/-- An expression below its declaration takes every line that is deep enough. -/
theorem outcome_below {n k : Nat} (hk : n ≤ k) (ls : List (List Char))
    (hm : d.mode = .indented n acc) (hr : Shallow n rs) :
    d.outcome i (ls.map (⟨k, ·⟩) ++ rs) =
      (d.setExpression (acc ++ ls.map fun l => Row.write i ⟨k, l⟩)).outcome i rs := by
  induction ls generalizing d acc with
  | nil =>
    rw [List.map_nil, List.map_nil, List.append_nil]
    exact outcome_end_below hm hr
  | cons l ls ih =>
    have ht : ((Line.ofRaw (Row.write i ⟨k, l⟩)).isBlank ||
        n ≤ (Line.ofRaw (Row.write i ⟨k, l⟩)).depth) = true := by
      by_cases hn : l = []
      · rw [hn, Row.write_nil]
        rfl
      · have hd := Row.depth_le_depth_ofRaw (r := ⟨k, l⟩) hn i
        rw [Bool.or_eq_true, decide_eq_true_eq]
        exact .inr (Nat.le_trans hk hd)
    have hd : d.feed (.ofRaw (Row.write i ⟨k, l⟩)) =
        { d with mode := .indented n (acc ++ [Row.write i ⟨k, l⟩]) } := by
      rw [feed, hm]
      simp only [ht, if_true]
      rfl
    have hi := ih (d := { d with mode := .indented n (acc ++ [Row.write i ⟨k, l⟩]) }) rfl
    rw [List.map_cons, List.cons_append, outcome, List.foldl_cons, hd, ← outcome, hi]
    simp [setExpression]

/-- A child that a declaration opens gets the expression that was written with it. -/
theorem outcome_openChild {f : ExpressionForm} (he : IsCode e) (hf : f.Admits e) (t : Table)
    (c : Option Child) (docs : List String) (hr : Shallow 3 rs) :
    { ({ idle t c with docs := docs } : Draft).openChild child 1 (some (String.ofList (f.value e)))
        with docs := [] }.outcome i (f.body 1 e ++ rs) =
      (idle (closed t c) (some (child.setExpression e))).outcome i rs := by
  have hj := joinExpression_write he i
  have hfl : ({ idle t c with docs := docs } : Draft).flush =
      { idle (closed t c) none with docs := docs } := by
    cases c <;> rfl
  rw [openChild, hfl, Option.map_some, ExpressionForm.ofValue_value he.1 hf]
  cases f with
  | inline => rfl
  | inlineFenced => rfl
  | fenced n k =>
    rw [ExpressionForm.body, List.append_assoc, List.singleton_append, ExpressionForm.opening,
      outcome_fenced hf rfl, List.nil_append, setExpression, hj n, String.ofList_toList]
    rfl
  | below n =>
    rw [ExpressionForm.body, ExpressionForm.opening,
      outcome_below (Nat.le_add_right 3 n) (textLines e) rfl hr, List.nil_append, setExpression,
      hj (3 + n), String.ofList_toList]
    rfl

/-- A declaration opens its child, with the expression if there is one. -/
theorem outcome_expressionRows (child : Child) {k : Keyword} {name : String}
    {f : ExpressionForm} {o : Option String} {t : Table} {c : Option Child} {docs : List String}
    (hk : ∀ v, ({ idle t c with docs := docs } : Draft).declare 1 name v k =
      ({ idle t c with docs := docs } : Draft).openChild child 1 v)
    (hn : OneLine name) (ho : ∀ e ∈ o, IsCode e ∧ f.Admits e) (hr : Shallow 3 rs) :
    ({ idle t c with docs := docs } : Draft).outcome i (expressionRows 1 k name f o ++ rs) =
      (idle (closed t c) (some (o.elim child fun e => child.setExpression e))).outcome i rs := by
  cases o with
  | none =>
    rw [expressionRows, List.singleton_append, outcome_declaration rfl hn (by simp), hk]
    cases c <;> rfl
  | some e =>
    obtain ⟨he, hf⟩ := ho e rfl
    have hv : ∀ v ∈ some (f.value e), trim v = v ∧ '\n' ∉ v := by
      rintro v ⟨⟩
      exact ExpressionForm.trim_value he.1 hf
    rw [expressionRows, List.cons_append, outcome_declaration rfl hn hv, hk]
    exact outcome_openChild he hf t c docs hr

end Expression

/-- The written settings of a record are entered one after another, whichever record the draft gives
its properties to. -/
theorem outcome_settings {α : Type} (f : α → Draft) (set : α → String → String → α) {n : Nat}
    (hm : ∀ a, (f a).mode = .scan)
    (hf : ∀ a key value, { (f a).setProperty n key value with docs := [] } = f (set a key value))
    {ss : List Setting} (hs : ∀ s ∈ ss, s.IsPlain) (a : α) (rs : List Row) :
    (f a).outcome i (ss.flatMap (·.rows n) ++ rs) =
      (f (ss.foldl (Setting.enter set) a)).outcome i rs := by
  induction ss generalizing a with
  | nil => rfl
  | cons s ss ih =>
    have hp := hs s List.mem_cons_self
    have hi := ih (fun t h => hs t (List.mem_cons_of_mem s h)) (Setting.enter set a s)
    rw [List.flatMap_cons, List.append_assoc, List.foldl_cons, ← hi, Setting.rows, Setting.enter]
    cases hv : s.value? with
    | none => rfl
    | some v =>
      rw [Option.map_some, Option.toList_some, List.singleton_append,
        outcome_cons (hm a) (Setting.isPhrase_line hp hv)]
      rcases Setting.ofTrimmed_line hp hv with ht | ⟨ht, rfl⟩
      · rw [ht]
        exact congrArg (outcome i · _) (hf a s.key.word (String.ofList v))
      · rw [ht]
        exact congrArg (outcome i · _) (hf a s.key.word "")

theorem outcome_annotationRow {n : Nat} {a : Annotation} (hm : d.mode = .scan) (ha : a.IsPlain)
    (rs : List Row) :
    d.outcome i (annotationRow n a :: rs) = { d.annotate n a with docs := [] }.outcome i rs := by
  have hv : ∀ t ∈ some (quoteValue a.value.toList), trim t = t ∧ '\n' ∉ t := by
    rintro t ⟨⟩
    exact ⟨trim_quoteValue _, newline_notMem_quoteValue ha.2⟩
  rw [annotationRow, outcome_declaration hm ha.1 hv, declare, Option.map_some, Option.map_some,
    Option.getD_some, valueText_quoteValue]

theorem outcome_annotationRows (f : List Annotation → Draft) {n : Nat}
    (hm : ∀ as, (f as).mode = .scan)
    (hf : ∀ as a, { (f as).annotate n a with docs := [] } = f (as ++ [a]))
    {as : List Annotation} (ha : ∀ a ∈ as, a.IsPlain) (bs : List Annotation) (rs : List Row) :
    (f bs).outcome i (annotationRows n as ++ rs) = (f (bs ++ as)).outcome i rs := by
  induction as generalizing bs with
  | nil =>
    rw [List.append_nil]
    rfl
  | cons a as ih =>
    have hi := ih (fun b h => ha b (List.mem_cons_of_mem a h)) (bs ++ [a])
    rw [annotationRows, List.map_cons, List.cons_append,
      outcome_annotationRow (hm bs) (ha a List.mem_cons_self), hf, ← annotationRows, hi,
      List.append_assoc, List.singleton_append]

end Draft

end Tabular.Tmdl
