import Tabular.Proofs.Tmdl.Draft
import Tabular.Proofs.Tmdl.Reword

/-!
# Bodies

The lines that another one takes say nothing of their own, whatever they look like. A block that is
passed over leaves no trace in the table. An expression is the expression of the record that was
declared with it, and nothing else in the table depends on it.
-/

namespace Tabular.Tmdl

open Text

section Blank

theorem isBlank_ofRaw (raw : List Char) : (Line.ofRaw raw).isBlank = isBlankText raw := by
  cases hb : isBlankText raw with
  | true =>
    have ht : trim raw = [] := trim_eq_nil_iff.mpr hb
    rw [Line.ofRaw, Line.isBlank, ht]
    rfl
  | false =>
    have ht : trim raw ≠ [] := fun h => by simp [trim_eq_nil_iff.mp h] at hb
    exact beq_eq_false_iff_ne.mpr (Draft.ofTrimmed_ne_blank ht)

/-- Blank lines at the end of an expression are dropped. -/
theorem joinExpression_append_blank {bs : List (List Char)} (hb : ∀ b ∈ bs, isBlankText b = true)
    (ls : List (List Char)) : joinExpression (ls ++ bs) = joinExpression ls := by
  have hf : bs.filter (!isBlankText ·) = [] := by
    simpa [List.filter_eq_nil_iff] using hb
  have hc : commonIndent (ls ++ bs) = commonIndent ls := by
    rw [commonIndent, List.filter_append, hf, List.append_nil, commonIndent]
  have hd : ∀ w ∈ bs.map (dedentLine (commonIndent ls)), isBlankText w = true := by
    intro w hw
    obtain ⟨b, hm, rfl⟩ := List.mem_map.mp hw
    rw [dedentLine, if_pos (hb b hm)]
    rfl
  have hn : isBlankText ['\n'] = true := by decide
  have hj := isBlankText_joinWith hn hd
  rw [joinExpression, joinExpression, hc, List.map_append]
  generalize bs.map (dedentLine (commonIndent ls)) = ws at hj ⊢
  generalize ls.map (dedentLine (commonIndent ls)) = vs
  by_cases hw : ws = []
  · rw [hw, List.append_nil]
  · by_cases hv : vs = []
    · rw [hv, List.nil_append, trim_eq_nil_iff.mpr hj]
      rfl
    · rw [joinWith_append hv hw, List.append_assoc]
      apply trim_append_blank
      rw [isBlankText_append, hn, hj]
      rfl

end Blank

section Body

variable {ls rest : List (List Char)} {n : Nat}

/-- Every line is blank or at least this deep. -/
def IsDeep (n : Nat) (ls : List (List Char)) : Prop :=
  ∀ l ∈ ls, isBlankText l = true ∨ n ≤ indentDepth l

/-- The first line that is not blank, if there is one, is less deep than this. -/
def StartsShallow (n : Nat) (ls : List (List Char)) : Prop :=
  ∀ l ∈ ls.find? (!isBlankText ·), indentDepth l < n

instance (n : Nat) (ls : List (List Char)) : Decidable (IsDeep n ls) :=
  inferInstanceAs (Decidable (∀ l ∈ ls, _ ∨ _))

instance (n : Nat) (ls : List (List Char)) : Decidable (StartsShallow n ls) :=
  inferInstanceAs (Decidable (∀ l ∈ ls.find? (!isBlankText ·), _))

theorem IsDeep.isBlank_or_le_depth (h : IsDeep n ls) {l : Line} (hl : l ∈ ls.map Line.ofRaw) :
    l.isBlank = true ∨ n ≤ l.depth := by
  obtain ⟨raw, hr, rfl⟩ := List.mem_map.mp hl
  rw [isBlank_ofRaw]
  exact h raw hr

theorem IsDeep.holds (h : IsDeep n ls) (taken : List (List Char)) :
    ∀ l ∈ ls.map Line.ofRaw, (Mode.indented n taken).holds l = true := by
  intro l hl
  rw [Mode.holds, Bool.or_eq_true, decide_eq_true_eq]
  exact h.isBlank_or_le_depth hl

theorem IsDeep.skipped (h : IsDeep (n + 1) ls) :
    ∀ l ∈ ls.map Line.ofRaw, (Mode.skip n).holds l = true := by
  intro l hl
  rw [Mode.holds, Bool.or_eq_true, decide_eq_true_eq]
  exact h.isBlank_or_le_depth hl

theorem map_raw_ofRaw (ls : List (List Char)) : (ls.map Line.ofRaw).map Line.raw = ls := by
  rw [List.map_map]
  exact List.map_id ls

/-- Between fences everything is held up to the closing one. -/
theorem Mode.fenced_append (taken : List (List Char)) {closing : List Char}
    (h : ∀ l ∈ ls, trim l ≠ fence) (hc : trim closing = fence) (rest : List (List Char)) :
    ((ls ++ closing :: rest).map Line.ofRaw).takeWhile (fenced taken).holds = ls.map Line.ofRaw ∧
      (fenced taken).rest ((ls ++ closing :: rest).map Line.ofRaw) = rest.map Line.ofRaw := by
  have hls : ∀ l ∈ ls.map Line.ofRaw, (fenced taken).holds l = true := by
    intro l hl
    obtain ⟨raw, hr, rfl⟩ := List.mem_map.mp hl
    exact bne_iff_ne.mpr (h raw hr)
  have hcl : ¬(fenced taken).holds (.ofRaw closing) = true := by
    simp [holds, Line.ofRaw, hc]
  rw [List.map_append, List.map_cons]
  constructor
  · rw [List.takeWhile_append_of_pos hls, List.takeWhile_cons_of_neg hcl, List.append_nil]
  · rw [Mode.rest, List.dropWhile_append_of_pos hls, List.dropWhile_cons_of_neg hcl, List.tail_cons]

theorem StartsShallow.takeWhile_holds (h : StartsShallow n ls) (taken : List (List Char)) :
    ∀ l ∈ (ls.map Line.ofRaw).takeWhile (Mode.indented n taken).holds,
      isBlankText l.raw = true := by
  induction ls with
  | nil => simp
  | cons raw ls ih =>
    rw [List.map_cons]
    cases hb : isBlankText raw with
    | true =>
      have hs : StartsShallow n ls := by
        intro l hl
        apply h
        rwa [List.find?_cons_of_neg (by simp [hb])]
      have hh : (Mode.indented n taken).holds (.ofRaw raw) = true := by
        rw [Mode.holds, isBlank_ofRaw, hb]
        rfl
      rw [List.takeWhile_cons_of_pos hh]
      intro l hl
      rcases List.mem_cons.mp hl with rfl | hl
      · exact hb
      · exact ih hs l hl
    | false =>
      have hd : indentDepth raw < n := by
        apply h
        rw [List.find?_cons_of_pos (by simp [hb])]
        rfl
      have hh : (Mode.indented n taken).holds (.ofRaw raw) = false := by
        rw [Mode.holds, isBlank_ofRaw, hb, Bool.false_or, decide_eq_false_iff_not]
        exact Nat.not_le.mpr hd
      rw [List.takeWhile_cons_of_neg (by simp [hh])]
      simp

theorem Line.exists_child? {l : Line} {k : Keyword} {name v : String} {t : Table} {s : Slot}
    (hk : l.kind = .declaration k name (some v)) (hs : t.nextSlot? k = some s)
    (docs : List String) :
    l.opening? = some (Opening.ofValue v) ∧
      ∃ c, l.child? none docs = some c ∧ c.place? t = some (s, name) := by
  cases k with
  | measure | column =>
    cases hs
    rw [opening?, child?, hk]
    exact ⟨rfl, _, rfl, rfl⟩
  | model | table | hierarchy | level | variation | note | relationship => cases hs

theorem Line.mode_of_declaration {l : Line} {k : Keyword} {name : String} {value : Option String}
    (h : l.kind = .declaration k name value) :
    l.mode = match l.opening? with
      | some .fenced => .fenced []
      | some .below => .indented (l.depth + 2) []
      | some (.inline _) | none => .scan := by
  rcases ho : l.opening? with _ | ⟨e⟩ | _ | _ <;> simp only [mode, h, ho]

theorem Passage.formula?_of_open {p : Passage} {o : Opening} (ho : p.line.opening? = some o)
    (hn : ∀ e, o ≠ .inline e) :
    p.formula? = some (String.ofList (joinExpression (p.body.map Line.raw))) := by
  rw [formula?, ho]
  cases o with
  | inline e => exact absurd rfl (hn e)
  | fenced | below => rfl

section Expression

variable {before : List (List Char)} {raw : List Char} {d : Draft} {k : Keyword} {name v : String}
variable {s : Slot} (hd : Reader.after before = .inside d) (hr : d.mode.reads (.ofRaw raw) = true)
variable (hk : (Line.ofRaw raw).kind = .declaration k name (some v))
variable (hs : d.finish.nextSlot? k = some s)

include hd hr hk hs

/-- The expression that a declaration leaves open is that of its own record, and the table depends
on it in nothing else. -/
theorem exists_readTable_eq_reword (hv : ∀ e, Opening.ofValue v ≠ .inline e) (rest : List Line) :
    ∃ t : Table, t.nameAt? s = some name ∧
      ∀ ls : List (List Char), (Line.ofRaw raw).mode.rest (ls.map .ofRaw) = rest →
        readTable (before ++ raw :: ls) = some (t.reword s (String.ofList (joinExpression
          (((ls.map .ofRaw).takeWhile (Line.ofRaw raw).mode.holds).map Line.raw)))) := by
  have hm : d.resume.mode = .scan := Draft.mode_resume d
  rw [Draft.finish_eq_resume] at hs
  obtain ⟨ho, c, hc, hp⟩ := Line.exists_child? hk hs d.resume.docs
  have hw : ∀ e, Draft.Reworded s name e
      { d.resume.flush with child := some c, mode := .scan, docs := [] }
      { d.resume.flush with child := some (c.setExpression e), mode := .scan, docs := [] } :=
    fun e => .opened rfl hp
  have hf := fun e => ((hw e).foldl_take rfl (passages rest)).flush
  refine ⟨_, (hf "").2, ?_⟩
  intro ls hrest
  have hformula := Passage.formula?_of_open
    (p := ⟨.ofRaw raw, (ls.map .ofRaw).takeWhile (Line.ofRaw raw).mode.holds⟩) ho hv
  have hopens := Line.child?_setExpression none
    (String.ofList (joinExpression
      (((ls.map .ofRaw).takeWhile (Line.ofRaw raw).mode.holds).map Line.raw)))
    d.resume.docs (.ofRaw raw)
  rw [hc, Option.map_some, ← hformula] at hopens
  rw [readTable_of_reads hd hr, passages_cons, List.foldl_cons, hrest,
    Draft.take_of_opens hm hopens.symm, (hf _).1]

theorem exists_readTable_fenced (hv : Opening.ofValue v = .fenced) (rest : List (List Char)) :
    ∃ t : Table, t.nameAt? s = some name ∧
      ∀ ls closing, (∀ l ∈ ls, trim l ≠ fence) → trim closing = fence →
        readTable (before ++ raw :: (ls ++ closing :: rest)) =
          some (t.reword s (String.ofList (joinExpression ls))) := by
  have hm : (Line.ofRaw raw).mode = .fenced [] := by
    rw [Line.mode_of_declaration hk, (Line.exists_child? hk hs []).1, hv]
  obtain ⟨t, hn, ht⟩ := exists_readTable_eq_reword hd hr hk hs (by simp [hv]) (rest.map .ofRaw)
  refine ⟨t, hn, ?_⟩
  intro ls closing hls hc
  obtain ⟨hw, hrest⟩ := Mode.fenced_append [] hls hc rest
  rw [hm] at ht
  rw [ht _ hrest, hw, map_raw_ofRaw]

theorem exists_readTable_below (hv : v = "") {rest : List (List Char)}
    (hrest : StartsShallow (indentDepth raw + 2) rest) :
    ∃ t : Table, t.nameAt? s = some name ∧
      ∀ ls, IsDeep (indentDepth raw + 2) ls →
        readTable (before ++ raw :: (ls ++ rest)) =
          some (t.reword s (String.ofList (joinExpression ls))) := by
  have hb : Opening.ofValue v = .below := by
    rw [hv]
    decide
  have hm : (Line.ofRaw raw).mode = .indented (indentDepth raw + 2) [] := by
    rw [Line.mode_of_declaration hk, (Line.exists_child? hk hs []).1, hb]
    rfl
  -- Blank lines that follow are taken with the body and add nothing to the expression.
  have hblank : ∀ l ∈ ((rest.map Line.ofRaw).takeWhile
      (Mode.indented (indentDepth raw + 2) []).holds).map Line.raw, isBlankText l = true := by
    intro raw hraw
    obtain ⟨l, hl, rfl⟩ := List.mem_map.mp hraw
    exact hrest.takeWhile_holds [] l hl
  obtain ⟨t, hn, ht⟩ := exists_readTable_eq_reword hd hr hk hs (by simp [hb])
    ((rest.map .ofRaw).dropWhile (Mode.indented (indentDepth raw + 2) []).holds)
  refine ⟨t, hn, ?_⟩
  intro ls hls
  have hdrop : (Mode.indented (indentDepth raw + 2) []).rest ((ls ++ rest).map .ofRaw) =
      (rest.map .ofRaw).dropWhile (Mode.indented (indentDepth raw + 2) []).holds := by
    rw [Mode.rest, List.map_append, List.dropWhile_append_of_pos (hls.holds [])]
  rw [hm] at ht
  rw [ht _ hdrop, List.map_append, List.takeWhile_append_of_pos (hls.holds []), List.map_append,
    map_raw_ofRaw, joinExpression_append_blank hblank]

end Expression

namespace Reader

theorem skips_feed {r : Reader} {l : Line} {keyword : String} (hr : r.reads l = true)
    (hk : l.kind = .unread keyword) : (r.feed l).Skips l.depth := by
  cases r with
  | before docs skipping =>
    have hs : ((before docs none).feed l).Skips l.depth := by
      rw [feed_of_unread hk]
      rfl
    cases skipping with
    | none => exact hs
    | some n =>
      rw [feed_of_not_holds (Mode.not_holds_of_reads hr)]
      exact hs
  | inside d =>
    have hm : l.mode = .skip l.depth := by
      rw [Line.mode, hk]
    rw [feed, Draft.feed_of_reads hr, Skips, Draft.mode_scan (Draft.mode_resume d), hm]

end Reader

theorem readTable_skip {before ls : List (List Char)} {raw : List Char} {keyword : String}
    (hr : (Reader.after before).reads (.ofRaw raw) = true)
    (hk : (Line.ofRaw raw).kind = .unread keyword) (h : IsDeep (indentDepth raw + 1) ls)
    (rest : List (List Char)) :
    readTable (before ++ raw :: (ls ++ rest)) = readTable (before ++ raw :: rest) := by
  have hs := Reader.foldl_feed_of_skips (Reader.skips_feed hr hk) h.skipped
  simp only [Reader.readTable_eq_finish, Reader.after_eq, List.map_append, List.map_cons,
    List.foldl_append, List.foldl_cons] at hs ⊢
  rw [hs]

/-- Bodies do not leak. Any body of a block that is passed over leaves the same table, and any body
of an expression leaves the same table but for the expression of the record that was declared. -/
theorem readTable_body (before : List (List Char)) (raw : List Char)
    (hr : (Reader.after before).reads (.ofRaw raw) = true) (rest : List (List Char)) :
    (∀ keyword, (Line.ofRaw raw).kind = .unread keyword →
      ∀ ls ls', IsDeep (indentDepth raw + 1) ls → IsDeep (indentDepth raw + 1) ls' →
        readTable (before ++ raw :: (ls ++ rest)) = readTable (before ++ raw :: (ls' ++ rest))) ∧
    ∀ keyword name value t₀ s, (Line.ofRaw raw).kind = .declaration keyword name (some value) →
      readTable before = some t₀ → t₀.nextSlot? keyword = some s →
      (Opening.ofValue value = .fenced →
        ∃ t : Table, t.nameAt? s = some name ∧
          ∀ ls closing, (∀ l ∈ ls, trim l ≠ fence) → trim closing = fence →
            readTable (before ++ raw :: (ls ++ closing :: rest)) =
              some (t.reword s (String.ofList (joinExpression ls)))) ∧
      (value = "" → StartsShallow (indentDepth raw + 2) rest →
        ∃ t : Table, t.nameAt? s = some name ∧
          ∀ ls, IsDeep (indentDepth raw + 2) ls →
            readTable (before ++ raw :: (ls ++ rest)) =
              some (t.reword s (String.ofList (joinExpression ls)))) := by
  constructor
  · intro keyword hk ls ls' h h'
    rw [readTable_skip hr hk h, readTable_skip hr hk h']
  · intro keyword name value t₀ s hk ht hs
    rw [Reader.readTable_eq_finish] at ht
    cases hd : Reader.after before with
    | before docs skipping =>
      rw [hd] at ht
      cases ht
    | inside d =>
      rw [hd] at ht hr
      cases ht
      constructor
      · intro hv
        exact exists_readTable_fenced hd hr hk hs hv rest
      · intro hv hrest
        exact exists_readTable_below hd hr hk hs hv hrest

def sales : List (List Char) := ["table Sales", "\tcolumn Amount"].map String.toList

def misleading : List (List Char) :=
  ["\t\t\tcolumn Other", "", "\t\t\tmeasure Third ="].map String.toList

theorem readTable_body_sales :
    readTable (sales ++ "\tpartition p = m".toList :: (misleading ++ [])) =
        readTable (sales ++ "\tpartition p = m".toList :: ([] ++ [])) ∧
      (∃ t : Table, t.nameAt? (.measure 0) = some "Total" ∧
        readTable (sales ++ ("\tmeasure Total = ".toList ++ fence) :: (misleading ++ fence :: [])) =
          some (t.reword (.measure 0) (String.ofList (joinExpression misleading)))) ∧
      ∃ t : Table, t.nameAt? (.column 1) = some "Net" ∧
        readTable (sales ++ "\tcolumn Net =".toList :: (misleading ++ [])) =
          some (t.reword (.column 1) (String.ofList (joinExpression misleading))) := by
  refine ⟨?_, ?_, ?_⟩
  · exact (readTable_body sales _ rfl []).1 "partition" rfl misleading [] (by decide) (by decide)
  · obtain ⟨-, hbody⟩ := readTable_body sales ("\tmeasure Total = ".toList ++ fence) rfl []
    obtain ⟨t, hn, ht⟩ := (hbody _ _ _ _ (.measure 0) rfl rfl rfl).1 rfl
    exact ⟨t, hn, ht misleading fence (by decide) (by decide)⟩
  · obtain ⟨-, hbody⟩ := readTable_body sales "\tcolumn Net =".toList rfl []
    obtain ⟨t, hn, ht⟩ := (hbody _ _ _ _ (.column 1) rfl rfl rfl).2 rfl (by decide)
    exact ⟨t, hn, ht misleading (by decide)⟩

/-- Before a table is declared there is no record for an expression to belong to, and what stands
below a measure is read: here as the declaration of the table. -/
theorem table_declared_below_measure :
    (Reader.after []).reads (.ofRaw "measure A =".toList) = true ∧
      (Line.ofRaw "measure A =".toList).kind = .declaration .measure "A" (some "") ∧
      IsDeep (indentDepth "measure A =".toList + 2) ["\t\ttable T".toList] ∧
      readTable ([] ++ "measure A =".toList :: (["\t\ttable T".toList] ++ [])) =
        some { name := "T" } ∧
      readTable ([] ++ "measure A =".toList :: ([] ++ [])) = none := by
  refine ⟨rfl, rfl, by decide, rfl, rfl⟩

end Body

end Tabular.Tmdl
