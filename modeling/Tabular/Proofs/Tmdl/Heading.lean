import Tabular.Proofs.Tmdl.Passage

/-!
# Where a table begins

Until a table is declared nothing is kept but documentation, and blocks are passed over. The first
declaration of a table that is read is its heading, and the table is what the passages after the
heading make of it.
-/

namespace Tabular.Tmdl

/-- The declaration of a table, with the documentation before it and the lines after it. -/
structure Heading where
  name : String
  docs : List String
  depth : Nat
  rest : List Line
  deriving DecidableEq, Repr

/-- The draft from which the lines after the heading are read. -/
def Heading.draft (h : Heading) : Draft :=
  { table := { name := h.name, description := Draft.description h.docs }, depth := h.depth }

/-- The first declaration of a table that is read. Before it blocks are passed over, but nothing has
an expression. -/
def heading? (docs : List String) : List Line → Option Heading
  | [] => none
  | l :: ls =>
    match l.kind with
    | .declaration .table name _ => some ⟨name, docs, l.depth, ls⟩
    | .unread _ => heading? [] (ls.dropWhile (Mode.skip l.depth).holds)
    | _ => heading? (l.docsAfter docs) ls
termination_by ls => ls.length
decreasing_by
  · exact Nat.lt_succ_of_le (List.dropWhile_sublist _).length_le
  · exact Nat.lt_succ_self _

namespace Reader

def after (ls : List (List Char)) : Reader := ls.foldl (fun r raw => r.feed (.ofRaw raw)) start

/-- Whether the line is read for what it says. -/
def reads (r : Reader) (l : Line) : Bool :=
  match r with
  | before _ none => true
  | before _ (some n) => (Mode.skip n).reads l
  | inside d => d.mode.reads l

theorem readTable_eq_finish (ls : List (List Char)) : readTable ls = (after ls).finish := rfl

theorem after_eq (ls : List (List Char)) : after ls = (ls.map Line.ofRaw).foldl feed start := by
  rw [after, List.foldl_map]

theorem after_append (ls ls' : List (List Char)) :
    after (ls ++ ls') = (ls'.map Line.ofRaw).foldl feed (after ls) := by
  rw [after_eq, List.map_append, List.foldl_append, ← after_eq]

theorem foldl_feed_inside (d : Draft) (ls : List Line) :
    ls.foldl feed (inside d) = inside (ls.foldl Draft.feed d) := by
  induction ls generalizing d with
  | nil => rfl
  | cons l ls ih => exact ih (d.feed l)

theorem foldl_feed_of_fixed {r : Reader} {ls : List Line} (h : ∀ l ∈ ls, r.feed l = r) :
    ls.foldl feed r = r := by
  induction ls with
  | nil => rfl
  | cons l ls ih =>
    obtain ⟨hl, hls⟩ := List.forall_mem_cons.mp h
    rw [List.foldl_cons, hl]
    exact ih hls

section Before

variable {docs : List String} {l : Line}

theorem feed_of_heading {name : String} {value : Option String}
    (h : l.kind = .declaration .table name value) (ls : List Line) :
    (before docs none).feed l = inside (Heading.mk name docs l.depth ls).draft := by
  rw [feed, scanBefore, h]
  rfl

theorem feed_of_unread {keyword : String} (h : l.kind = .unread keyword) :
    (before docs none).feed l = before [] (some l.depth) := by
  rw [feed, scanBefore, h]

theorem feed_of_other (ht : ∀ name value, l.kind = .declaration .table name value → False)
    (hu : ∀ keyword, l.kind = .unread keyword → False) :
    (before docs none).feed l = before (l.docsAfter docs) none := by
  rw [feed, scanBefore, Line.docsAfter]
  split <;> simp_all

theorem feed_of_not_holds {n : Nat} (h : (Mode.skip n).holds l = false) :
    (before docs (some n)).feed l = (before docs none).feed l := by
  rw [Mode.holds] at h
  exact if_neg (by simp [h])

end Before

def Skips (n : Nat) : Reader → Prop
  | before _ skipping => skipping = some n
  | inside d => d.mode = .skip n

theorem foldl_feed_of_skips {r : Reader} {n : Nat} (hr : r.Skips n) {ls : List Line}
    (h : ∀ l ∈ ls, (Mode.skip n).holds l = true) : ls.foldl feed r = r := by
  refine foldl_feed_of_fixed fun l hl => ?_
  cases r with
  | before docs skipping =>
    cases hr
    exact if_pos (h l hl)
  | inside d =>
    have hm : d.mode = .skip n := hr
    rw [feed, Draft.feed_of_holds (hm ▸ h l hl), hm]
    exact congrArg (fun m => inside { d with mode := m }) hm.symm

theorem finish_foldl_feed_skipping (docs : List String) (n : Nat) (ls : List Line) :
    (ls.foldl feed (before docs (some n))).finish =
      ((ls.dropWhile (Mode.skip n).holds).foldl feed (before docs none)).finish := by
  induction ls with
  | nil => rfl
  | cons l ls ih =>
    cases h : (Mode.skip n).holds l with
    | true =>
      have hf : (before docs (some n)).feed l = before docs (some n) := if_pos h
      rw [List.dropWhile_cons_of_pos h, ← ih, List.foldl_cons, hf]
    | false =>
      rw [List.dropWhile_cons_of_neg (by simp [h]), List.foldl_cons, List.foldl_cons,
        feed_of_not_holds h]

theorem finish_foldl_feed_before (docs : List String) (ls : List Line) :
    (ls.foldl feed (before docs none)).finish =
      (heading? docs ls).map fun h => ((passages h.rest).foldl Draft.take h.draft).flush.table := by
  induction docs, ls using heading?.induct with
  | case1 docs => rw [heading?]; rfl
  | case2 docs l ls name value h =>
    rw [heading?, h, List.foldl_cons, feed_of_heading h ls, foldl_feed_inside, finish, Draft.finish_eq_resume,
      Draft.resume_foldl_feed_eq rfl]
    rfl
  | case3 docs l ls keyword h ih =>
    rw [heading?, h, List.foldl_cons, feed_of_unread h, finish_foldl_feed_skipping, ih]
  | case4 docs l ls ht hu ih =>
    rw [heading?, List.foldl_cons, feed_of_other ht hu, ih]
    split <;> simp_all

/-- The heading is where the table is opened. -/
theorem exists_opened {docs : List String} {ls : List Line} {h : Heading}
    (hh : heading? docs ls = some h) :
    ∃ ls₀ l docs' skipping, ls = ls₀ ++ l :: h.rest ∧
      ls₀.foldl feed (before docs none) = before docs' skipping ∧
      (before docs' skipping).feed l = inside h.draft := by
  induction docs, ls using heading?.induct with
  | case1 docs =>
    rw [heading?] at hh
    cases hh
  | case2 docs l ls name value hk =>
    rw [heading?, hk] at hh
    cases hh
    exact ⟨[], l, docs, none, rfl, rfl, feed_of_heading hk ls⟩
  | case3 docs l ls keyword hk ih =>
    rw [heading?, hk] at hh
    obtain ⟨ls₀, l', docs', skipping, hls, hbefore, hin⟩ := ih hh
    have hheld : (ls.takeWhile (Mode.skip l.depth).holds).foldl feed (before [] (some l.depth)) =
        before [] (some l.depth) := by
      have hs : (before [] (some l.depth)).Skips l.depth := rfl
      apply foldl_feed_of_skips hs
      intro x hx
      exact List.all_eq_true.mp List.all_takeWhile x hx
    have hsplit : ls = ls.takeWhile (Mode.skip l.depth).holds ++ (ls₀ ++ l' :: h.rest) := by
      rw [← hls, List.takeWhile_append_dropWhile]
    -- The first line after the block is read as it would be without one before it.
    have hfirst : ∀ x xs, ls₀ ++ l' :: h.rest = x :: xs →
        (before [] (some l.depth)).feed x = (before [] none).feed x := by
      intro x xs hx
      have hn := List.head?_dropWhile_not (Mode.skip l.depth).holds ls
      rw [hls, hx] at hn
      exact feed_of_not_holds hn
    cases ls₀ with
    | nil =>
      obtain ⟨rfl, rfl⟩ : [] = docs' ∧ none = skipping := by
        rwa [List.foldl_nil, before.injEq] at hbefore
      refine ⟨l :: ls.takeWhile (Mode.skip l.depth).holds, l', [], some l.depth, ?_, ?_, ?_⟩
      · rw [List.cons_append]
        exact congrArg (l :: ·) hsplit
      · rw [List.foldl_cons, feed_of_unread hk, hheld]
      · rw [hfirst l' h.rest rfl, hin]
    | cons x xs =>
      refine ⟨l :: (ls.takeWhile (Mode.skip l.depth).holds ++ x :: xs), l', docs', skipping, ?_, ?_,
        hin⟩
      · rw [List.cons_append, List.append_assoc]
        exact congrArg (l :: ·) hsplit
      · rw [List.foldl_cons, feed_of_unread hk, List.foldl_append, hheld, List.foldl_cons,
          hfirst x (xs ++ l' :: h.rest) rfl, ← List.foldl_cons, hbefore]
  | case4 docs l ls ht hu ih =>
    have hd : heading? (l.docsAfter docs) ls = some h := by
      rw [heading?] at hh
      split at hh <;> simp_all
    obtain ⟨ls₀, l', docs', skipping, hls, hbefore, hin⟩ := ih hd
    exact ⟨l :: ls₀, l', docs', skipping, by rw [hls]; rfl,
      by rw [List.foldl_cons, feed_of_other ht hu, hbefore], hin⟩

/-- The lines before the heading open no table, and the heading does. -/
theorem exists_after_of_heading? {ls : List (List Char)} {h : Heading}
    (hh : heading? [] (ls.map Line.ofRaw) = some h) :
    ∃ n docs skipping, after (ls.take n) = before docs skipping ∧
      after (ls.take (n + 1)) = inside h.draft ∧ (ls.drop (n + 1)).map Line.ofRaw = h.rest := by
  obtain ⟨ls₀, l, docs, skipping, hls, hbefore, hin⟩ := exists_opened hh
  have htake : (ls.map Line.ofRaw).take (ls₀.length + 1) = ls₀ ++ [l] := by
    rw [hls, List.append_cons]
    exact List.take_left' (by simp)
  refine ⟨ls₀.length, docs, skipping, ?_, ?_, ?_⟩
  · rw [after_eq, List.map_take, hls, List.take_left, start, hbefore]
  · rw [after_eq, List.map_take, htake, List.foldl_append, start, hbefore, List.foldl_cons, hin]
    rfl
  · rw [List.map_drop, hls, List.append_cons]
    exact List.drop_left' (by simp)

end Reader

/-- A table is what the passages after its declaration make of it. -/
theorem readTable_eq (ls : List (List Char)) :
    readTable ls = (heading? [] (ls.map Line.ofRaw)).map fun h =>
      ((passages h.rest).foldl Draft.take h.draft).flush.table := by
  rw [Reader.readTable_eq_finish, Reader.after_eq]
  exact Reader.finish_foldl_feed_before [] _

/-- Where a line is read for what it says, the passages begin anew. -/
theorem readTable_of_reads {before : List (List Char)} {raw : List Char} {d : Draft}
    (hd : Reader.after before = .inside d) (hr : d.mode.reads (.ofRaw raw) = true)
    (ls : List (List Char)) :
    readTable (before ++ raw :: ls) =
      some ((passages (.ofRaw raw :: ls.map .ofRaw)).foldl Draft.take d.resume).flush.table := by
  rw [Reader.readTable_eq_finish, Reader.after_append, hd, Reader.foldl_feed_inside, Reader.finish,
    Draft.finish_eq_resume, List.map_cons, Draft.foldl_feed_of_reads hr,
    Draft.resume_foldl_feed_eq (Draft.mode_resume d)]

end Tabular.Tmdl
