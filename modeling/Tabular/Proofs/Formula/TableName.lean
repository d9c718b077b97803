import Mathlib.Data.List.Induction
import Mathlib.Data.List.TakeWhile
import Tabular.Proofs.Formula.Masked

/-!
# Table names before a bracket

Reading token by token, one knows at each place which table name ends there: a quoted name, or the word
characters since the first that may begin a name. A scanner that has begun to read that name reads it as a
whole if a bracket follows, and passes over it if none does.
-/

namespace Tabular.Formula

open Text

variable {s : List Char} {us ts : List Token} {c : Char}

theorem isTableChar_of_start (h : isTableStart c = true) : isTableChar c = true := by
  unfold isTableStart at h
  rw [isTableChar, h, Bool.true_or]

inductive IsPlainName : List Char → Prop
  | intro {c : Char} {cs : List Char} : isTableStart c = true →
      (∀ d ∈ cs, isTableChar d = true) → IsPlainName (c :: cs)

/-- The tokens end in a table name. -/
inductive EndsInTable : List Token → Prop
  | plain (us : List Token) {name : List Char} : IsPlainName name →
      EndsInTable (us ++ name.map .other)
  | quoted (us : List Token) {body : List Char} : body ≠ [] → EndsInTable (us ++ [.quoted body])

theorem IsPlainName.forall_mem {name : List Char} (h : IsPlainName name) :
    ∀ d ∈ name, isTableChar d = true := by
  cases h with
  | intro hc hcs => exact List.forall_mem_cons.mpr ⟨isTableChar_of_start hc, hcs⟩

theorem IsPlainName.concat {name : List Char} (h : IsPlainName name) (hc : isTableChar c = true) :
    IsPlainName (name ++ [c]) := by
  cases h with
  | intro hd hds =>
    refine .intro hd fun d hm => ?_
    obtain hm | hm := List.mem_append.mp hm
    · exact hds d hm
    · rw [List.mem_singleton.mp hm, hc]

/-- What has been read of a table name that a bracket may follow. -/
inductive Lead where
  | none
  | plain (name : List Char)
  | quoted (body : List Char)
  deriving DecidableEq, Repr

namespace Lead

def after : Lead → Token → Lead
  | _, .quoted body => if body = [] then none else quoted body
  | _, .bracketed _ => none
  | plain name, .other c => if isTableChar c then plain (name ++ [c]) else none
  | _, .other c => if isTableStart c then plain [c] else none

def written : Lead → List Char
  | none => []
  | plain name => name
  | quoted body => '\'' :: (body ++ ['\''])

def table? : Lead → Option (List Char)
  | none => Option.none
  | plain name => some name
  | quoted body => some (halveQuotes body)

theorem table?_eq_none_iff {l : Lead} : l.table? = Option.none ↔ l = none := by
  cases l <;> simp [table?]

/-- The table name in which the tokens end. -/
def ofTokens (us : List Token) : Lead := us.foldl after none

theorem after_bracketed (l : Lead) (name : List Char) : l.after (.bracketed name) = none := by
  cases l <;> rfl

/-- A character either goes on with a plain name, or what comes before it does not matter. -/
theorem after_other (l : Lead) (c : Char) :
    (∃ name, l = plain name ∧ isTableChar c = true) ∨
      ((∀ name, l = plain name → isTableChar c = false) ∧
        l.after (.other c) = if isTableStart c then plain [c] else none) := by
  cases l with
  | none | quoted _ => exact .inr ⟨nofun, rfl⟩
  | plain name =>
    cases hc : isTableChar c with
    | true => exact .inl ⟨name, rfl, rfl⟩
    | false =>
      have hs : isTableStart c = false :=
        Bool.eq_false_iff.mpr fun hs => Bool.false_ne_true (hc.symm.trans (isTableChar_of_start hs))
      exact .inr ⟨fun _ _ => rfl, by simp [after, hc, hs]⟩

theorem ofTokens_concat (us : List Token) (t : Token) :
    ofTokens (us ++ [t]) = (ofTokens us).after t := by
  rw [ofTokens, List.foldl_append]
  rfl

end Lead

section Tokens

def Lead.EndsTokens (us : List Token) : Lead → Prop
  | none => True
  | plain name => IsPlainName name ∧ ∃ vs, us = vs ++ name.map .other
  | quoted body => body ≠ [] ∧ ∃ vs, us = vs ++ [.quoted body]

theorem Lead.endsTokens_ofTokens (us : List Token) : (ofTokens us).EndsTokens us := by
  induction us using List.reverseRecOn with
  | nil => trivial
  | append_singleton us t ih =>
    rw [ofTokens_concat]
    cases t with
    | quoted body =>
      rw [after]
      split
      · trivial
      · next hb => exact ⟨hb, us, rfl⟩
    | bracketed name =>
      rw [after_bracketed]
      trivial
    | other c =>
      have hstart : (if isTableStart c then plain [c] else none).EndsTokens (us ++ [.other c]) := by
        split
        · next hc => exact ⟨.intro hc (List.forall_mem_nil _), us, rfl⟩
        · trivial
      cases hl : ofTokens us with
      | none => exact hstart
      | quoted body => exact hstart
      | plain name =>
        rw [hl] at ih
        obtain ⟨hn, vs, rfl⟩ := ih
        rw [after]
        split
        · next hc => exact ⟨hn.concat hc, vs, by simp⟩
        · trivial

theorem Lead.foldl_after_plain {cs : List Char} (h : ∀ d ∈ cs, isTableChar d = true)
    (name : List Char) : (cs.map .other).foldl after (plain name) = plain (name ++ cs) := by
  induction cs generalizing name with
  | nil => simp
  | cons c cs ih =>
    obtain ⟨hc, hcs⟩ := List.forall_mem_cons.mp h
    rw [List.map_cons, List.foldl_cons, after, if_pos hc, ih hcs, ← List.append_cons]

theorem Lead.exists_after_start (h : isTableStart c = true) (l : Lead) :
    ∃ name, l.after (.other c) = plain name := by
  cases l with
  | none => exact ⟨[c], if_pos h⟩
  | quoted body => exact ⟨[c], if_pos h⟩
  | plain name => exact ⟨name ++ [c], if_pos (isTableChar_of_start h)⟩

/-- A table name is read exactly where the tokens end in one. -/
theorem isSome_table?_iff : (Lead.ofTokens us).table?.isSome ↔ EndsInTable us := by
  constructor
  · intro h
    have he := Lead.endsTokens_ofTokens us
    cases hl : Lead.ofTokens us with
    | none => simp [hl, Lead.table?] at h
    | plain name =>
      rw [hl] at he
      obtain ⟨hn, vs, rfl⟩ := he
      exact .plain vs hn
    | quoted body =>
      rw [hl] at he
      obtain ⟨hb, vs, rfl⟩ := he
      exact .quoted vs hb
  · intro h
    cases h with
    | @plain us name hn =>
      cases hn with
      | @intro c cs hc hcs =>
        obtain ⟨name, hname⟩ := Lead.exists_after_start hc (Lead.ofTokens us)
        rw [List.map_cons, List.append_cons, Lead.ofTokens, List.foldl_append, ← Lead.ofTokens,
          Lead.ofTokens_concat, hname, Lead.foldl_after_plain hcs]
        rfl
    | @quoted us body hb =>
      rw [Lead.ofTokens_concat, Lead.after, if_neg hb]
      rfl

end Tokens

section Scan

/-- What has been read of a table name is followed by a text. -/
inductive Lead.Fits : Lead → List Char → Prop
  | none {s : List Char} : Fits .none s
  | plain {name s : List Char} : IsPlainName name → Fits (.plain name) s
  | quoted {body s : List Char} : StartsWithBody (body ++ '\'' :: s) body s →
      s.head? ≠ some '\'' → '[' ∉ body → body ≠ [] → Fits (.quoted body) s

theorem qualifiedMatches_of_qualifiedAt? {offset : Nat} {m : QualifiedMatch} {rest : List Char}
    (h : qualifiedAt? offset s = some (m, rest)) :
    qualifiedMatches offset s = m :: qualifiedMatches (m.column.last + 1) rest := by
  cases s with
  | nil => simp [qualifiedAt?, tableAt?] at h
  | cons c s =>
    rw [qualifiedMatches]
    split
    · next hs =>
      rw [h, Option.some.injEq, Prod.mk.injEq] at hs
      obtain ⟨rfl, rfl⟩ := hs
      rfl
    · next hs => simp [h] at hs

theorem qualifiedMatches_others {u : List Char}
    (h : ∀ c ∈ u, c ≠ '\'' ∧ isTableStart c = false) (offset : Nat) :
    qualifiedMatches offset (u ++ s) = qualifiedMatches (offset + utf8Length u) s := by
  apply qualifiedMatches_append
  intro v hv hne
  obtain ⟨c, v, rfl⟩ := List.exists_cons_of_ne_nil hne
  obtain ⟨hq, hs⟩ := h c (hv.subset List.mem_cons_self)
  exact noColumnAt_of_other hq hs _

namespace Lead

variable {l : Lead}

theorem Fits.tableAt?_eq {table : List Char} (h : l.Fits ('[' :: s)) (ht : l.table? = some table) :
    tableAt? (l.written ++ '[' :: s) = some (l.written, table, '[' :: s) := by
  cases h with
  | none => simp [table?] at ht
  | plain hn =>
    obtain rfl := Option.some.inj ht
    cases hn with
    | @intro c cs hc hcs =>
      have hstop : isTableChar '[' = false := by decide
      rw [written, List.cons_append, tableAt?_of_start hc, takeWhile_append_stop hstop,
        dropWhile_append_stop hstop, List.takeWhile_eq_self_iff.mpr hcs,
        List.dropWhile_eq_nil_iff.mpr hcs, List.nil_append]
  | @quoted body _ hs hq _ hb =>
    obtain rfl := Option.some.inj ht
    have hbody := hs.quotedBody_eq hq
    rw [written, List.cons_append, List.append_assoc, List.singleton_append, tableAt?, hbody]
    split
    · next he => simp [hb] at he
    · next he => simp at he
    · next he =>
      rw [Option.some.injEq, Prod.mk.injEq] at he
      obtain ⟨rfl, rfl⟩ := he
      simp

/-- With the bracket that follows, the table name is found as a column. -/
theorem Fits.qualifiedAt?_eq {table content rest : List Char}
    (h : l.Fits ('[' :: (content ++ ']' :: rest))) (ht : l.table? = some table)
    (hn : content ≠ []) (hc : ']' ∉ content) (offset : Nat) :
    qualifiedAt? offset (l.written ++ '[' :: (content ++ ']' :: rest)) =
      let first := offset + utf8Length l.written + 1
      some (⟨table, ⟨first, first + utf8Length content⟩⟩, rest) := by
  unfold qualifiedAt?
  rw [h.tableAt?_eq ht]
  dsimp only
  rw [bracketAt?_bracketed hn hc]

/-- A table name that no bracket follows is passed over. -/
theorem Fits.qualifiedMatches_eq (h : l.Fits s) (hm : MaskedText s ts)
    (hb : bracketAt? s = .none ∨ l = .none)
    (hc : ∀ name, l = .plain name → ∀ c ∈ s.head?, isTableChar c = false) (offset : Nat) :
    qualifiedMatches offset (l.written ++ s) =
      qualifiedMatches (offset + utf8Length l.written) s := by
  cases h with
  | none => rfl
  | @plain name s hn =>
    exact qualifiedMatches_plain hn.forall_mem (hc name rfl) (hb.resolve_right nofun) offset
  | @quoted body s hs hq hn hne =>
    have hb := hb.resolve_right nofun
    have hquote : NoColumnAt ('\'' :: (body ++ '\'' :: s)) :=
      noColumnAt_of_quotedBody (hs.quotedBody_eq hq) (.inr hb)
    rw [written, List.cons_append, List.append_assoc, List.singleton_append,
      qualifiedMatches_cons hquote, hs.qualifiedMatches_eq hn hq hm.head?_of_quotedBody (.inr hb),
      utf8Length_cons, utf8Length_append, utf8Length_cons, utf8Length_nil]
    have hl : '\''.utf8Size = 1 := rfl
    congr 1
    omega

end Lead

end Scan

end Tabular.Formula
