import Tabular.Formula.Reference
import Tabular.Proofs.Text.Utf8

/-!
# What the scanners find

Every scanner cuts its text in parts: what it finds and what follows. So each span that it reports
is that of a part of the text, between an opening bracket and the first closing one after it.
-/

namespace Tabular.Formula

open Text

variable {s rest content : List Char}

theorem bracketAt?_eq_some (h : bracketAt? s = some (content, rest)) :
    s = '[' :: (content ++ ']' :: rest) ∧ ']' ∉ content := by
  unfold bracketAt? at h
  split at h
  · next cs =>
    have hcs : cs.takeWhile (· != ']') ++ cs.dropWhile (· != ']') = cs :=
      List.takeWhile_append_dropWhile
    have hn : ']' ∉ cs.takeWhile (· != ']') := fun hm => by
      simpa using List.all_eq_true.mp List.all_takeWhile ']' hm
    split at h
    · simp at h
    · next hd _ =>
      simp only [Option.some.injEq, Prod.mk.injEq] at h
      obtain ⟨rfl, rfl⟩ := h
      exact ⟨by rw [← hd, hcs], hn⟩
    · simp at h
  · simp at h

/-- A text begins with the body of a quoted name and its closing quote. -/
inductive StartsWithBody : (s body rest : List Char) → Prop
  | closed (rest : List Char) : StartsWithBody ('\'' :: rest) [] rest
  | pair {s body rest : List Char} : StartsWithBody s body rest →
      StartsWithBody ('\'' :: '\'' :: s) ('\'' :: '\'' :: body) rest
  | char {c : Char} {s body rest : List Char} : c ≠ '\'' → StartsWithBody s body rest →
      StartsWithBody (c :: s) (c :: body) rest

theorem startsWithBody_of_quotedBody {body : List Char} (h : quotedBody s = some (body, rest)) :
    StartsWithBody s body rest := by
  fun_induction quotedBody s generalizing body with
  | case1 => simp at h
  | case2 r ih =>
    obtain ⟨⟨b, t⟩, hr, he⟩ := Option.map_eq_some_iff.1 h
    simp only [Prod.mk.injEq] at he
    obtain ⟨rfl, rfl⟩ := he
    exact (ih hr).pair
  | case3 r =>
    simp only [Option.some.injEq, Prod.mk.injEq] at h
    obtain ⟨rfl, rfl⟩ := h
    exact .closed r
  | case4 c r _ hq ih =>
    obtain ⟨⟨b, t⟩, hr, he⟩ := Option.map_eq_some_iff.1 h
    simp only [Prod.mk.injEq] at he
    obtain ⟨rfl, rfl⟩ := he
    exact (ih hr).char hq

theorem StartsWithBody.eq_append {body : List Char} (h : StartsWithBody s body rest) :
    s = body ++ '\'' :: rest := by
  induction h with
  | closed rest => rfl
  | pair _ ih => rw [ih, List.cons_append, List.cons_append]
  | char _ _ ih => rw [ih, List.cons_append]

theorem tableAt?_eq_some {written name : List Char} (h : tableAt? s = some (written, name, rest)) :
    s = written ++ rest := by
  unfold tableAt? at h
  split at h
  · next cs =>
    split at h
    · simp at h
    · simp at h
    · next body r _ hq =>
      simp only [Option.some.injEq, Prod.mk.injEq] at h
      obtain ⟨rfl, -, rfl⟩ := h
      rw [(startsWithBody_of_quotedBody hq).eq_append]
      simp
  · split at h
    · simp only [Option.some.injEq, Prod.mk.injEq] at h
      obtain ⟨rfl, -, rfl⟩ := h
      rw [List.cons_append, List.takeWhile_append_dropWhile]
    · simp at h
  · simp at h

theorem qualifiedAt?_eq_some {offset : Nat} {m : QualifiedMatch}
    (h : qualifiedAt? offset s = some (m, rest)) :
    ∃ written content : List Char, s = written ++ '[' :: (content ++ ']' :: rest) ∧
      ']' ∉ content ∧ m.column = ⟨offset + utf8Length written + 1,
        offset + utf8Length written + 1 + utf8Length content⟩ := by
  unfold qualifiedAt? at h
  split at h
  · next written name r ht =>
    split at h
    · next content r' hb =>
      simp only [Option.some.injEq, Prod.mk.injEq] at h
      obtain ⟨rfl, rfl⟩ := h
      obtain ⟨rfl, hc⟩ := bracketAt?_eq_some hb
      exact ⟨written, content, tableAt?_eq_some ht, hc, rfl⟩
    · simp at h
  · simp at h

/-- In a text that begins at an offset, the span is that of the contents of a bracket. -/
def BracketSpan (offset : Nat) (s : List Char) (span : Span) : Prop :=
  ∃ before content after : List Char, s = before ++ '[' :: (content ++ ']' :: after) ∧
    ']' ∉ content ∧ span = ⟨offset + utf8Length before + 1,
      offset + utf8Length before + 1 + utf8Length content⟩

namespace BracketSpan

variable {offset : Nat} {span : Span}

theorem append (u : List Char) {t : List Char}
    (h : BracketSpan (offset + utf8Length u) t span) :
    BracketSpan offset (u ++ t) span := by
  obtain ⟨before, content, after, rfl, hc, rfl⟩ := h
  refine ⟨u ++ before, content, after, by rw [List.append_assoc], hc, ?_⟩
  rw [utf8Length_append, Nat.add_assoc offset]

theorem behind (written : List Char) {content rest : List Char}
    (h : BracketSpan (offset + utf8Length written + 1 + utf8Length content + 1) rest span) :
    BracketSpan offset (written ++ '[' :: (content ++ ']' :: rest)) span := by
  have ht : written ++ '[' :: (content ++ ']' :: rest) =
      (written ++ '[' :: (content ++ [']'])) ++ rest := by simp
  have hl : offset + utf8Length (written ++ '[' :: (content ++ [']'])) =
      offset + utf8Length written + 1 + utf8Length content + 1 := by
    simp only [utf8Length_append, utf8Length_cons, utf8Length_nil]
    have h₁ : '['.utf8Size = 1 := rfl
    have h₂ : ']'.utf8Size = 1 := rfl
    omega
  rw [ht]
  exact append _ (by rw [hl]; exact h)

end BracketSpan

theorem bracketSpan_of_mem_bracketMatches {before : Option Char} {offset : Nat} {span : Span}
    (h : span ∈ bracketMatches before offset s) : BracketSpan offset s span := by
  fun_induction bracketMatches before offset s with
  | case1 => simp at h
  | case2 before offset c cs content rest hb last others hq ih =>
    obtain ⟨hs, -⟩ := bracketAt?_eq_some hb
    rw [hs]
    exact .behind [] (ih h)
  | case3 before offset c cs content rest hb last others hq ih =>
    obtain ⟨hs, hc⟩ := bracketAt?_eq_some hb
    rw [hs]
    obtain rfl | h := List.mem_cons.mp h
    · exact ⟨[], content, rest, rfl, hc, rfl⟩
    · exact .behind [] (ih h)
  | case4 before offset c cs hb ih =>
    exact .append [c] (ih h)

theorem bracketSpan_of_mem_qualifiedMatches {offset : Nat} {m : QualifiedMatch}
    (h : m ∈ qualifiedMatches offset s) : BracketSpan offset s m.column := by
  fun_induction qualifiedMatches offset s with
  | case1 => simp at h
  | case2 offset c cs found rest hf ih =>
    obtain ⟨written, content, hs, hc, hm⟩ := qualifiedAt?_eq_some hf
    rw [hs]
    obtain rfl | h := List.mem_cons.mp h
    · exact ⟨written, content, rest, rfl, hc, hm⟩
    · rw [hm] at h ih
      exact .behind written (ih h)
  | case3 offset c cs hf ih =>
    exact .append [c] (ih h)

end Tabular.Formula
