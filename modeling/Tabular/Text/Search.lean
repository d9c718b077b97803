/-!
# Looking for a text inside another
-/

namespace Tabular.Text

/-- Whether `pattern` occurs in the text as consecutive characters. -/
def occursIn (pattern : List Char) : List Char → Bool
  | [] => pattern.isEmpty
  | c :: cs => pattern.isPrefixOf (c :: cs) || occursIn pattern cs

/-- The text without the first occurrence of `c`, as what comes before it and what comes after. -/
def splitAtFirst (c : Char) : List Char → Option (List Char × List Char)
  | [] => none
  | d :: ds =>
    if d = c then some ([], ds)
    else (splitAtFirst c ds).map fun r => (d :: r.1, r.2)

theorem splitAtFirst_eq_some {c : Char} {s before after : List Char}
    (h : splitAtFirst c s = some (before, after)) : s = before ++ c :: after ∧ c ∉ before := by
  induction s generalizing before with
  | nil => simp [splitAtFirst] at h
  | cons d ds ih =>
    rw [splitAtFirst] at h
    split at h
    · simp_all
    · next hd =>
      obtain ⟨⟨b, a⟩, hr, he⟩ := Option.map_eq_some_iff.1 h
      simp only [Prod.mk.injEq] at he
      obtain ⟨rfl, rfl⟩ := he
      have := ih hr
      refine ⟨by rw [this.1]; rfl, ?_⟩
      simp only [List.mem_cons, not_or]
      exact ⟨fun e => hd e.symm, this.2⟩

end Tabular.Text
