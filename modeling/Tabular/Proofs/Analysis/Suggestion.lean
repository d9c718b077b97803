import Tabular.Analysis.Naming
import Tabular.Proofs.Text.LetterCase
import Tabular.Proofs.Text.Lines
import Tabular.Proofs.Text.Search

/-!
# Suggested names follow the rules

A suggested name is put together from improved words. Improving gives a word again, one that is no
abbreviation and needs no capital letter at its place. Words with single spaces between them are found
again as the words of the whole, so each rule can be checked word by word.
-/

namespace Tabular.Naming

open Text

variable {l : Limits} {w name : List Char} {ws : List (List Char)} {i : Nat}

/-- A text that splitting finds as a word: it is not empty and holds neither a delimiter nor a special
character. -/
structure IsWord (w : List Char) : Prop where
  ne_nil : w ≠ []
  not_delimiter : ∀ c ∈ w, isDelimiter c = false
  not_special : ∀ c ∈ w, isSpecial c = false

instance (w : List Char) : Decidable (IsWord w) :=
  decidable_of_iff (w ≠ [] ∧ w.all (!isDelimiter ·) = true ∧ w.all (!isSpecial ·) = true)
    ⟨fun ⟨hn, hd, hs⟩ => ⟨hn, by simpa using hd, by simpa using hs⟩,
      fun h => ⟨h.ne_nil, by simpa using h.not_delimiter, by simpa using h.not_special⟩⟩

section Words

theorem IsWord.not_blank (h : IsWord w) : ∀ c ∈ w, isBlank c = false := by
  intro c hc
  have hd := h.not_delimiter c hc
  rw [isDelimiter, Bool.or_eq_false_iff] at hd
  exact hd.2

theorem isWord_of_mem_nameWords (h : w ∈ nameWords name) : IsWord w := by
  obtain ⟨hw, hne⟩ := List.mem_filter.mp h
  obtain ⟨piece, hp, rfl⟩ := List.mem_map.mp hw
  refine ⟨by simpa using hne, ?_, ?_⟩
  · intro c hc
    exact not_of_mem_splitOn hp (List.mem_of_mem_filter hc)
  · intro c hc
    simpa using (List.mem_filter.mp hc).2

theorem mem_of_mem_nameWords (h : w ∈ nameWords name) {c : Char} (hc : c ∈ w) : c ∈ name := by
  obtain ⟨piece, hp, rfl⟩ := List.mem_map.mp (List.mem_of_mem_filter h)
  exact mem_of_mem_splitOn hp (List.mem_of_mem_filter hc)

theorem nameWords_ne_nil {piece : List Char} (hp : piece ∈ splitOn isDelimiter name) {c : Char}
    (hc : c ∈ piece) (hs : isSpecial c = false) : nameWords name ≠ [] := by
  have hkept : c ∈ piece.filter (!isSpecial ·) := List.mem_filter.mpr ⟨hc, by simp [hs]⟩
  have hword : piece.filter (!isSpecial ·) ∈ nameWords name := by
    refine List.mem_filter.mpr ⟨List.mem_map.mpr ⟨piece, hp, rfl⟩, ?_⟩
    simpa only [Bool.not_eq_true', List.isEmpty_eq_false_iff] using List.ne_nil_of_mem hkept
  exact List.ne_nil_of_mem hword

end Words

section Spaced

theorem nameWords_spaced (hn : ws ≠ []) (h : ∀ w ∈ ws, IsWord w) :
    nameWords (joinWith [' '] ws) = ws := by
  have hsplit : splitOn isDelimiter (joinWith [' '] ws) = ws :=
    splitOn_joinWith (by decide) hn fun w hw => (h w hw).not_delimiter
  have hclean : ws.map (fun w => w.filter (!isSpecial ·)) = ws := by
    refine (List.map_congr_left fun w hw => ?_).trans (List.map_id ws)
    rw [List.filter_eq_self.mpr fun c hc => by simp [(h w hw).not_special c hc]]
    rfl
  rw [nameWords, hsplit, hclean, List.filter_eq_self]
  intro w hw
  simpa using (h w hw).ne_nil

theorem trim_spaced (h : ∀ w ∈ ws, IsWord w) : trim (joinWith [' '] ws) = joinWith [' '] ws := by
  induction ws with
  | nil => rfl
  | cons w ws ih =>
    obtain ⟨hw, hws⟩ := List.forall_mem_cons.mp h
    have hword : trim w = w := trim_eq_self_of_not_blank hw.not_blank
    by_cases he : ws = []
    · rwa [he, joinWith_singleton]
    · have hstart : trimStart (w ++ [' ']) = w ++ [' '] :=
        trimStart_append (trim_eq_self_iff.mp hword).1 hw.ne_nil _
      have hrest : joinWith [' '] ws ≠ [] := joinWith_ne_nil he fun v hv => (hws v hv).ne_nil
      rw [joinWith_cons he]
      exact trim_append hstart (by simp) (trim_eq_self_iff.mp (ih hws)).2 hrest

theorem head?_spaced (h : ∀ w ∈ ws, IsWord w) :
    (joinWith [' '] ws).head? ≠ some ' ' := by
  intro hc
  have hb := trimStart_eq_self_iff.mp (trim_eq_self_iff.mp (trim_spaced h)).1 ' ' hc
  exact absurd hb (by decide)

theorem not_repeated_spaced (h : ∀ w ∈ ws, IsWord w) : ¬ [' ', ' '] <:+: joinWith [' '] ws := by
  induction ws with
  | nil => simp [joinWith]
  | cons w ws ih =>
    obtain ⟨hw, hws⟩ := List.forall_mem_cons.mp h
    have hspace : ' ' ∉ w := fun hm => absurd (hw.not_blank ' ' hm) (by decide)
    intro hi
    by_cases he : ws = []
    · rw [he, joinWith_singleton] at hi
      exact hspace (hi.subset List.mem_cons_self)
    · rw [joinWith_cons he, List.append_assoc] at hi
      have hi := (cons_infix_append_iff hspace).mp hi
      rw [List.singleton_append, List.infix_cons_iff] at hi
      obtain hi | hi := hi
      · obtain ⟨t, ht⟩ := (List.cons_prefix_cons.mp hi).2
        exact head?_spaced hws (by rw [← ht]; rfl)
      · exact ih hws hi

theorem mem_spaced (h : ∀ w ∈ ws, IsWord w) {c : Char} (hc : c ∈ joinWith [' '] ws) :
    c ≠ '_' ∧ isSpecial c = false := by
  obtain hc | ⟨w, hw, hc⟩ := mem_joinWith hc
  · obtain rfl := List.mem_singleton.mp hc
    exact ⟨by decide, by decide +kernel⟩
  · refine ⟨?_, (h w hw).not_special c hc⟩
    rintro rfl
    exact absurd ((h w hw).not_delimiter '_' hc) (by decide)

end Spaced

/-- A word to which no rule applies at its place. -/
structure Acceptable (l : Limits) (i : Nat) (w : List Char) : Prop extends IsWord w where
  not_abbreviated : expansion? l w = none
  not_small : needsCapital i w = false

/-- Acceptable words with single spaces between them break no rule. -/
theorem problems_spaced (hn : ws ≠ []) (h : ∀ i (hi : i < ws.length), Acceptable l i ws[i]) :
    problems l (joinWith [' '] ws) = [] := by
  have hword : ∀ w ∈ ws, IsWord w ∧ expansion? l w = none := by
    intro w hw
    obtain ⟨i, hi, rfl⟩ := List.getElem_of_mem hw
    exact ⟨(h i hi).toIsWord, (h i hi).not_abbreviated⟩
  have hwords : ∀ w ∈ ws, IsWord w := fun w hw => (hword w hw).1
  have hspaces : occursIn [' ', ' '] (joinWith [' '] ws) = false := by
    rw [Bool.eq_false_iff, Ne, occursIn_iff]
    exact not_repeated_spaced hwords
  have hunderscore : underscoreProblem (joinWith [' '] ws) = [] := by
    have hnone : (joinWith [' '] ws).contains '_' = false := by
      rw [Bool.eq_false_iff, Ne, List.contains_iff_mem]
      exact fun hm => (mem_spaced hwords hm).1 rfl
    rw [underscoreProblem, hnone]
    rfl
  have hspecial : (joinWith [' '] ws).filter isSpecial = [] := by
    rw [List.filter_eq_nil_iff]
    exact fun c hc => by simp [(mem_spaced hwords hc).2]
  have habbreviations : ws.filter (fun w => (expansion? l w).isSome) = [] := by
    rw [List.filter_eq_nil_iff]
    exact fun w hw => by simp [(hword w hw).2]
  have hsmall : (ws.mapIdx needsCapital).contains true = false := by
    rw [Bool.eq_false_iff, Ne, List.contains_iff_mem, List.mem_mapIdx]
    rintro ⟨i, hi, hc⟩
    exact absurd ((h i hi).not_small.symm.trans hc) (by decide)
  simp only [problems, nameWords_spaced hn hwords, trim_spaced hwords, hspaces, hunderscore,
    hspecial, habbreviations, hsmall, bne_self_eq_false]
  rfl

section Improve

theorem asciiLower_asciiUpper (c : Char) : asciiLower (asciiUpper c) = asciiLower c :=
  apply_asciiMap asciiUpper_eq_self asciiLower (by decide) c

theorem isDelimiter_asciiUpper (c : Char) : isDelimiter (asciiUpper c) = isDelimiter c :=
  apply_asciiMap asciiUpper_eq_self isDelimiter (by decide) c

theorem isSpecial_asciiUpper (c : Char) : isSpecial (asciiUpper c) = isSpecial c := by
  by_cases h : 'a' ≤ c ∧ c ≤ 'z'
  · have hall : ∀ n ∈ List.range' 0x61 26,
        isSpecial (asciiUpper (Char.ofNat n)) = isSpecial (Char.ofNat n) := by
      decide +kernel
    have ha : 0x61 ≤ c.toNat := h.1
    have hz : c.toNat ≤ 0x7A := h.2
    have hc := hall c.toNat (List.mem_range'_1.mpr ⟨ha, by omega⟩)
    rwa [Char.ofNat_toNat] at hc
  · rw [asciiUpper, if_neg h]

theorem not_isLowercase_asciiUpper {c : Char} (h : c.toNat < 0x80) :
    isLowercase (asciiUpper c) = false := by
  have hall : ∀ n < 0x80, isLowercase (asciiUpper (Char.ofNat n)) = false := by decide
  have hc := hall c.toNat h
  rwa [Char.ofNat_toNat] at hc

theorem expansion?_congr {v : List Char} (h : lower v = lower w) :
    expansion? l v = expansion? l w := by
  rw [expansion?, h, expansion?]

theorem acceptable_full {p : String × String} (hp : p ∈ abbreviations) :
    Acceptable l i p.2.toList := by
  have hall : ∀ p ∈ abbreviations, IsWord p.2.toList ∧
      abbreviations.lookup (String.ofList (lower p.2.toList)) = none ∧
      p.2.toList.head?.any isLowercase = false := by
    decide +kernel
  obtain ⟨hword, hlookup, hhead⟩ := hall p hp
  refine ⟨hword, ?_, ?_⟩
  · rw [expansion?, hlookup, ite_self]
  · rw [needsCapital, hhead]
    rfl

/-- A word with a capital letter put in front needs none, and is no other abbreviation than before. -/
theorem acceptable_capitalize (hw : IsWord w) (ha : ∀ c ∈ w, c.toNat < 0x80)
    (he : expansion? l w = none) : Acceptable l i (capitalize w) := by
  obtain ⟨c, cs, rfl⟩ := List.exists_cons_of_ne_nil hw.ne_nil
  obtain ⟨hc, -⟩ := List.forall_mem_cons.mp ha
  have hcap : capitalize (c :: cs) = asciiUpper c :: cs := by
    rw [capitalize, upperChar_ascii hc, List.singleton_append]
  have hlower : lower (asciiUpper c :: cs) = lower (c :: cs) := by
    rw [← lower_map_asciiLower, List.map_cons, asciiLower_asciiUpper, ← List.map_cons,
      lower_map_asciiLower]
  obtain ⟨hd, hds⟩ := List.forall_mem_cons.mp hw.not_delimiter
  obtain ⟨hs, hss⟩ := List.forall_mem_cons.mp hw.not_special
  rw [hcap]
  refine ⟨⟨List.cons_ne_nil _ _, ?_, ?_⟩, ?_, ?_⟩
  · exact List.forall_mem_cons.mpr ⟨(isDelimiter_asciiUpper c).trans hd, hds⟩
  · exact List.forall_mem_cons.mpr ⟨(isSpecial_asciiUpper c).trans hs, hss⟩
  · rw [expansion?_congr hlower, he]
  · simp [needsCapital, not_isLowercase_asciiUpper hc]

/-- An improved word is acceptable at its place. -/
theorem acceptable_improve (hw : IsWord w) (ha : ∀ c ∈ w, c.toNat < 0x80) :
    Acceptable l i (improve l i w) := by
  unfold improve
  split
  · next full hf =>
    rw [expansion?] at hf
    split at hf
    · exact absurd hf (by simp)
    · obtain ⟨front, back, hp, -⟩ := List.lookup_eq_some_iff.mp hf
      exact acceptable_full (p := (_, full)) (hp ▸ List.mem_append_right front List.mem_cons_self)
  · next he =>
    split
    · exact acceptable_capitalize hw ha he
    · next hn => exact ⟨hw, he, by simpa using hn⟩

end Improve

section Suggest

variable (ha : ∀ c ∈ name, c.toNat < 0x80)
include ha

theorem acceptable_getElem (hi : i < ((nameWords name).mapIdx (improve l)).length) :
    Acceptable l i ((nameWords name).mapIdx (improve l))[i] := by
  rw [List.getElem_mapIdx]
  have hw := List.getElem_mem (l := nameWords name) (n := i) (by simpa using hi)
  exact acceptable_improve (isWord_of_mem_nameWords hw) fun c hc => ha c (mem_of_mem_nameWords hw hc)

theorem suggest_ne_nil (hn : nameWords name ≠ []) : suggest l (nameWords name) ≠ [] := by
  refine joinWith_ne_nil (by simpa using hn) fun w hw => ?_
  obtain ⟨i, hi, rfl⟩ := List.getElem_of_mem hw
  exact (acceptable_getElem ha hi).ne_nil

/-- The words of a suggestion are the improved ones, so it breaks no rule. -/
theorem problems_suggest (hn : nameWords name ≠ []) : problems l (suggest l (nameWords name)) = [] :=
  problems_spaced (by simpa using hn) fun _ hi => acceptable_getElem ha hi

end Suggest

/-- A name that is suggested for an ASCII name with a word in it is accepted as it is: no issue is
reported for it, whatever abbreviations are allowed. -/
theorem check_suggestedName (l : Limits) (kind : ObjectKind) (table : Option String) (name : String)
    (issue : NamingIssue) (ascii : ∀ c ∈ name.toList, c.toNat < 0x80)
    (word : ∃ piece ∈ splitOn isDelimiter name.toList, ∃ c ∈ piece, isSpecial c = false)
    (reported : check l kind table name = some issue) :
    check l kind table issue.suggestedName = none := by
  obtain ⟨piece, hp, c, hc, hs⟩ := word
  have hwords : nameWords name.toList ≠ [] := nameWords_ne_nil hp hc hs
  have hsuggestion : suggestion l name.toList = suggest l (nameWords name.toList) := by
    have hne : suggest l (nameWords name.toList) ≠ [] :=
      suggest_ne_nil ascii hwords
    rw [suggestion, List.isEmpty_eq_false_iff.mpr hne]
    rfl
  have hissue : issue.suggestedName = String.ofList (suggest l (nameWords name.toList)) := by
    rw [check] at reported
    split at reported
    · exact absurd reported (by simp)
    · rw [← Option.some.inj reported, hsuggestion]
  rw [check, hissue, String.toList_ofList, problems_suggest ascii hwords]

/-- A mark that is taken out leaves an abbreviation, which is written out; an allowed one gets its capital
letter, and the joining word between them keeps its small one. -/
theorem check_suggestedName_netAmount :
    let l : Limits := { allowedAbbreviations := ["Qty"] }
    let issue : NamingIssue :=
      ⟨.measure, some "Sales", " net_am$t of  qty",
        [.outerBlanks, .repeatedSpaces, .mixedDelimiters, .specialCharacters "$", .abbreviation "amt",
          .lowerCaseWords],
        "Net Amount of Qty"⟩
    check l .measure (some "Sales") " net_am$t of  qty" = some issue ∧
      (∀ c ∈ " net_am$t of  qty".toList, c.toNat < 0x80) ∧
      check l .measure (some "Sales") "Net Amount of Qty" = none := by
  intro l issue
  have hreported : check l .measure (some "Sales") " net_am$t of  qty" = some issue := by
    decide +kernel
  have hall : " net_am$t of  qty".toList.all (·.toNat < 0x80) = true := by decide +kernel
  have hascii : ∀ c ∈ " net_am$t of  qty".toList, c.toNat < 0x80 := by
    simpa only [decide_eq_true_eq] using List.all_eq_true.mp hall
  have hword : ∃ piece ∈ splitOn isDelimiter " net_am$t of  qty".toList,
      ∃ c ∈ piece, isSpecial c = false :=
    ⟨"net".toList, by decide +kernel, 'n', by decide, by decide⟩
  exact ⟨hreported, hascii,
    check_suggestedName l .measure (some "Sales") _ issue hascii hword hreported⟩

end Tabular.Naming
