import Tabular.Proofs.Text.Search
import Tabular.Proofs.Tmdl.Rendering

/-!
# Reading written lines

A written line has the depth at which it was written, and says what it was written for: the line of
a declaration is a declaration, that of a setting a property or a flag with the same key and value.
-/

namespace Tabular.Text

theorem of_mem_identifier {s : List Char} (h : isIdentifier s = true) {c : Char} (hc : c ∈ s) :
    isBlank c = false ∧ c ≠ ':' ∧ c ≠ '/' := by
  have hw : (isAsciiLetter c || isAsciiDigit c || c == '_') = true := by
    cases s with
    | nil => exact absurd hc List.not_mem_nil
    | cons d s =>
      rw [isIdentifier, Bool.and_eq_true, List.all_eq_true] at h
      rcases List.mem_cons.mp hc with rfl | hc
      · simp [h.1]
      · exact h.2 c hc
  have hb : (97 ≤ c.toNat ∧ c.toNat ≤ 122 ∨ 65 ≤ c.toNat ∧ c.toNat ≤ 90) ∨
      (48 ≤ c.toNat ∧ c.toNat ≤ 57) ∨ c.toNat = 95 := by
    simp only [isAsciiLetter, isAsciiDigit, Bool.or_eq_true, Bool.and_eq_true, decide_eq_true_eq,
      beq_iff_eq, Char.le_def, UInt32.le_iff_toNat_le] at hw
    rcases hw with (hw | hw) | rfl
    · exact .inl hw
    · exact .inr (.inl hw)
    · exact .inr (.inr rfl)
  refine ⟨?_, ?_, ?_⟩
  · simp only [isBlank, Bool.or_eq_false_iff, Bool.and_eq_false_iff, decide_eq_false_iff_not,
      beq_eq_false_iff_ne]
    omega
  · rintro rfl
    exact absurd hb (by decide)
  · rintro rfl
    exact absurd hb (by decide)

section Word

variable {w r : List Char}

theorem takeWhile_word (hw : ∀ c ∈ w, isBlank c = false) (hr : ∀ c ∈ r.head?, isBlank c = true) :
    (w ++ r).takeWhile (!isBlank ·) = w :=
  takeWhile_run (by simpa using hw) (by simpa using hr)

theorem dropWhile_word (hw : ∀ c ∈ w, isBlank c = false) (hr : ∀ c ∈ r.head?, isBlank c = true) :
    (w ++ r).dropWhile (!isBlank ·) = r :=
  dropWhile_run (by simpa using hw) (by simpa using hr)

end Word

end Tabular.Text

namespace Tabular.Tmdl

open Text

section Indentation

variable {i : Indent}

theorem indentFrom_unit (i : Indent) (s : List Char) :
    indentFrom 0 (i.unit ++ s) = indentFrom 0 s + 1 := by
  cases i <;> simp [Indent.unit, indentFrom]

theorem indentFrom_times (i : Indent) (n : Nat) (s : List Char) :
    indentFrom 0 (i.times n ++ s) = n + indentFrom 0 s := by
  induction n with
  | zero => simp [Indent.times]
  | succ n ih =>
    rw [Indent.times, List.append_assoc, indentFrom_unit, ih]
    omega

theorem eq_of_mem_times {n : Nat} {c : Char} (h : c ∈ i.times n) : c = '\t' ∨ c = ' ' := by
  induction n with
  | zero => exact absurd h List.not_mem_nil
  | succ n ih =>
    rcases List.mem_append.mp h with h | h
    · cases i
      · exact .inl (List.mem_singleton.mp h)
      · exact .inr (by simpa [Indent.unit] using h)
    · exact ih h

theorem isBlank_of_mem_times {n : Nat} {c : Char} (h : c ∈ i.times n) : isBlank c = true := by
  rcases eq_of_mem_times h with rfl | rfl <;> decide

/-- A text of one line that trimming leaves alone. -/
structure IsPhrase (s : List Char) : Prop where
  ne_nil : s ≠ []
  trim_eq : trim s = s
  notMem : '\n' ∉ s

theorem IsPhrase.isLine {s : List Char} (h : IsPhrase s) : IsLine s := by
  refine ⟨h.notMem, fun he => ?_⟩
  have hc := trimEnd_eq_self_iff.mp (trim_eq_self_iff.mp h.trim_eq).2 '\r' he
  exact absurd hc (by decide)

theorem Row.isLine_write {r : Row} (h : IsLine r.text) (i : Indent) : IsLine (r.write i) := by
  rw [Row.write]
  split
  · exact ⟨List.not_mem_nil, by simp⟩
  · next hn =>
    constructor
    · rw [List.mem_append, not_or]
      refine ⟨fun hm => ?_, h.1⟩
      rcases eq_of_mem_times hm with e | e <;> exact absurd e (by decide)
    · rw [List.getLast?_append_of_ne_nil _ hn]
      exact h.2

theorem Row.depth_le_depth_ofRaw {r : Row} (h : r.text ≠ []) (i : Indent) :
    r.depth ≤ (Line.ofRaw (r.write i)).depth := by
  rw [Row.write, if_neg h, Line.ofRaw, indentDepth, indentFrom_times]
  exact Nat.le_add_right _ _

theorem Row.trim_write (i : Indent) (r : Row) : trim (r.write i) = trim r.text := by
  rw [Row.write]
  split
  · next h => rw [h]
  · exact trim_append_of_blank (fun c hc => isBlank_of_mem_times hc) r.text

/-- A written phrase is read at its own depth. -/
theorem Row.ofRaw_write {r : Row} (h : IsPhrase r.text) (i : Indent) :
    Line.ofRaw (r.write i) = ⟨r.write i, r.depth, .ofTrimmed r.text⟩ := by
  have ht : trim (r.write i) = r.text := (Row.trim_write i r).trans h.trim_eq
  have hd : indentDepth (r.write i) = r.depth := by
    obtain ⟨c, s, hs⟩ := List.exists_cons_of_ne_nil h.ne_nil
    have hc := trimStart_eq_self_iff.mp (trim_eq_self_iff.mp h.trim_eq).1 c (by rw [hs]; rfl)
    have hz : indentFrom 0 (c :: s) = 0 := by
      unfold indentFrom
      split
      · next he => cases he; exact absurd hc (by decide)
      · next he => cases he; exact absurd hc (by decide)
      · rfl
    rw [Row.write, if_neg h.ne_nil, indentDepth, indentFrom_times, hs, hz]
    rfl
  rw [Line.ofRaw, ht, hd]

end Indentation

section Spaced

variable {v : List Char}

theorem trim_spaced (hv : trim v = v) : trim (spaced v) = v := by
  rw [spaced]
  split
  · next h => rw [h, trim_nil]
  · exact (trim_cons_of_blank (by decide) v).trans hv

theorem trimEnd_cons_spaced {c : Char} (hc : isBlank c = false) (hv : trim v = v) :
    trimEnd (c :: spaced v) = c :: spaced v := by
  rw [spaced]
  split
  · exact trimEnd_eq_self_iff.mpr (by simp [hc])
  · next h => exact trimEnd_append (trim_eq_self_iff.mp hv).2 h [c, ' ']

theorem newline_notMem_spaced (hn : '\n' ∉ v) : '\n' ∉ spaced v := by
  rw [spaced]
  split
  · exact List.not_mem_nil
  · rw [List.mem_cons, not_or]
    exact ⟨by decide, hn⟩

end Spaced

section Declaration

variable {v : Option (List Char)}

theorem trimEnd_assigned (hv : ∀ t ∈ v, trim t = t) : trimEnd (assigned v) = assigned v := by
  cases v with
  | none => rfl
  | some t => exact trimEnd_append (trimEnd_cons_spaced (by decide) (hv t rfl)) (by simp) [' ']

theorem newline_notMem_assigned (hv : ∀ t ∈ v, '\n' ∉ t) : '\n' ∉ assigned v := by
  cases v with
  | none => exact List.not_mem_nil
  | some t =>
    simp only [assigned, List.mem_cons, not_or]
    exact ⟨by decide, by decide, newline_notMem_spaced (hv t rfl)⟩

theorem trim_quoteName_append_assigned (n : List Char) (hv : ∀ t ∈ v, trim t = t) :
    trim (quoteName n ++ assigned v) = quoteName n ++ assigned v := by
  have hn := trim_eq_self_iff.mp (trim_quoteName n)
  cases v with
  | none => rw [assigned, List.append_nil, trim_quoteName]
  | some t =>
    exact trim_append hn.1 (by simp [quoteName]) (trimEnd_assigned hv) (by simp [assigned])

theorem splitDeclaration_quoteName (n : List Char) (hv : ∀ t ∈ v, trim t = t) :
    splitDeclaration (quoteName n ++ assigned v) = (n, v) := by
  have hh : (assigned v).head? ≠ some '\'' := by
    cases v with
    | none => simp [assigned]
    | some t => simp [assigned]
  have hq : quoteName n ++ assigned v = '\'' :: (doubleQuotes n ++ '\'' :: assigned v) := by
    simp [quoteName]
  rw [splitDeclaration, trim_quoteName_append_assigned n hv, hq]
  simp only [readQuoted_doubleQuotes n hh]
  cases v with
  | none => rfl
  | some t =>
    have he : trimStart (assigned (some t)) = '=' :: spaced t := by
      rw [assigned, trimStart_cons_of_blank (by decide), trimStart_cons_of_not_blank (by decide)]
    simp only [he]
    rw [trim_spaced (hv t rfl)]

section Word

variable {w r : List Char}

/-- A keyword before an operand opens a declaration. -/
theorem LineKind.ofTrimmed_keyword {k : Keyword} (hw : ∀ c ∈ w, isBlank c = false) (hs : '/' ∉ w)
    (hk : Keyword.ofWord (String.ofList w) = some k) (hr : ∀ c ∈ r.head?, isBlank c = true)
    (ho : isOperand (trimStart r) = true) :
    LineKind.ofTrimmed (w ++ r) =
      .declaration k (String.ofList (splitDeclaration (trimStart r)).1)
        ((splitDeclaration (trimStart r)).2.map String.ofList) := by
  have hn : w ≠ [] := by
    rintro rfl
    have hz : Keyword.ofWord (String.ofList []) = none := by
      decide
    rw [hz] at hk
    cases hk
  obtain ⟨c, u, rfl⟩ := List.exists_cons_of_ne_nil hn
  unfold LineKind.ofTrimmed
  split
  · next h => simp at h
  · next h =>
    rw [List.cons_append] at h
    injection h with h
    exact absurd (h ▸ List.mem_cons_self) hs
  · dsimp only
    rw [takeWhile_word hw hr, dropWhile_word hw hr]
    simp only [hk, ho]

/-- Without a keyword, or without an operand, a line is a property, a flag or nothing known. -/
theorem LineKind.ofTrimmed_plain (hw : ∀ c ∈ w, isBlank c = false) (hs : '/' ∉ w) (hn : w ≠ [])
    (hr : ∀ c ∈ r.head?, isBlank c = true)
    (hk : Keyword.ofWord (String.ofList w) = none ∨ isOperand (trimStart r) = false)
    (hu : unreadBlocks.contains (String.ofList w) = false) :
    LineKind.ofTrimmed (w ++ r) = .ofPlain (w ++ r) := by
  obtain ⟨c, u, rfl⟩ := List.exists_cons_of_ne_nil hn
  unfold LineKind.ofTrimmed
  split
  · next h => simp at h
  · next h =>
    rw [List.cons_append] at h
    injection h with h
    exact absurd (h ▸ List.mem_cons_self) hs
  · dsimp only
    rw [takeWhile_word hw hr, dropWhile_word hw hr, hu]
    split
    · next hk' ho => rcases hk with hk | ho' <;> simp_all
    · simp

end Word

theorem Keyword.word_chars (k : Keyword) :
    k.word.toList ≠ [] ∧ ∀ c ∈ k.word.toList, isBlank c = false ∧ c ≠ '/' ∧ c ≠ '\n' := by
  have hw : k.word.toList.all (fun c => !isBlank c && c != '/' && c != '\n') = true := by
    cases k <;> decide
  refine ⟨by cases k <;> decide, fun c hc => ?_⟩
  simpa [and_assoc] using List.all_eq_true.mp hw c hc

theorem ofTrimmed_declaration (k : Keyword) (name : String) (hv : ∀ t ∈ v, trim t = t) :
    LineKind.ofTrimmed (declaration k name v) = .declaration k name (v.map String.ofList) := by
  obtain ⟨hn, hw⟩ := k.word_chars
  have ht : trimStart (' ' :: (quoteName name.toList ++ assigned v)) =
      quoteName name.toList ++ assigned v := by
    rw [trimStart_cons_of_blank (by decide)]
    exact (trim_eq_self_iff.mp (trim_quoteName_append_assigned name.toList hv)).1
  have ho : isOperand (quoteName name.toList ++ assigned v) = true := by
    simp [isOperand, quoteName]
  have hk : Keyword.ofWord (String.ofList k.word.toList) = some k := by
    rw [String.ofList_toList, Keyword.ofWord_word]
  have hb : ∀ c ∈ (' ' :: (quoteName name.toList ++ assigned v)).head?, isBlank c = true := by
    rintro c ⟨⟩
    decide
  rw [declaration, LineKind.ofTrimmed_keyword (fun c hc => (hw c hc).1)
    (fun hc => (hw '/' hc).2.1 rfl) hk hb (by rw [ht, ho]), ht,
    splitDeclaration_quoteName name.toList hv, String.ofList_toList]

theorem isPhrase_declaration (k : Keyword) {name : String} (hn : OneLine name)
    (hv : ∀ t ∈ v, trim t = t ∧ '\n' ∉ t) : IsPhrase (declaration k name v) := by
  obtain ⟨hw, hc⟩ := k.word_chars
  have hq := trim_quoteName_append_assigned name.toList fun t ht => (hv t ht).1
  refine ⟨by simp [declaration], ?_, ?_⟩
  · have hs : trimStart k.word.toList = k.word.toList := by
      refine trimStart_eq_self_iff.mpr fun c h => (hc c (List.mem_of_mem_head? h)).1
    refine trim_append hs hw ?_ (by simp)
    exact trimEnd_append (trim_eq_self_iff.mp hq).2 (by simp [quoteName]) [' ']
  · simp only [declaration, List.mem_append, List.mem_cons, not_or]
    exact ⟨fun hm => (hc _ hm).2.2 rfl, by decide, newline_notMem_quoteName hn,
      newline_notMem_assigned fun t ht => (hv t ht).2⟩

end Declaration

section Documentation

theorem ofTrimmed_doc {l : List Char} (hl : trim l = l) :
    LineKind.ofTrimmed ('/' :: '/' :: '/' :: spaced l) = .doc (String.ofList l) := by
  rw [LineKind.ofTrimmed, trim_spaced hl]

theorem isPhrase_doc {l : List Char} (hl : trim l = l) (hn : '\n' ∉ l) :
    IsPhrase ('/' :: '/' :: '/' :: spaced l) := by
  refine ⟨by simp, ?_, ?_⟩
  · refine trim_eq_self_iff.mpr ⟨trimStart_cons_of_not_blank (by decide) _, ?_⟩
    exact trimEnd_append (trimEnd_cons_spaced (by decide) hl) (by simp) ['/', '/']
  · simp only [List.mem_cons, not_or]
    exact ⟨by decide, by decide, by decide, newline_notMem_spaced hn⟩

theorem notMem_of_mem_textLines {s : String} {l : List Char} (h : l ∈ textLines s) : '\n' ∉ l :=
  fun hm => absurd (not_of_mem_splitOn h hm) (by decide)

end Documentation

/-- The word can stand before a colon and, for a flag, alone. -/
def IsKey (word : String) : Prop := isIdentifier word.toList = true ∧ word ∉ unreadBlocks

instance (word : String) : Decidable (IsKey word) := inferInstanceAs (Decidable (_ ∧ _))

theorem Key.isKey (k : Key) : IsKey k.word := by
  cases k <;> decide

namespace IsKey

variable {key : String} (h : IsKey key)

include h

theorem not_blank {c : Char} (hc : c ∈ key.toList) : isBlank c = false :=
  (of_mem_identifier h.1 hc).1

theorem colon_notMem : ':' ∉ key.toList := fun hc => (of_mem_identifier h.1 hc).2.1 rfl

theorem slash_notMem : '/' ∉ key.toList := fun hc => (of_mem_identifier h.1 hc).2.2 rfl

theorem ne_nil : key.toList ≠ [] := by
  intro he
  have hi := h.1
  rw [he] at hi
  exact absurd hi (by decide)

theorem trim_eq : trim key.toList = key.toList :=
  trim_eq_self_of_not_blank fun _ hc => h.not_blank hc

theorem ofTrimmed_flag : LineKind.ofTrimmed key.toList = .flag key := by
  have hu : unreadBlocks.contains (String.ofList key.toList) = false := by
    simpa using h.2
  have hp : splitProperty key.toList = none := by
    have hs : splitAtFirst ':' key.toList = none := by
      cases hs : splitAtFirst ':' key.toList with
      | none => rfl
      | some r => exact absurd (by simp [(splitAtFirst_eq_some hs).1]) h.colon_notMem
    rw [splitProperty, hs]
  have ho := LineKind.ofTrimmed_plain (r := []) (fun c hc => h.not_blank hc) h.slash_notMem h.ne_nil
    (by simp) (.inr rfl) hu
  rw [List.append_nil] at ho
  rw [ho, LineKind.ofPlain, hp]
  simp only [h.1, if_true, String.ofList_toList]

theorem ofTrimmed_property {v : List Char} (hv : trim v = v) :
    LineKind.ofTrimmed (key.toList ++ ':' :: spaced v) = .property key (String.ofList v) := by
  have hw : ∀ c ∈ key.toList ++ [':'], isBlank c = false := by
    intro c hc
    rcases List.mem_append.mp hc with hc | hc
    · exact h.not_blank hc
    · rw [List.mem_singleton.mp hc]
      decide
  have hr : ∀ c ∈ (spaced v).head?, isBlank c = true := by
    intro c hc
    rw [spaced] at hc
    split at hc
    · exact absurd hc (by simp)
    · rw [← Option.mem_some.mp hc]
      decide
  have hc : ':' ∈ (String.ofList (key.toList ++ [':'])).toList := by
    simp
  -- no keyword and no unread block is written with a colon
  have hk : Keyword.ofWord (String.ofList (key.toList ++ [':'])) = none := by
    refine List.find?_eq_none.mpr fun k _ he => ?_
    have hw : ':' ∉ k.word.toList := by
      cases k <;> decide
    exact hw (eq_of_beq he ▸ hc)
  have hu : unreadBlocks.contains (String.ofList (key.toList ++ [':'])) = false := by
    have hw : ∀ u ∈ unreadBlocks, ':' ∉ u.toList := by
      decide
    exact Bool.eq_false_iff.mpr fun hm => hw _ (List.contains_iff_mem.mp hm) hc
  have ho := LineKind.ofTrimmed_plain hw (by simp [h.slash_notMem]) (by simp) hr (.inl hk) hu
  rw [List.append_assoc, List.singleton_append] at ho
  rw [ho, LineKind.ofPlain, splitProperty, splitAtFirst_append h.colon_notMem]
  simp only [(trim_eq_self_iff.mp h.trim_eq).2, h.1, if_true, trim_spaced hv, String.ofList_toList]

theorem isPhrase : IsPhrase key.toList :=
  ⟨h.ne_nil, h.trim_eq, fun hm => absurd (h.not_blank hm) (by decide)⟩

theorem isPhrase_property {v : List Char} (hv : trim v = v) (hn : '\n' ∉ v) :
    IsPhrase (key.toList ++ ':' :: spaced v) := by
  refine ⟨by simp, ?_, ?_⟩
  · exact trim_append (trim_eq_self_iff.mp h.trim_eq).1 h.ne_nil
      (trimEnd_cons_spaced (by decide) hv) (by simp)
  · simp only [List.mem_append, List.mem_cons, not_or]
    exact ⟨h.isPhrase.notMem, by decide, newline_notMem_spaced hn⟩

end IsKey

namespace Setting

variable {s : Setting} {v : List Char}

theorem trim_of_mem_value? (hs : s.IsPlain) (hv : v ∈ s.value?) : trim v = v ∧ '\n' ∉ v := by
  cases s with
  | flag k b =>
    cases b with
    | false => simp [value?] at hv
    | true =>
      cases hv
      exact ⟨rfl, List.not_mem_nil⟩
  | text k o =>
    obtain ⟨t, ht, rfl⟩ := Option.map_eq_some_iff.mp hv
    exact ⟨trim_quoteValue _, newline_notMem_quoteValue (hs t ht)⟩
  | name k o =>
    obtain ⟨t, ht, rfl⟩ := Option.map_eq_some_iff.mp hv
    exact ⟨trim_quoteName _, newline_notMem_quoteName (hs t ht)⟩
  | bare k o =>
    obtain ⟨t, ht, rfl⟩ := Option.map_eq_some_iff.mp hv
    exact ⟨(hs t ht).2, (hs t ht).1⟩
  | number k o =>
    obtain ⟨n, -, rfl⟩ := Option.map_eq_some_iff.mp hv
    exact ⟨trim_decimal _, newline_notMem_decimal _⟩

/-- The line of a setting is a flag or a property with its key and its written value. -/
theorem ofTrimmed_line (hs : s.IsPlain) (hv : v ∈ s.value?) :
    LineKind.ofTrimmed (s.line v) = .property s.key.word (String.ofList v) ∨
      LineKind.ofTrimmed (s.line v) = .flag s.key.word ∧ v = [] := by
  have ht := (trim_of_mem_value? hs hv).1
  cases s with
  | flag k b =>
    refine .inr ⟨k.isKey.ofTrimmed_flag, ?_⟩
    cases b with
    | false => simp [value?] at hv
    | true => exact (Option.some.inj hv).symm
  | text k o => exact .inl (k.isKey.ofTrimmed_property ht)
  | name k o => exact .inl (k.isKey.ofTrimmed_property ht)
  | bare k o => exact .inl (k.isKey.ofTrimmed_property ht)
  | number k o => exact .inl (k.isKey.ofTrimmed_property ht)

theorem isPhrase_line (hs : s.IsPlain) (hv : v ∈ s.value?) :
    IsPhrase (s.line v) := by
  obtain ⟨ht, hn⟩ := trim_of_mem_value? hs hv
  cases s with
  | flag k b => exact k.isKey.isPhrase
  | text k o => exact k.isKey.isPhrase_property ht hn
  | name k o => exact k.isKey.isPhrase_property ht hn
  | bare k o => exact k.isKey.isPhrase_property ht hn
  | number k o => exact k.isKey.isPhrase_property ht hn

end Setting

end Tabular.Tmdl
