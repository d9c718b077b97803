import Tabular.Proofs.Tmdl.Rendering

/-!
# Reading written settings

A record that has its name and nothing else becomes itself again when its written settings are read
one after another. Each gives one field its value and leaves the others.
-/

namespace Tabular

open Text Tmdl

@[simp] theorem valueText_quoteValue (s : String) :
    valueText (String.ofList (quoteValue s.toList)) = s := by
  rw [valueText, String.toList_ofList, unquoteValue_quoteValue, String.ofList_toList]

@[simp] theorem valueName_quoteName (s : String) :
    valueName (String.ofList (quoteName s.toList)) = s := by
  rw [valueName, String.toList_ofList, unquoteName_quoteName, String.ofList_toList]

@[simp] theorem valueFlag_bare (old : Bool) : valueFlag old "" = true := rfl

namespace Tmdl.Setting

variable {α : Type}

def enter (set : α → String → String → α) (a : α) (s : Setting) : α :=
  match s.value? with
  | none => a
  | some v => set a s.key.word (String.ofList v)

end Tmdl.Setting

open Tmdl.Setting (enter)

/-- A setting that is left out changes nothing, and any other changes its own field. -/
theorem Table.enter_setting (t : Table) :
    (∀ o, enter setProperty t (.text .lineageTag o) = { t with lineageTag := o.or t.lineageTag }) ∧
      ∀ b, enter setProperty t (.flag .isHidden b) = { t with isHidden := b || t.isHidden } := by
  refine ⟨?_, ?_⟩ <;> intro o <;> cases o <;>
    simp [enter, Setting.value?, Setting.key, Key.word, setProperty]

theorem Measure.enter_setting (m : Measure) :
    (∀ o, enter setProperty m (.text .formatString o) =
        { m with formatString := o.or m.formatString }) ∧
      (∀ o, enter setProperty m (.text .displayFolder o) =
        { m with displayFolder := o.or m.displayFolder }) ∧
      (∀ b, enter setProperty m (.flag .isHidden b) = { m with isHidden := b || m.isHidden }) ∧
      (∀ o, enter setProperty m (.text .dataCategory o) =
        { m with dataCategory := o.or m.dataCategory }) ∧
      ∀ o, enter setProperty m (.text .lineageTag o) =
        { m with lineageTag := o.or m.lineageTag } := by
  refine ⟨?_, ?_, ?_, ?_, ?_⟩ <;> intro o <;> cases o <;>
    simp [enter, Setting.value?, Setting.key, Key.word, setProperty]

theorem Column.enter_setting (c : Column) :
    (∀ s, enter setProperty c (.text .dataType (some s)) = { c with dataType := s }) ∧
      (∀ o, enter setProperty c (.text .sourceColumn o) =
        { c with sourceColumn := o.or c.sourceColumn }) ∧
      (∀ b, enter setProperty c (.flag .isHidden b) = { c with isHidden := b || c.isHidden }) ∧
      (∀ o, enter setProperty c (.text .formatString o) =
        { c with formatString := o.or c.formatString }) ∧
      (∀ o, enter setProperty c (.text .dataCategory o) =
        { c with dataCategory := o.or c.dataCategory }) ∧
      (∀ o, enter setProperty c (.text .summarizeBy o) =
        { c with summarizeBy := o.or c.summarizeBy }) ∧
      (∀ o, enter setProperty c (.name .sortByColumn o) =
        { c with sortByColumn := o.or c.sortByColumn }) ∧
      (∀ o, enter setProperty c (.text .displayFolder o) =
        { c with displayFolder := o.or c.displayFolder }) ∧
      ∀ o, enter setProperty c (.text .lineageTag o) =
        { c with lineageTag := o.or c.lineageTag } := by
  refine ⟨?_, ?_, ?_, ?_, ?_, ?_, ?_, ?_, ?_⟩ <;> intro o <;> cases o <;>
    simp [enter, Setting.value?, Setting.key, Key.word, setProperty]

theorem Variation.enter_setting (v : Variation) :
    (∀ b, enter setProperty v (.flag .isDefault b) = { v with isDefault := b || v.isDefault }) ∧
      (∀ o, enter setProperty v (.text .relationship o) =
        { v with relationship := o.or v.relationship }) ∧
      ∀ o : Option String, (∀ s ∈ o, trim s.toList = s.toList) →
        enter setProperty v (.bare .defaultHierarchy o) =
          { v with defaultHierarchy := o.or v.defaultHierarchy } := by
  refine ⟨?_, ?_, ?_⟩ <;> intro o <;> cases o <;>
    simp +contextual [enter, Setting.value?, Setting.key, Key.word, setProperty]

theorem Hierarchy.enter_setting (h : Hierarchy) :
    (∀ o, enter setProperty h (.text .lineageTag o) = { h with lineageTag := o.or h.lineageTag }) ∧
      (∀ b, enter setProperty h (.flag .isHidden b) = { h with isHidden := b || h.isHidden }) ∧
      ∀ o, enter setProperty h (.text .displayFolder o) =
        { h with displayFolder := o.or h.displayFolder } := by
  refine ⟨?_, ?_, ?_⟩ <;> intro o <;> cases o <;>
    simp [enter, Setting.value?, Setting.key, Key.word, setProperty]

theorem Level.enter_setting (l : Level) :
    (∀ o, enter setProperty l (.name .column o) = { l with column := o.or l.column }) ∧
      (∀ o, enter setProperty l (.text .lineageTag o) = { l with lineageTag := o.or l.lineageTag }) ∧
      ∀ o, enter setProperty l (.number .ordinal o) = { l with ordinal := o.or l.ordinal } := by
  refine ⟨?_, ?_, ?_⟩ <;> intro o <;> cases o <;>
    simp [enter, Setting.value?, Setting.key, Key.word, setProperty,
      trim_decimal, readInt32?_decimal]

/-- The settings of a record are all that its name does not tell. -/
theorem Table.foldl_settings (t : Table) :
    t.settings.foldl (enter setProperty) { name := t.name, description := t.description } =
      { name := t.name, lineageTag := t.lineageTag, isHidden := t.isHidden,
        description := t.description } := by
  simp [settings, enter_setting]

theorem Measure.foldl_settings (m : Measure) :
    m.settings.foldl (enter setProperty)
        { name := m.name, description := m.description, expression := m.expression } =
      { m with annotations := [] } := by
  simp [settings, enter_setting]

theorem Column.foldl_settings (c : Column) :
    c.settings.foldl (enter setProperty)
        { name := c.name, description := c.description, expression := c.expression } =
      { c with annotations := [], variation := none } := by
  simp [settings, enter_setting]

theorem Variation.foldl_settings {v : Variation} (hv : v.IsPlain) :
    v.settings.foldl (enter setProperty) { name := v.name } = v := by
  have hd : ∀ s ∈ v.defaultHierarchy, trim s.toList = s.toList := by
    have hs := hv.settings (.bare .defaultHierarchy v.defaultHierarchy) (by simp [settings])
    exact fun s h => (hs s h).2
  have he := fun w : Variation => (enter_setting w).2.2 v.defaultHierarchy hd
  simp [settings, enter_setting, he]

theorem Hierarchy.foldl_settings (h : Hierarchy) :
    h.settings.foldl (enter setProperty) { name := h.name } = { h with levels := [] } := by
  simp [settings, enter_setting]

theorem Level.foldl_settings (l : Level) :
    l.settings.foldl (enter setProperty) { name := l.name } = l := by
  simp [settings, enter_setting]

end Tabular
