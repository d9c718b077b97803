import Tabular.Project.Assembly
import Tabular.Proofs.Files.Memory

/-!
# Files that count as absent

The model file, the relationships file and the table files of a model are read on their own, and each of
them may fail to give anything. Nor does a directory without files below it differ from one that does not
exist. So a file that gives nothing can be taken away without a trace, unless the directory of the model
goes with it: without that directory, and only then, assembling fails.
-/

namespace Tabular

namespace Memory

variable {m : Memory}

theorem textOf?_toSource (m : Memory) (p : Path) :
    m.toSource.textOf? p = (m.find? p).bind (·.text) := by
  change (if (m.find? p).isSome then (m.find? p).bind (·.text) else none) = _
  cases m.find? p <;> rfl

/-- The text under a path is not missed if the file that is dropped there has none. -/
theorem Ordered.textOf?_without (h : m.Ordered) {drop : MemoryFile → Bool} {p : Path}
    (hd : ∀ f ∈ m.files, drop f = true → f.path.same p = true → f.text = none) :
    (m.without drop).toSource.textOf? p = m.toSource.textOf? p := by
  rw [textOf?_toSource, textOf?_toSource, h.find?_without]
  cases hf : m.find? p with
  | none => rfl
  | some f =>
    cases hdrop : drop f with
    | false => simp [Option.filter_some, hdrop]
    | true =>
      have htext := hd f (List.mem_of_find?_eq_some hf) hdrop (same_of_find?_eq_some hf)
      simp [Option.filter_some, hdrop, htext]

theorem Ordered.read?_path (h : m.Ordered) {f : MemoryFile} (hf : f ∈ m.files) :
    m.toSource.read? f.path = f.text := by
  change (m.find? f.path).bind (·.text) = f.text
  rw [h.find?_path hf]
  rfl

end Memory

namespace Layout

variable {l : Layout} {m : Memory} {definition : Path} {f : MemoryFile}

/-- The path of a table file of the model in a definition directory. -/
def isTableFile (l : Layout) (definition p : Path) : Bool :=
  (l.tablesIn definition).isParentOf p && p.hasExtension l.tableExtension

/-- The table that a file gives to the model in a definition directory. -/
def tableOf? (l : Layout) (definition : Path) (f : MemoryFile) : Option Table :=
  if l.isTableFile definition f.path then f.text.bind Tmdl.parseTable else none

/-- A file that gives nothing to the model in a definition directory. It cannot be read, or else it is
neither the model file nor the relationships file and, if it is a table file, declares no table. -/
def GivesNothing (l : Layout) (definition : Path) (f : MemoryFile) : Prop :=
  f.text = none ∨
    f.path.same (l.modelFileIn definition) = false ∧
      f.path.same (l.relationshipsIn definition) = false ∧ l.tableOf? definition f = none

instance (l : Layout) (definition : Path) (f : MemoryFile) : Decidable (l.GivesNothing definition f) :=
  inferInstanceAs (Decidable (_ ∨ _))

theorem GivesNothing.tableOf?_eq (h : l.GivesNothing definition f) : l.tableOf? definition f = none := by
  obtain h | ⟨-, -, h⟩ := h
  · rw [tableOf?, h]
    exact ite_self none
  · exact h

/-- The tables of a model are those that its files give, in their order. -/
theorem readTables_toSource (h : m.Ordered) (l : Layout) (definition : Path) :
    l.readTables m.toSource (l.tablesIn definition) = m.files.filterMap (l.tableOf? definition) := by
  rw [readTables]
  split_ifs with hdir
  · change ((((m.files.map (·.path)).filter (l.tablesIn definition).isParentOf).filter
      (·.hasExtension l.tableExtension)).filterMap
        fun p => (m.toSource.read? p).bind Tmdl.parseTable) = _
    rw [List.filter_filter, List.filterMap_filter, List.filterMap_map]
    refine List.filterMap_congr fun f hf => ?_
    simp only [Function.comp_apply, h.read?_path hf, tableOf?, isTableFile, Bool.and_comm]
  · -- Without the directory no path leads into it, so no file is a table file.
    refine (List.filterMap_eq_nil_iff.mpr fun f hf => ?_).symm
    have hparent : (l.tablesIn definition).isParentOf f.path = false := by
      rw [Bool.eq_false_iff]
      exact fun hp => hdir (List.any_eq_true.mpr ⟨f, hf, Path.isAbove_of_isParentOf hp⟩)
    rw [tableOf?, isTableFile, hparent]
    rfl

section Without

variable {drop : MemoryFile → Bool}

theorem readModel_without (h : m.Ordered) {dir : Path}
    (hd : ∀ f ∈ m.files, drop f = true → l.GivesNothing (l.definitionIn dir) f) :
    l.readModel (m.without drop).toSource dir = l.readModel m.toSource dir := by
  have hname : (m.without drop).toSource.textOf? (l.modelFileIn (l.definitionIn dir)) =
      m.toSource.textOf? (l.modelFileIn (l.definitionIn dir)) := by
    refine h.textOf?_without fun f hf hdrop hp => (hd f hf hdrop).resolve_right fun hn => ?_
    exact absurd (hn.1.symm.trans hp) (by decide)
  have hrelationships : (m.without drop).toSource.textOf? (l.relationshipsIn (l.definitionIn dir)) =
      m.toSource.textOf? (l.relationshipsIn (l.definitionIn dir)) := by
    refine h.textOf?_without fun f hf hdrop hp => (hd f hf hdrop).resolve_right fun hn => ?_
    exact absurd (hn.2.1.symm.trans hp) (by decide)
  have htables : (m.without drop).files.filterMap (l.tableOf? (l.definitionIn dir)) =
      m.files.filterMap (l.tableOf? (l.definitionIn dir)) := by
    rw [Memory.without, List.filterMap_filter]
    refine List.filterMap_congr fun f hf => ?_
    cases hdrop : drop f with
    | false => rfl
    | true => exact (hd f hf hdrop).tableOf?_eq.symm
  simp only [readModel, readName, readRelationships, hname, hrelationships,
    readTables_toSource (h.without drop), readTables_toSource h, htables]

end Without

theorem assemble_of_isDirectory {s : Source} {path : String}
    (h : s.isDirectory (l.modelDir path) = true) :
    l.assemble s path = .ok ⟨path, (l.modelDir path).toString, l.readModel s (l.modelDir path)⟩ := by
  rw [assemble]
  exact if_pos h

theorem assemble_eq_error_iff {s : Source} {path : String} {e : Failure} :
    l.assemble s path = .error e ↔
      s.isDirectory (l.modelDir path) = false ∧ e = .modelNotFound (l.modelDir path).toString := by
  rw [assemble]
  cases s.isDirectory (l.modelDir path) <;> simp [eq_comm]

/-- Whatever files a memory is filled with, those among them that give nothing to the model of a path can
be taken away: as long as its directory is still there, assembling gives the same project. It fails only
if the directory is not there, and then it names it. -/
theorem assemble_without (l : Layout) (fs : List MemoryFile) (drop : MemoryFile → Bool) :
    let m := Memory.ofFiles fs
    let reduced := m.without drop
    (∀ path, (∀ f ∈ m.files, drop f = true → l.GivesNothing (l.definitionIn (l.modelDir path)) f) →
      reduced.toSource.isDirectory (l.modelDir path) = true →
      l.assemble reduced.toSource path = l.assemble m.toSource path) ∧
    ∀ path e, l.assemble m.toSource path = .error e ↔
      m.toSource.isDirectory (l.modelDir path) = false ∧
        e = .modelNotFound (l.modelDir path).toString := by
  intro m reduced
  refine ⟨fun path hd hdir => ?_, fun path e => assemble_eq_error_iff⟩
  have hordered : m.Ordered := Memory.ordered_ofFiles fs
  have hfull : m.toSource.isDirectory (l.modelDir path) = true := by
    obtain ⟨f, hf, ha⟩ := List.any_eq_true.mp hdir
    exact List.any_eq_true.mpr ⟨f, List.mem_of_mem_filter hf, ha⟩
  rw [assemble_of_isDirectory hdir, assemble_of_isDirectory hfull, readModel_without hordered hd]

def shortNames : Layout where
  modelDirSuffix := ".m"
  definitionDir := "d"
  tablesDir := "t"
  tableExtension := "t"
  relationshipsFile := "r"
  modelFile := "n"

def salesTable : MemoryFile := ⟨.ofString "S.m/d/t/S.t", some "table Sales".toList⟩

/-- The files of a model of which only one is of use: two cannot be read, and the notes declare no table. -/
def partlyBroken : List MemoryFile := [
  salesTable, ⟨.ofString "S.m/d/t/B.t", none⟩, ⟨.ofString "S.m/d/t/N.t", some "notes".toList⟩,
  ⟨.ofString "S.m/d/n", none⟩]

theorem assemble_without_partlyBroken :
    let m := Memory.ofFiles partlyBroken
    let reduced := m.without (· != salesTable)
    (∀ f ∈ m.files, (f != salesTable) = true →
      shortNames.GivesNothing (shortNames.definitionIn (shortNames.modelDir "S.pbip")) f) ∧
    reduced.toSource.isDirectory (shortNames.modelDir "S.pbip") = true ∧
    reduced.files = [salesTable] ∧
    shortNames.assemble m.toSource "S.pbip" =
      .ok ⟨"S.pbip", "S.m", ⟨"Model", [{ name := "Sales" }], []⟩⟩ := by
  have hfiles : Memory.ofFiles partlyBroken =
      ⟨[⟨.ofString "S.m/d/n", none⟩, ⟨.ofString "S.m/d/t/B.t", none⟩,
        ⟨.ofString "S.m/d/t/N.t", some "notes".toList⟩, salesTable]⟩ := by
    decide +kernel
  have hreduced : (Memory.ofFiles partlyBroken).without (· != salesTable) = ⟨[salesTable]⟩ := by
    rw [hfiles]
    decide +kernel
  have hnothing : ∀ f ∈ (Memory.ofFiles partlyBroken).files, (f != salesTable) = true →
      shortNames.GivesNothing (shortNames.definitionIn (shortNames.modelDir "S.pbip")) f := by
    rw [hfiles]
    decide +kernel
  have hdir : (Memory.toSource ⟨[salesTable]⟩).isDirectory (shortNames.modelDir "S.pbip") = true := by
    decide +kernel
  have hproject : shortNames.assemble (Memory.toSource ⟨[salesTable]⟩) "S.pbip" =
      .ok ⟨"S.pbip", "S.m", ⟨"Model", [{ name := "Sales" }], []⟩⟩ := by
    decide +kernel
  have hsame := (assemble_without shortNames partlyBroken (· != salesTable)).1 "S.pbip" hnothing
  rw [hreduced] at hsame
  intro m reduced
  have hfew : reduced = ⟨[salesTable]⟩ := hreduced
  rw [hfew]
  exact ⟨hnothing, hdir, rfl, (hsame hdir).symm.trans hproject⟩

end Layout

end Tabular
