import Tabular.Files.Memory
import Tabular.Project.Loader
import Tabular.Proofs.Cache.Store

/-!
# Sessions with a loader

A loader is asked for projects time and again, is told to forget what it keeps, and has the files under
its feet replaced. As long as the files stay as they are, whatever is kept is the project of its path:
an answer from the store is the one that assembling gives. A loader that keeps everything goes on
giving the project that it gave first, whatever becomes of the files.
-/

namespace Tabular

namespace Loader

variable {ld : Loader} {s : Source} {path : String} {kept : Loaded} {e : Failure}

theorem load_of_kept (h : (ld.store.lookup path).1 = some kept) :
    ld.load s path = (.ok kept, { ld with store := (ld.store.lookup path).2 }) := by
  rw [load, h]

/-- A load finds the path in the store, or it assembles the project and keeps it, or it fails. -/
theorem load_cases (ld : Loader) (s : Source) (path : String) :
    (∃ kept, (ld.store.lookup path).1 = some kept ∧
      ld.load s path = (.ok kept, { ld with store := (ld.store.lookup path).2 })) ∨
    (∃ project, (ld.store.lookup path).1 = none ∧ ld.layout.assemble s path = .ok project ∧
      ld.load s path = (.ok ⟨ld.next, project⟩,
        { ld with
          store := (ld.store.lookup path).2.insert path ⟨ld.next, project⟩
          next := ld.next + 1 })) ∨
    ∃ e, (ld.store.lookup path).1 = none ∧ ld.layout.assemble s path = .error e ∧
      ld.load s path = (.error e, { ld with store := (ld.store.lookup path).2 }) := by
  cases hl : (ld.store.lookup path).1 with
  | some kept => exact .inl ⟨kept, rfl, load_of_kept hl⟩
  | none =>
    cases ha : ld.layout.assemble s path with
    | ok project => exact .inr (.inl ⟨project, rfl, rfl, by rw [load, hl, ha]⟩)
    | error e => exact .inr (.inr ⟨e, rfl, rfl, by rw [load, hl, ha]⟩)

theorem layout_load (ld : Loader) (s : Source) (path : String) :
    (ld.load s path).2.layout = ld.layout := by
  obtain ⟨_, -, he⟩ | ⟨_, -, -, he⟩ | ⟨_, -, -, he⟩ := load_cases ld s path <;> rw [he]

theorem toList_load_of_error (h : (ld.load s path).1 = .error e) :
    (ld.load s path).2.store.toList = ld.store.toList := by
  obtain ⟨kept, -, he⟩ | ⟨project, -, -, he⟩ | ⟨f, hl, -, he⟩ := load_cases ld s path
  · rw [he] at h
    exact absurd h (by simp)
  · rw [he] at h
    exact absurd h (by simp)
  · rw [he]
    exact Store.toList_lookup_of_none hl

/-- Every project that is kept is the one that its path has in these files. -/
def Faithful (ld : Loader) (s : Source) : Prop :=
  ∀ p ∈ ld.store.toList, ld.layout.assemble s p.1 = .ok p.2.project

theorem Faithful.project_load (h : ld.Faithful s) (path : String) :
    (ld.load s path).1.map Loaded.project = ld.layout.assemble s path := by
  obtain ⟨kept, hl, he⟩ | ⟨project, -, ha, he⟩ | ⟨f, -, ha, he⟩ := load_cases ld s path
  · rw [he, h _ (Store.mem_of_lookup hl)]
    rfl
  · rw [he, ha]
    rfl
  · rw [he, ha]
    rfl

theorem Faithful.load (h : ld.Faithful s) (path : String) : (ld.load s path).2.Faithful s := by
  intro p hp
  rw [layout_load]
  obtain ⟨kept, -, he⟩ | ⟨project, -, ha, he⟩ | ⟨f, -, -, he⟩ := load_cases ld s path
  · rw [he] at hp
    exact h p (Store.mem_of_mem_lookup hp)
  · rw [he] at hp
    rcases Store.mem_of_mem_insert hp with rfl | hp
    · exact ha
    · exact h p (Store.mem_of_mem_lookup hp)
  · rw [he] at hp
    exact h p (Store.mem_of_mem_lookup hp)

theorem Faithful.clear (s : Source) (ld : Loader) : ld.clear.Faithful s := by
  intro p hp
  rw [Loader.clear, Store.toList_clear] at hp
  exact absurd hp List.not_mem_nil

/-- The loader keeps all projects, and this one under this path. -/
def Remembers (ld : Loader) (path : String) (kept : Loaded) : Prop :=
  ∃ entries, ld.store = .unbounded entries ∧ entries.lookup path = some kept

theorem Remembers.answer (h : ld.Remembers path kept) (s : Source) :
    (ld.load s path).1 = .ok kept := by
  obtain ⟨entries, hs, hk⟩ := h
  have hl : (ld.store.lookup path).1 = some kept := by
    rw [hs]
    exact hk
  rw [load_of_kept hl]

theorem exists_unbounded_load (h : ∃ entries, ld.store = .unbounded entries) (s : Source)
    (path : String) : ∃ entries, (ld.load s path).2.store = .unbounded entries := by
  obtain ⟨entries, hs⟩ := h
  obtain ⟨kept, -, he⟩ | ⟨project, -, -, he⟩ | ⟨f, -, -, he⟩ := load_cases ld s path
  · exact ⟨entries, by rw [he, hs]; rfl⟩
  · exact ⟨_, by rw [he, hs]; rfl⟩
  · exact ⟨entries, by rw [he, hs]; rfl⟩

theorem remembers_of_load (hu : ∃ entries, ld.store = .unbounded entries)
    (h : (ld.load s path).1 = .ok kept) : (ld.load s path).2.Remembers path kept := by
  obtain ⟨entries, hs⟩ := hu
  obtain ⟨found, hl, he⟩ | ⟨project, -, -, he⟩ | ⟨f, -, -, he⟩ := load_cases ld s path
  · rw [he, Except.ok.injEq] at h
    rw [hs, h] at hl
    exact ⟨entries, by rw [he, hs]; rfl, hl⟩
  · rw [he, Except.ok.injEq] at h
    exact ⟨_, by rw [he, hs, h]; rfl, List.lookup_cons_self⟩
  · rw [he] at h
    exact absurd h (by simp)

/-- Loading another project does not make the loader forget one. -/
theorem Remembers.load (h : ld.Remembers path kept) (s : Source) (other : String) :
    (ld.load s other).2.Remembers path kept := by
  obtain ⟨entries, hs, hk⟩ := h
  obtain ⟨found, -, he⟩ | ⟨project, hl, -, he⟩ | ⟨f, -, -, he⟩ := load_cases ld s other
  · exact ⟨entries, by rw [he, hs]; rfl, hk⟩
  · refine ⟨_, by rw [he, hs]; rfl, ?_⟩
    -- The path that is added is new, so it is not the one that is remembered.
    have hne : path ≠ other := by
      rintro rfl
      rw [hs] at hl
      exact absurd (hk.symm.trans hl) (by simp)
    exact (Store.lookup_cons_filter_of_ne hne _).trans hk
  · exact ⟨entries, by rw [he, hs]; rfl, hk⟩

end Loader

/-- What can be done to a loader and to the files that it reads. -/
inductive SessionStep where
  | load (path : String)
  | clear
  /-- Adds or replaces a file; one without a text cannot be read. -/
  | write (path : Path) (text : Option (List Char))
  deriving DecidableEq, Repr

def SessionStep.writes : SessionStep → Bool
  | write _ _ => true
  | _ => false

structure Session where
  loader : Loader
  files : Memory
  deriving Repr

namespace Session

def start (settings : Settings) (files : Memory) : Session := ⟨.ofSettings settings, files⟩

/-- What the loader answers, and the loader after that. -/
def load (s : Session) (path : String) : Except Failure Loaded × Loader :=
  s.loader.load s.files.toSource path

def step (s : Session) : SessionStep → Session
  | .load path => { s with loader := (s.load path).2 }
  | .clear => { s with loader := s.loader.clear }
  | .write path text => { s with files := s.files.insert path text }

def after (s : Session) (steps : List SessionStep) : Session := steps.foldl step s

section Unchanged

/-- The files are the ones of the start, and what the loader keeps is true to them. -/
structure Unchanged (layout : Layout) (files : Memory) (s : Session) : Prop where
  layout_eq : s.loader.layout = layout
  files_eq : s.files = files
  faithful : s.loader.Faithful files.toSource

variable {layout : Layout} {files : Memory} {s : Session}

theorem unchanged_start (settings : Settings) (files : Memory) :
    Unchanged settings.layout files (start settings files) where
  layout_eq := rfl
  files_eq := rfl
  faithful p hp := by
    rw [start, Loader.ofSettings, Store.toList_empty] at hp
    exact absurd hp List.not_mem_nil

theorem Unchanged.step (h : Unchanged layout files s) {t : SessionStep} (ht : t.writes = false) :
    Unchanged layout files (s.step t) := by
  cases t with
  | load path =>
    refine ⟨?_, h.files_eq, ?_⟩
    · exact (Loader.layout_load s.loader _ path).trans h.layout_eq
    · rw [Session.step, Session.load, h.files_eq]
      exact h.faithful.load path
  | clear => exact ⟨h.layout_eq, h.files_eq, Loader.Faithful.clear _ _⟩
  | write path text => exact absurd ht (by simp [SessionStep.writes])

theorem Unchanged.after (h : Unchanged layout files s) {steps : List SessionStep}
    (hs : ∀ t ∈ steps, t.writes = false) : Unchanged layout files (s.after steps) :=
  List.foldlRecOn steps Session.step h fun _ hu t ht => hu.step (hs t ht)

end Unchanged

section Remembered

variable {s : Session} {path : String} {kept : Loaded}

theorem exists_unbounded_step (h : ∃ entries, s.loader.store = .unbounded entries)
    (t : SessionStep) : ∃ entries, (s.step t).loader.store = .unbounded entries := by
  cases t with
  | load path => exact Loader.exists_unbounded_load h _ path
  | clear =>
    obtain ⟨entries, hs⟩ := h
    exact ⟨[], by rw [step, Loader.clear, hs]; rfl⟩
  | write path text => exact h

theorem exists_unbounded_after {settings : Settings} (h : settings.cacheCapacity = none)
    (files : Memory) (steps : List SessionStep) :
    ∃ entries, ((start settings files).after steps).loader.store = .unbounded entries := by
  have hs : ∃ entries, (start settings files).loader.store = .unbounded entries :=
    ⟨[], by rw [start, Loader.ofSettings, h]; rfl⟩
  exact List.foldlRecOn (motive := fun s => ∃ entries, s.loader.store = .unbounded entries) steps
    step hs fun _ hu t _ => exists_unbounded_step hu t

theorem remembers_step (h : s.loader.Remembers path kept) {t : SessionStep} (ht : t ≠ .clear) :
    (s.step t).loader.Remembers path kept := by
  cases t with
  | load other => exact h.load _ other
  | clear => exact absurd rfl ht
  | write file text => exact h

theorem remembers_after (h : s.loader.Remembers path kept) {steps : List SessionStep}
    (hs : .clear ∉ steps) : (s.after steps).loader.Remembers path kept :=
  List.foldlRecOn (motive := fun s => s.loader.Remembers path kept) steps step h
    fun _ hr _ ht => remembers_step hr fun e => hs (e ▸ ht)

end Remembered

/-- As long as no file is written, every load answers as assembling does, whether it gives a project or
fails, and one that fails leaves the projects that are kept. A loader without a bound answers, once it
has loaded a path, with this very project until it is cleared, even if files are written. -/
theorem load_transparent (settings : Settings) (files : Memory) :
    (∀ steps, (∀ t ∈ steps, t.writes = false) → ∀ path,
      let s := (start settings files).after steps
      (s.load path).1.map Loaded.project = settings.layout.assemble files.toSource path) ∧
    (∀ steps path e,
      let s := (start settings files).after steps
      (s.load path).1 = .error e → (s.load path).2.store.toList = s.loader.store.toList) ∧
    (settings.cacheCapacity = none → ∀ steps path kept later, .clear ∉ later →
      let s := (start settings files).after steps
      (s.load path).1 = .ok kept → ((s.after (.load path :: later)).load path).1 = .ok kept) := by
  refine ⟨?_, ?_, ?_⟩
  · intro steps hs path s
    have hu : Unchanged settings.layout files s := (unchanged_start settings files).after hs
    rw [load, hu.files_eq, hu.faithful.project_load, hu.layout_eq]
  · intro steps path e s h
    exact Loader.toList_load_of_error h
  · intro hn steps path kept later hl s h
    have hu := exists_unbounded_after hn files steps
    have hr : (s.step (.load path)).loader.Remembers path kept := Loader.remembers_of_load hu h
    exact (remembers_after hr hl).answer _

def salesFile : Path := .ofString "Sales.SemanticModel/definition/tables/Sales.tmdl"

def salesFiles : Memory := ⟨[⟨salesFile, some "table Sales".toList⟩]⟩

def salesProject : Project where
  sourcePath := "Sales.pbip"
  modelPath := "Sales.SemanticModel"
  model := { name := "Model", tables := [{ name := "Sales" }], relationships := [] }

/-- The store answers the second load; a path without a model fails and changes nothing; and once the
table has been renamed, the project is still the one that was loaded first. -/
theorem load_transparent_sales :
    let s := start {} salesFiles
    let loaded := s.after [.load "Sales.pbip"]
    let renamed := loaded.after [.write salesFile (some "table Revenue".toList)]
    (loaded.load "Sales.pbip").1.map Loaded.project = .ok salesProject ∧
      ((loaded.load "Budget.pbip").1 = .error (.modelNotFound "Budget.SemanticModel") ∧
        (loaded.load "Budget.pbip").2.store.toList = loaded.loader.store.toList) ∧
      (s.load "Sales.pbip").1 = .ok ⟨0, salesProject⟩ ∧
      (renamed.load "Sales.pbip").1 = .ok ⟨0, salesProject⟩ ∧
      (renamed.loader.assemble renamed.files.toSource "Sales.pbip").toOption ≠
        some salesProject := by
  obtain ⟨hanswers, hfails, hkeeps⟩ := load_transparent {} salesFiles
  have hfirst : ((start {} salesFiles).load "Sales.pbip").1 = .ok ⟨0, salesProject⟩ := by
    decide +kernel
  have hassembled : ({} : Settings).layout.assemble salesFiles.toSource "Sales.pbip" =
      .ok salesProject := by
    decide +kernel
  have hmissing : (((start {} salesFiles).after [.load "Sales.pbip"]).load "Budget.pbip").1 =
      .error (.modelNotFound "Budget.SemanticModel") := by
    decide +kernel
  have hrenamed := hkeeps rfl [] "Sales.pbip" ⟨0, salesProject⟩
    [.write salesFile (some "table Revenue".toList)] (by decide) hfirst
  refine ⟨?_, ⟨hmissing, hfails _ _ _ hmissing⟩, hfirst, hrenamed, by decide +kernel⟩
  rw [← hassembled]
  exact hanswers [.load "Sales.pbip"] (by decide) "Sales.pbip"

end Session

end Tabular
