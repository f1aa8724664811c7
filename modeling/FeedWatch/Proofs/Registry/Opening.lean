import FeedWatch.Proofs.Store.RoundTrip
import FeedWatch.Registry

/-!
# Opening and writing a registry

A registry stands between the settings file and the filters compiled from it.  Main statements:
filters that are compiled keep what they are kept as (`Filter.compileAll_ok`), writing a registry
leaves its settings in the file (`Session.save_ok`), opening one writes the settings back that were
read (`Session.openOn_ok`), and a registry can be opened on every file that holds settings whose
queries compile (`Session.openOn_of_holds`).
-/

namespace FeedWatch

/-! ## Compiled filters -/

/-- A filter has the query that its name compiles to. -/
def Filter.IsCompiled (index : ReferenceIndex) (f : Filter) : Prop :=
  Query.compile index f.name = .ok f.query

/-- The name of a kept filter compiles. -/
def StoredFilter.Compiles (index : ReferenceIndex) (f : StoredFilter) : Prop :=
  ∃ query, Query.compile index f.name = .ok query

namespace Filter

variable {index : ReferenceIndex} {serial : Nat}

lemma compile_eq (f : StoredFilter) : compile index serial f =
    (Query.compile index f.name).map fun query => ⟨f.name, query, f.alert, serial⟩ := rfl

lemma compile_ok {f : StoredFilter} {g : Filter} (h : compile index serial f = .ok g) :
    g.stored = f ∧ g.IsCompiled index := by
  rw [compile_eq] at h
  obtain ⟨query, hquery, rfl⟩ := Except.map_eq_ok.1 h
  exact ⟨rfl, hquery⟩

/-- Compiled filters are kept as what they were compiled from. -/
lemma compileAll_ok {fs : List StoredFilter} {gs : List Filter}
    (h : compileAll index serial fs = .ok gs) :
    gs.map stored = fs ∧ ∀ g ∈ gs, g.IsCompiled index := by
  induction fs generalizing serial gs with
  | nil =>
    cases h
    exact ⟨rfl, nofun⟩
  | cons f fs ih =>
    obtain ⟨g, hg, h⟩ := Except.bind_eq_ok.1 h
    obtain ⟨gs', hgs, h⟩ := Except.bind_eq_ok.1 h
    cases h
    obtain ⟨hstored, hcompiled⟩ := compile_ok hg
    obtain ⟨hrest, hall⟩ := ih hgs
    refine ⟨?_, List.forall_mem_cons.2 ⟨hcompiled, hall⟩⟩
    rw [List.map_cons, hstored, hrest]

lemma compile_of_compiles {f : StoredFilter} (h : f.Compiles index) :
    ∃ g, compile index serial f = .ok g := by
  obtain ⟨query, hquery⟩ := h
  rw [compile_eq, hquery]
  exact ⟨_, rfl⟩

lemma compileAll_of_compiles {fs : List StoredFilter} (h : ∀ f ∈ fs, f.Compiles index) :
    ∃ gs, compileAll index serial fs = .ok gs := by
  induction fs generalizing serial with
  | nil => exact ⟨[], rfl⟩
  | cons f fs ih =>
    rw [List.forall_mem_cons] at h
    obtain ⟨g, hg⟩ := compile_of_compiles h.1
    obtain ⟨gs, hgs⟩ := ih h.2
    exact ⟨g :: gs, Except.bind_eq_ok.2 ⟨g, hg, Except.bind_eq_ok.2 ⟨gs, hgs, rfl⟩⟩⟩

end Filter

/-- All filters of a registry have the queries that their names compile to. -/
def Registry.IsCompiled (index : ReferenceIndex) (r : Registry) : Prop :=
  ∀ f ∈ r.filters, f.IsCompiled index

lemma Registry.IsCompiled.compiles {index : ReferenceIndex} {r : Registry}
    (h : r.IsCompiled index) : ∀ f ∈ r.current.filters, f.Compiles index := by
  intro f hf
  obtain ⟨g, hg, rfl⟩ := List.mem_map.1 hf
  exact ⟨g.query, h g hg⟩

namespace Session

variable {store : Store} {index : ReferenceIndex} {serial : Nat} {disk disk' : Disk}
variable {s s' : Session}

/-! ## Writing -/

/-- A session that differs from another one by having written its registry. -/
structure Wrote (s s' : Session) : Prop where
  store : s'.store = s.store
  index : s'.index = s.index
  filters : s'.registry.filters = s.registry.filters
  current : s'.registry.current = s.registry.current
  keeps : s.store.Keeps s.registry.current s'.disk

/-- Writing succeeds exactly when the settings file is written. -/
lemma save_eq (hsave : s.store.save s.registry.current s.disk = (disk, .ok ())) :
    s.save = ({ s with disk, registry := { s.registry with settings := s.registry.current } },
      .ok ()) := by
  rw [save, hsave]
  rfl

/-- Settings that were written are in the file. -/
lemma save_ok (h : s.save = (s', .ok ())) : s.Wrote s' := by
  rw [save] at h
  obtain ⟨rfl, hok⟩ := Prod.ext_iff.1 h
  have hsave := Except.mapError_eq_ok.1 hok
  exact ⟨rfl, rfl, rfl, rfl, Store.keeps_of_save (Prod.ext rfl hsave)⟩

/-! ## Opening -/

/-- Opening reads settings, compiles their filters and writes them back. -/
lemma openOn_ok (h : openOn store index disk serial = (disk', .ok s)) :
    ∃ settings, store.load disk = .ok settings ∧ s.registry.current = settings ∧
      s.registry.IsCompiled index ∧ s.store = store ∧ s.index = index ∧ s.disk = disk' ∧
      store.Keeps settings disk' := by
  rw [openOn] at h
  split at h
  next => cases h
  next settings hload =>
    split at h
    next => cases h
    next registry hregistry =>
      obtain ⟨filters, hfilters, hr⟩ := Except.bind_eq_ok.1 hregistry
      obtain ⟨hstored, hcompiled⟩ := Filter.compileAll_ok hfilters
      cases hr
      obtain ⟨rfl, hmap⟩ := Prod.ext_iff.1 h
      obtain ⟨_, hresult, rfl⟩ := Except.map_eq_ok.1 hmap
      -- what is written back are the settings that were read
      have hwrote := save_ok (Prod.ext rfl hresult)
      have hcurrent : Registry.current ⟨settings, filters⟩ = settings := by
        rw [Registry.current, hstored]
      have hkeeps := hwrote.keeps
      rw [hcurrent] at hkeeps
      refine ⟨settings, hload, hwrote.current.trans hcurrent, ?_, hwrote.store, hwrote.index, rfl,
        hkeeps⟩
      rw [Registry.IsCompiled, hwrote.filters]
      exact hcompiled

/-- Opening reads the settings that are kept, and gives what writing them back leaves. -/
lemma openOn_of_keeps {settings : Settings} {registry : Registry} (hplain : settings.IsPlain)
    (hkeeps : store.Keeps settings disk)
    (hregistry : Registry.ofSettings index serial settings = .ok registry)
    (hsave : save ⟨store, index, disk, registry, serial + registry.filters.length⟩ = (s, .ok ())) :
    openOn store index disk serial = (s.disk, .ok s) := by
  rw [openOn, hkeeps.load hplain store.marker]
  dsimp only
  rw [hregistry]
  dsimp only
  rw [hsave]
  rfl

/-- A registry can be opened on a file that is read as settings whose queries compile. -/
lemma openOn_of_load {settings : Settings} {place : Path} (hload : store.load disk = .ok settings)
    (hset : disk.Settled store.path place) (hcompiles : ∀ f ∈ settings.filters, f.Compiles index)
    (serial : Nat) : ∃ disk' s, openOn store index disk serial = (disk', .ok s) := by
  obtain ⟨filters, hfilters⟩ := @Filter.compileAll_of_compiles index serial _ hcompiles
  have hregistry : Registry.ofSettings index serial settings = .ok ⟨settings, filters⟩ :=
    Except.bind_eq_ok.2 ⟨filters, hfilters, rfl⟩
  obtain ⟨disk', hsave⟩ := Store.save_of_load hload hset (Registry.current ⟨settings, filters⟩)
  have hwrite := @save_eq disk'
    ⟨store, index, disk, ⟨settings, filters⟩, serial + filters.length⟩ hsave
  rw [openOn, hload]
  simp only [hregistry, hwrite]
  exact ⟨disk', _, rfl⟩

/-- A registry can be opened on a file that holds settings whose queries compile. -/
lemma openOn_of_holds {settings : Settings} (h : store.Holds settings disk)
    (hcompiles : ∀ f ∈ settings.filters, f.Compiles index) :
    ∃ disk' s, openOn store index disk serial = (disk', .ok s) := by
  obtain ⟨place, hset⟩ := h.settled
  exact openOn_of_load h.load hset hcompiles serial

end Session

end FeedWatch
