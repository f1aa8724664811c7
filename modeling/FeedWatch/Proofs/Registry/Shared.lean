import FeedWatch.Proofs.Disk.Stopped
import FeedWatch.Proofs.Registry.Reload
import FeedWatch.Proofs.Registry.Sync

/-!
# Registries that share a settings file

Any number of registries can be open on one settings file.  Each has read the file at some time, and
writes over what the others have written since; a registry that reads the file again takes over what
another has left there.  Only `enable` looks whether there is a webhook, and only in its own
registry.

Main statement: where there was no settings file at first, no registry and no file ever says that
alerts are on without a webhook (`Shared.deliverable_of_run`).  The invariant is carried by the file
and all registries at once, as each of them can become any other.
-/

namespace FeedWatch

/-- Plain settings that do not switch alerts on with nowhere to deliver them. -/
structure Settings.IsSafe (s : Settings) : Prop where
  plain : s.IsPlain
  deliverable : s.enabled = true → s.webhook ≠ none

lemma Settings.isSafe_initial (marker : String) : (initial marker).IsSafe :=
  ⟨isPlain_initial marker, nofun⟩

/-- A plain change leaves safe settings safe, as alerts are switched on only by a look at the
webhook and a webhook is never taken away. -/
lemma Change.effect_isSafe {index : ReferenceIndex} {c : Change} {u t : Settings} (hc : c.IsPlain)
    (hu : u.IsSafe) (h : c.effect index u = some t) : t.IsSafe := by
  refine ⟨effect_isPlain hc hu.plain h, ?_⟩
  cases c with
  | add name =>
    rw [effect] at h
    split at h
    next =>
      cases h
      exact hu.deliverable
    next => cases h
  | remove name =>
    cases h
    exact hu.deliverable
  | setAlert name text =>
    rw [effect] at h
    split_ifs at h
    cases h
    exact hu.deliverable
  | setGlobalAlert text =>
    cases h
    exact hu.deliverable
  | setWebhook w =>
    cases h
    exact fun _ => Option.some_ne_none w
  | enable =>
    rw [effect] at h
    split_ifs at h with hnone
    cases h
    intro _ hwebhook
    exact hnone (Option.isNone_iff_eq_none.2 hwebhook)
  | disable =>
    cases h
    rintro ⟨⟩

/-! ## The file -/

/-- There is nothing under a path, nor would there be if its folder was made. -/
structure Disk.Vacant (p : Path) (d : Disk) : Prop where
  free : d.find? p = none
  made : ∀ d', d.makeFolder p.parent = .ok d' → d'.find? p = none

/-- There is nothing under a path in a folder that is there. -/
lemma Disk.vacant_of_folder {p : Path} {d : Disk} (hfolder : d.find? p.parent = some .folder)
    (hfree : d.find? p = none) : d.Vacant p := by
  refine ⟨hfree, fun d' hd' => ?_⟩
  rw [makeFolder_eq_ok, withFolder_of_find? hfolder] at hd'
  cases hd'
  exact hfree

/-- Where there is nothing under a path and its folder cannot be made, there is nothing under it
after the attempt either. -/
lemma Disk.Vacant.of_withFolder {p : Path} {d d' : Disk} {e : DiskError} (h : d.Vacant p)
    (hfailed : d.withFolder p.parent = (d', .error e)) : d'.Vacant p := by
  have hbarred := barred_of_error p.parent hfailed
  refine ⟨?_, fun d'' hd'' => absurd (makeFolder_eq_ok.1 hd'') (hbarred d'')⟩
  by_cases hparent : p.parent = p
  · -- a path with nothing above it is tried alone
    rw [hparent] at hfailed
    obtain hone | ⟨habove, -⟩ := withFolder_cases hfailed
    · cases ensureOne_error hone
      exact h.free
    · exact absurd hparent habove
  · rw [Option.eq_none_iff_forall_ne_some]
    intro n hfind
    obtain ⟨place, hloc, -⟩ := find?_eq_some_iff.1 hfind
    exact hbarred d' (withFolder_of_find? (find?_parent_of_locate hloc hparent))

namespace Store

variable {store : Store} {path : Path} {s t : Settings} {d d' : Disk} {stop : Option Disk.Stage}

/-- Settings are kept if their file is found in its folder. -/
lemma keeps_of_find? {stamp : Nat} (hfile : d.find? store.path = some (.file (fileContent s) stamp))
    (hfolder : d.find? store.path.parent = some .folder) : store.Keeps s d := by
  obtain ⟨place, hloc, hat⟩ := Disk.find?_eq_some_iff.1 hfile
  refine ⟨place, stamp, Disk.settled_of_free hloc hfolder ?_, hat⟩
  rw [hat]
  exact fun h => Node.noConfusion (Option.some.inj h)

lemma Keeps.find? (h : store.Keeps s d) :
    (∃ stamp, d.find? store.path = some (.file (fileContent s) stamp)) ∧
      d.find? store.path.parent = some .folder := by
  obtain ⟨place, stamp, hset, hat⟩ := h
  exact ⟨⟨stamp, Disk.find?_eq_some_iff.2 ⟨place, hset.locate, hat⟩⟩, (hset d .refl).2⟩

/-- There is a settings file with safe settings. -/
def HoldsSafe (store : Store) (d : Disk) : Prop := ∃ s : Settings, s.IsSafe ∧ store.Keeps s d

/-- Where there is no settings file, the settings of a new installation are loaded, if any. -/
lemma load_of_vacant (h : d.Vacant store.path) (hload : store.load d = .ok s) :
    s = .initial store.marker := by
  have hexists : d.exists? store.path ≠ .ok true := by
    intro hexists
    obtain ⟨n, hn⟩ := Disk.exists?_eq_true_iff.1 hexists
    cases h.free.symm.trans hn
  rw [load] at hload
  split at hload
  next => cases hload
  next =>
    cases hload
    rfl
  next htrue => exact absurd htrue hexists

/-- What is loaded is safe, whether there is a settings file or not. -/
lemma isSafe_of_load (h : d.Vacant store.path ∨ store.HoldsSafe d)
    (hload : store.load d = .ok s) : s.IsSafe := by
  obtain hvacant | ⟨t, ht, hkeeps⟩ := h
  · rw [load_of_vacant hvacant hload]
    exact Settings.isSafe_initial _
  · rw [hkeeps.load ht.plain store.marker] at hload
    cases hload
    exact ht

/-- A write leaves what the file keeps, or what is written is kept. -/
lemma Keeps.saveUnless (stop : Option Disk.Stage) (t : Settings) (h : store.Keeps s d) :
    store.Keeps s (store.saveUnless stop t d).1 ∨ store.Keeps t (store.saveUnless stop t d).1 := by
  cases hsave : store.saveUnless stop t d with
  | mk d' result =>
    cases result with
    | ok u => exact .inr (keeps_of_save (Disk.replace_none_of_ok hsave))
    | error e =>
      -- the folder is there already, so the paths lead to what they led to
      refine .inl ?_
      obtain ⟨⟨stamp, hfile⟩, hfolder⟩ := h.find?
      obtain ⟨e', hdir⟩ | ⟨dir, hdir, hfind⟩ := Disk.find?_of_replace_error hsave
      · rw [Disk.withFolder_of_find? hfolder] at hdir
        cases hdir
      · rw [Disk.withFolder_of_find? hfolder] at hdir
        cases hdir
        exact keeps_of_find? ((hfind _).trans hfile) ((hfind _).trans hfolder)

/-- A write where there is no settings file leaves none, or what is written is kept. -/
lemma vacant_or_keeps (stop : Option Disk.Stage) (t : Settings) (h : d.Vacant store.path) :
    (store.saveUnless stop t d).1.Vacant store.path ∨
      store.Keeps t (store.saveUnless stop t d).1 := by
  cases hsave : store.saveUnless stop t d with
  | mk d' result =>
    cases result with
    | ok u => exact .inr (keeps_of_save (Disk.replace_none_of_ok hsave))
    | error e =>
      refine .inl ?_
      obtain ⟨e', hdir⟩ | ⟨dir, hdir, hfind⟩ := Disk.find?_of_replace_error hsave
      · exact h.of_withFolder hdir
      · have hfolder := (hfind store.path.parent).trans (Disk.withFolder_ok hdir)
        exact Disk.vacant_of_folder hfolder
          ((hfind _).trans (h.made dir (Disk.makeFolder_eq_ok.2 hdir)))

/-- Safe settings in the file are there after any write of safe settings. -/
lemma HoldsSafe.saveUnless (stop : Option Disk.Stage) (h : store.HoldsSafe d) (ht : t.IsSafe) :
    store.HoldsSafe (store.saveUnless stop t d).1 := by
  obtain ⟨s, hs, hkeeps⟩ := h
  obtain hkeeps' | hkeeps' := hkeeps.saveUnless stop t
  · exact ⟨s, hs, hkeeps'⟩
  · exact ⟨t, ht, hkeeps'⟩

/-- A write of safe settings where there is no settings file leaves none, or safe settings. -/
lemma vacant_saveUnless (stop : Option Disk.Stage) (h : d.Vacant store.path) (ht : t.IsSafe) :
    (store.saveUnless stop t d).1.Vacant store.path ∨
      store.HoldsSafe (store.saveUnless stop t d).1 :=
  (vacant_or_keeps stop t h).imp_right fun hkeeps => ⟨t, ht, hkeeps⟩

end Store

/-! ## One registry -/

namespace Session

variable {store : Store} {index : ReferenceIndex} {disk disk' : Disk} {serial : Nat} {s s' : Session}
  {result : Except RegistryError Unit}

/-- Opening leaves the disk, or it writes what it has read. -/
lemma openOn_disk {r : Except RegistryError Session}
    (h : openOn store index disk serial = (disk', r)) :
    disk' = disk ∨ ∃ t, store.load disk = .ok t ∧ disk' = (store.save t disk).1 := by
  rw [openOn] at h
  split at h
  next =>
    cases h
    exact .inl rfl
  next t hload =>
    split at h
    next =>
      cases h
      exact .inl rfl
    next registry hregistry =>
      obtain ⟨filters, hfilters, hr⟩ := Except.bind_eq_ok.1 hregistry
      cases hr
      cases h
      have hcurrent : Registry.current ⟨t, filters⟩ = t := by
        rw [Registry.current, (Filter.compileAll_ok hfilters).1]
      refine .inr ⟨t, hload, ?_⟩
      rw [← hcurrent]
      rfl

/-- A registry that was loaded again is another one on its file, or it is as it was but for the
disk. -/
lemma load_cases (h : s.load = (s', result)) :
    ∃ disk r, openOn s.store s.index s.disk s.nextSerial = (disk, r) ∧
      (r = .ok s' ∨ s' = { s with disk }) := by
  rw [load] at h
  split at h
  next disk e hopen =>
    cases h
    exact ⟨disk, _, hopen, .inr rfl⟩
  next disk t hopen =>
    cases h
    exact ⟨disk, _, hopen, .inl rfl⟩

/-- Settings that are in the file are taken over by a reload if their queries compile. -/
lemma reload_of_load {t : Settings} (hload : s.store.load s.disk = .ok t)
    (hcompiles : ∀ f ∈ t.filters, f.Compiles s.index) :
    ∃ s', s.reload = (s', .ok ()) ∧ s'.registry.settings = t := by
  obtain ⟨filters, hfilters⟩ := @Filter.compileAll_of_compiles s.index s.nextSerial _ hcompiles
  rw [reload, hload]
  dsimp only
  rw [hfilters]
  exact ⟨_, rfl, rfl⟩

end Session

/-- A change leaves the registry, or it writes the settings of its effect. -/
lemma Change.run_cases (c : Change) (s : Session) :
    (c.effect s.index s.registry.current = none ∧ (c.run s).1 = s) ∨
      ∃ t, c.effect s.index s.registry.current = some t ∧ (c.run s).1.registry.current = t ∧
        (c.run s).1.store = s.store ∧ (c.run s).1.disk = (s.store.save t s.disk).1 := by
  cases heffect : c.effect s.index s.registry.current with
  | none =>
    obtain ⟨e, hrun, -⟩ := run_of_effect_none heffect
    rw [hrun]
    exact .inl ⟨rfl, rfl⟩
  | some t =>
    obtain ⟨r, n, hrun, rfl, -⟩ := run_of_effect_some heffect
    rw [hrun]
    exact .inr ⟨_, rfl, rfl, rfl, rfl⟩

/-! ## All registries on one file -/

/-- The disk, and the registries that are open on one settings file of it. -/
structure Shared where
  disk : Disk
  sessions : List Session

namespace Shared

/-- What happens to registries on one file: another is opened, or cannot be opened; one is loaded
again, reloaded or changed, with success or not; or a write stops at some stage, when a registry is
opened or loaded, or after a change was made in memory.  A registry that acts finds the disk as the
others left it. -/
inductive Step (path : Path) : Shared → Shared → Prop where
  | opened {g marker index serial disk s} :
    Session.openOn ⟨path, marker⟩ index g.disk serial = (disk, .ok s) →
    Step path g ⟨disk, g.sessions ++ [s]⟩
  | refused {g marker index serial disk e} :
    Session.openOn ⟨path, marker⟩ index g.disk serial = (disk, .error e) →
    Step path g ⟨disk, g.sessions⟩
  | load {g : Shared} {k s s' result} :
    g.sessions[k]? = some s →
    Session.load { s with disk := g.disk } = (s', result) →
    Step path g ⟨s'.disk, g.sessions.set k s'⟩
  | reload {g : Shared} {k s s' result} :
    g.sessions[k]? = some s →
    Session.reload { s with disk := g.disk } = (s', result) →
    Step path g ⟨s'.disk, g.sessions.set k s'⟩
  | change {g : Shared} {k s s' result} {c : Change} :
    g.sessions[k]? = some s →
    c.IsPlain →
    c.run { s with disk := g.disk } = (s', result) →
    Step path g ⟨s'.disk, g.sessions.set k s'⟩
  | loadStopped {g : Shared} {marker t stage disk e} :
    Store.load ⟨path, marker⟩ g.disk = .ok t →
    Store.saveUnless (some stage) ⟨path, marker⟩ t g.disk = (disk, .error e) →
    Step path g ⟨disk, g.sessions⟩
  | changeStopped {g : Shared} {k s t stage disk e} {c : Change} :
    g.sessions[k]? = some s →
    c.IsPlain →
    c.effect s.index s.registry.current = some t →
    s.store.saveUnless (some stage) t g.disk = (disk, .error e) →
    Step path g ⟨disk, g.sessions.set k (c.run { s with disk := g.disk }).1⟩

/-- What holds of registries on one file: there is no file and no registry, or the file holds safe
settings, and those of every registry are safe too. -/
structure Safe (path : Path) (g : Shared) : Prop where
  file : g.disk.Vacant path ∧ g.sessions = [] ∨ Store.HoldsSafe ⟨path, ""⟩ g.disk
  path : ∀ s ∈ g.sessions, s.store.path = path
  sessions : ∀ s ∈ g.sessions, s.registry.current.IsSafe

variable {path : Path} {disk : Disk} {g g' : Shared} {k : Nat} {s s' : Session}

lemma Safe.either (h : g.Safe path) (marker : String) :
    g.disk.Vacant path ∨ Store.HoldsSafe ⟨path, marker⟩ g.disk := by
  obtain ⟨hvacant, -⟩ | hholds := h.file
  · exact .inl hvacant
  · exact .inr hholds

/-- Where there is a registry, there is a settings file. -/
lemma Safe.holds (h : g.Safe path) (hs : s ∈ g.sessions) : s.store.HoldsSafe g.disk := by
  obtain ⟨-, hnone⟩ | hholds := h.file
  · rw [hnone] at hs
    cases hs
  · have hpath := h.path s hs
    rw [← hpath] at hholds
    exact hholds

lemma Safe.file_saveUnless {t : Settings} (h : g.Safe path) (marker : String)
    (stop : Option Disk.Stage) (ht : t.IsSafe) :
    (Store.saveUnless stop ⟨path, marker⟩ t g.disk).1.Vacant path ∧ g.sessions = [] ∨
      Store.HoldsSafe ⟨path, ""⟩ (Store.saveUnless stop ⟨path, marker⟩ t g.disk).1 := by
  obtain ⟨hvacant, hnone⟩ | hholds := h.file
  · obtain hvacant' | hholds := @Store.vacant_saveUnless ⟨path, marker⟩ _ _ stop hvacant ht
    · exact .inl ⟨hvacant', hnone⟩
    · exact .inr hholds
  · exact .inr (@Store.HoldsSafe.saveUnless ⟨path, marker⟩ _ _ stop hholds ht)

/-- A registry that acts leaves the others, and its own disk is that of all. -/
lemma Safe.set (h : g.Safe path) (hpath : s'.store.path = path) (hholds : s'.store.HoldsSafe disk)
    (hsafe : s'.registry.current.IsSafe) : Safe path ⟨disk, g.sessions.set k s'⟩ := by
  rw [← hpath] at h ⊢
  refine ⟨.inr hholds, fun s hs => ?_, fun s hs => ?_⟩
  · obtain hmem | rfl := List.mem_or_eq_of_mem_set hs
    · exact h.path s hmem
    · rfl
  · obtain hmem | rfl := List.mem_or_eq_of_mem_set hs
    · exact h.sessions s hmem
    · exact hsafe

/-- A registry that is opened on a safe file, or on none, is safe and leaves a safe file. -/
lemma isSafe_of_openOn {store : Store} {index : ReferenceIndex} {disk' : Disk} {serial : Nat}
    (h : disk.Vacant store.path ∨ store.HoldsSafe disk)
    (hopen : Session.openOn store index disk serial = (disk', .ok s)) :
    s.store = store ∧ s.registry.current.IsSafe ∧ store.HoldsSafe disk' := by
  obtain ⟨t, hload, rfl, -, hstore, -, -, hkeeps⟩ := Session.openOn_ok hopen
  have hsafe := Store.isSafe_of_load h hload
  exact ⟨hstore, hsafe, _, hsafe, hkeeps⟩

/-- A registry that takes over settings and fails at their filters keeps its own filters beside
them, and is safe if both are. -/
lemma isSafe_takenOver {r : Registry} {t : Settings} (hr : r.current.IsSafe) (ht : t.IsSafe) :
    (Registry.current { r with settings := t }).IsSafe :=
  ⟨⟨hr.plain.alert, ht.plain.location⟩, ht.deliverable⟩

lemma Step.safe_of_load {result : Except RegistryError Unit} (h : g.Safe path)
    (hs : s ∈ g.sessions) (hload : Session.load { s with disk := g.disk } = (s', result)) :
    Safe path ⟨s'.disk, g.sessions.set k s'⟩ := by
  have hholds := h.holds hs
  obtain ⟨disk, r, hopen, rfl | rfl⟩ := Session.load_cases hload
  · obtain ⟨hstore, hsafe, hholds'⟩ := isSafe_of_openOn (.inr hholds) hopen
    obtain ⟨-, -, -, -, -, -, rfl, -⟩ := Session.openOn_ok hopen
    refine h.set ?_ ?_ hsafe
    · rw [hstore]
      exact h.path s hs
    · rw [hstore]
      exact hholds'
  · refine h.set (h.path s hs) ?_ (h.sessions s hs)
    obtain rfl | ⟨t, ht, rfl⟩ := Session.openOn_disk hopen
    · exact hholds
    · exact hholds.saveUnless none (Store.isSafe_of_load (.inr hholds) ht)

lemma Step.safe_of_reload {result : Except RegistryError Unit} (h : g.Safe path)
    (hs : s ∈ g.sessions) (hreload : Session.reload { s with disk := g.disk } = (s', result)) :
    Safe path ⟨s'.disk, g.sessions.set k s'⟩ := by
  have hholds := h.holds hs
  have hpath := h.path s hs
  cases result with
  | ok u =>
    obtain ⟨hload, -, hstore, -, hdisk⟩ := Life.reload_ok hreload
    rw [hdisk]
    rw [← hstore] at hpath
    refine h.set hpath ?_ (Store.isSafe_of_load (.inr hholds) hload)
    rw [hstore]
    exact hholds
  | error e =>
    obtain ⟨rfl, -⟩ | ⟨t, hload, rfl⟩ := Session.reload_error hreload
    · exact h.set hpath hholds (h.sessions s hs)
    · have ht := Store.isSafe_of_load (.inr hholds) hload
      exact h.set hpath hholds (isSafe_takenOver (h.sessions s hs) ht)

lemma Step.safe_of_change {result : Except RegistryError Unit} {c : Change} (h : g.Safe path)
    (hs : s ∈ g.sessions) (hc : c.IsPlain) (hrun : c.run { s with disk := g.disk } = (s', result)) :
    Safe path ⟨s'.disk, g.sessions.set k s'⟩ := by
  obtain ⟨rfl, -⟩ := Prod.ext_iff.1 hrun
  have hholds := h.holds hs
  have hsafe := h.sessions s hs
  obtain ⟨-, hsame⟩ | ⟨t, heffect, hcurrent, hstore, hdisk⟩ := c.run_cases { s with disk := g.disk }
  · rw [hsame]
    exact h.set (h.path s hs) hholds hsafe
  · have ht := Change.effect_isSafe hc hsafe heffect
    refine h.set ?_ ?_ ?_
    · rw [hstore]
      exact h.path s hs
    · rw [hstore, hdisk]
      exact hholds.saveUnless none ht
    · rw [hcurrent]
      exact ht

/-- A change whose write is stopped leaves the registry that the change has made in memory. -/
lemma Step.safe_of_changeStopped {c : Change} {t : Settings} {stage : Disk.Stage}
    (h : g.Safe path) (hs : s ∈ g.sessions) (hc : c.IsPlain)
    (heffect : c.effect s.index s.registry.current = some t) :
    Safe path ⟨(s.store.saveUnless (some stage) t g.disk).1,
      g.sessions.set k (c.run { s with disk := g.disk }).1⟩ := by
  have ht := Change.effect_isSafe hc (h.sessions s hs) heffect
  have hholds := (h.holds hs).saveUnless (some stage) ht
  obtain ⟨hnone, -⟩ | ⟨t', heffect', hcurrent, hstore, -⟩ := c.run_cases { s with disk := g.disk }
  · cases heffect.symm.trans hnone
  · cases heffect.symm.trans heffect'
    refine h.set ?_ ?_ ?_
    · rw [hstore]
      exact h.path s hs
    · rw [hstore]
      exact hholds
    · rw [hcurrent]
      exact ht

/-- Whatever happens to safe registries on one file leaves them safe. -/
lemma Step.safe (hstep : Step path g g') (h : g.Safe path) : g'.Safe path := by
  cases hstep with
  | @opened marker _ _ _ _ hopen =>
    obtain ⟨hstore, hsafe, hholds⟩ := isSafe_of_openOn (h.either marker) hopen
    refine ⟨.inr hholds, List.forall_mem_append.2 ⟨h.path, ?_⟩,
      List.forall_mem_append.2 ⟨h.sessions, List.forall_mem_singleton.2 hsafe⟩⟩
    rw [List.forall_mem_singleton, hstore]
  | @refused marker _ _ _ _ hopen =>
    refine ⟨?_, h.path, h.sessions⟩
    obtain rfl | ⟨t, hload, rfl⟩ := Session.openOn_disk hopen
    · exact h.file
    · exact h.file_saveUnless marker none (Store.isSafe_of_load (h.either marker) hload)
  | load hk hload => exact safe_of_load h (List.mem_of_getElem? hk) hload
  | reload hk hreload => exact safe_of_reload h (List.mem_of_getElem? hk) hreload
  | change hk hc hrun => exact safe_of_change h (List.mem_of_getElem? hk) hc hrun
  | @loadStopped marker t stage _ _ hload hsave =>
    have hfile := h.file_saveUnless marker (some stage) (Store.isSafe_of_load (h.either marker) hload)
    rw [hsave] at hfile
    exact ⟨hfile, h.path, h.sessions⟩
  | @changeStopped k s t stage disk e c hk hc heffect hsave =>
    have hsafe := @safe_of_changeStopped _ _ k _ _ _ stage h (List.mem_of_getElem? hk) hc heffect
    rw [hsave] at hsafe
    exact hsafe

/-- Registries on one file stay safe. -/
lemma safe_of_run (hvacant : disk.Vacant path)
    (hrun : Relation.ReflTransGen (Step path) ⟨disk, []⟩ g) : g.Safe path := by
  induction hrun with
  | refl => exact ⟨.inl ⟨hvacant, rfl⟩, nofun, nofun⟩
  | tail _ hstep ih => exact hstep.safe ih

/-- Where there was no settings file at first, and only registries write it, alerts are never on
without a webhook, in no registry and in no settings that are loaded; and once there is a registry,
settings are loaded. -/
theorem deliverable_of_run (hvacant : disk.Vacant path)
    (hrun : Relation.ReflTransGen (Step path) ⟨disk, []⟩ g) :
    (∀ s ∈ g.sessions, s.registry.settings.enabled = true → s.registry.settings.webhook ≠ none) ∧
      (∀ marker t, Store.load ⟨path, marker⟩ g.disk = .ok t → t.enabled = true → t.webhook ≠ none) ∧
      (g.sessions ≠ [] → ∀ marker, ∃ t, Store.load ⟨path, marker⟩ g.disk = .ok t) := by
  have h := safe_of_run hvacant hrun
  refine ⟨fun s hs => (h.sessions s hs).deliverable, fun marker t ht => ?_, fun hsome marker => ?_⟩
  · exact (Store.isSafe_of_load (h.either marker) ht).deliverable
  · obtain ⟨-, hnone⟩ | ⟨t, hsafe, hkeeps⟩ := h.file
    · exact absurd hnone hsome
    · exact ⟨t, hkeeps.load hsafe.plain marker⟩

/-- Two registries are opened, the second gets a webhook and switches alerts on; the first, which
knows of no webhook, refuses to, and then takes over what is in the file. -/
theorem deliverable_of_run_two :
    Disk.empty.Vacant ["a.json"] ∧ ∃ g,
      Relation.ReflTransGen (Step ["a.json"]) ⟨.empty, []⟩ g ∧
      (∃ s ∈ g.sessions, s.registry.settings.enabled = true) ∧
      (∀ s ∈ g.sessions, s.registry.settings.enabled = true → s.registry.settings.webhook ≠ none) ∧
      (∀ marker t, Store.load ⟨["a.json"], marker⟩ g.disk = .ok t →
        t.enabled = true → t.webhook ≠ none) ∧
      (g.sessions ≠ [] → ∀ marker, ∃ t, Store.load ⟨["a.json"], marker⟩ g.disk = .ok t) := by
  have hvacant : Disk.empty.Vacant ["a.json"] := Disk.vacant_of_folder rfl rfl
  let w : Webhook := ⟨"1", "t", .null⟩
  let t₁ : Settings := .initial "!"
  let t₂ : Settings := { t₁ with webhook := some w }
  let t₃ : Settings := { t₂ with enabled := true }
  have hplain₁ : t₁.IsPlain := Settings.isPlain_initial _
  have hplain₂ : t₂.IsPlain := ⟨hplain₁.alert, by rintro _ ⟨⟩; exact .null⟩
  have hplain₃ : t₃.IsPlain := ⟨hplain₂.alert, hplain₂.location⟩
  have hcompiles : ∀ f ∈ t₁.filters, f.Compiles .empty := List.forall_mem_singleton.2 ⟨_, rfl⟩
  -- the first registry is opened where there is no file, the second on what the first has written
  obtain ⟨disk₁, a, hopen₁⟩ :
      ∃ disk a, Session.openOn ⟨["a.json"], "!"⟩ .empty .empty 0 = (disk, .ok a) := ⟨_, _, rfl⟩
  obtain ⟨_, hload, rfl, -, hstore₁, hindex₁, -, hkeeps₁⟩ := Session.openOn_ok hopen₁
  have hcurrent₁ : a.registry.current = t₁ := (Except.ok.inj hload).symm
  rw [hcurrent₁] at hkeeps₁
  obtain ⟨disk₂, b, hopen₂⟩ :=
    @Session.openOn_of_holds ⟨["a.json"], "!"⟩ .empty 0 disk₁ t₁ (hkeeps₁.holds hplain₁) hcompiles
  obtain ⟨_, hload₂, rfl, hcompiled₂, hstore₂, hindex₂, rfl, hkeeps₂⟩ := Session.openOn_ok hopen₂
  have hcurrent₂ : b.registry.current = t₁ :=
    Except.ok.inj (hload₂.symm.trans (hkeeps₁.load hplain₁ "!"))
  rw [hcurrent₂, ← hstore₂] at hkeeps₂
  -- the second gets a webhook and switches alerts on
  obtain ⟨b₂, hrun₂⟩ := @Change.run_of_holds b (.setWebhook w) t₂ t₁ (hkeeps₂.holds hplain₁)
    (by rw [hcurrent₂]; rfl)
  rw [← hindex₂] at hcompiled₂
  obtain ⟨heffect₂, hcompiled₃, hstore₃, hindex₃, hkeeps₃⟩ := Change.run_ok hcompiled₂ hrun₂
  rw [hcurrent₂] at heffect₂
  have hcurrent₃ : b₂.registry.current = t₂ := (Option.some.inj heffect₂).symm
  rw [hcurrent₃, ← hstore₃] at hkeeps₃
  obtain ⟨b₃, hrun₃⟩ := @Change.run_of_holds b₂ .enable t₃ t₂ (hkeeps₃.holds hplain₂)
    (by rw [hcurrent₃]; rfl)
  rw [← hindex₃] at hcompiled₃
  obtain ⟨heffect₃, -, hstore₄, -, hkeeps₄⟩ := Change.run_ok hcompiled₃ hrun₃
  rw [hcurrent₃] at heffect₃
  rw [← Option.some.inj heffect₃, hstore₃, hstore₂] at hkeeps₄
  -- the first does not switch alerts on by itself, but takes over that they are on
  obtain ⟨e, hrun₄, -⟩ := @Change.run_of_effect_none { a with disk := b₃.disk } .enable
    (by dsimp only; rw [hcurrent₁]; rfl)
  have hload₃ : a.store.load b₃.disk = .ok t₃ := by
    rw [hstore₁]
    exact hkeeps₄.load hplain₃ "!"
  rw [← hindex₁] at hcompiles
  obtain ⟨a₂, hreload, hsettings⟩ :=
    @Session.reload_of_load { a with disk := b₃.disk } t₃ hload₃ hcompiles
  have hopened₁ : Step ["a.json"] ⟨.empty, []⟩ ⟨disk₁, [a]⟩ := .opened hopen₁
  have hopened₂ : Step ["a.json"] ⟨disk₁, [a]⟩ ⟨b.disk, [a, b]⟩ := .opened hopen₂
  have hset : Step ["a.json"] ⟨b.disk, [a, b]⟩ ⟨b₂.disk, [a, b₂]⟩ :=
    .change (k := 1) (s := b) (c := .setWebhook w) rfl Json.IsPlain.null hrun₂
  have henabled : Step ["a.json"] ⟨b₂.disk, [a, b₂]⟩ ⟨b₃.disk, [a, b₃]⟩ :=
    .change (k := 1) (s := b₂) (c := .enable) rfl trivial hrun₃
  have hrefused : Step ["a.json"] ⟨b₃.disk, [a, b₃]⟩ ⟨b₃.disk, [{ a with disk := b₃.disk }, b₃]⟩ :=
    @Step.change _ ⟨b₃.disk, [a, b₃]⟩ 0 a { a with disk := b₃.disk } _ .enable rfl trivial hrun₄
  have hreloaded : Step ["a.json"] ⟨b₃.disk, [{ a with disk := b₃.disk }, b₃]⟩
      ⟨a₂.disk, [a₂, b₃]⟩ :=
    .reload (k := 0) (s := { a with disk := b₃.disk }) rfl hreload
  have hrun := (((((Relation.ReflTransGen.single hopened₁).tail hopened₂).tail hset).tail
    henabled).tail hrefused).tail hreloaded
  have hon : a₂.registry.settings.enabled = true := by rw [hsettings]
  exact ⟨hvacant, ⟨a₂.disk, [a₂, b₃]⟩, hrun, ⟨a₂, List.mem_cons_self, hon⟩,
    deliverable_of_run hvacant hrun⟩

end Shared

end FeedWatch
