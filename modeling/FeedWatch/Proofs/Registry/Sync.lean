import FeedWatch.Proofs.Registry.Change
import Mathlib.Logic.Relation

/-!
# The registry and its file stay in step

While a registry is at work, its settings, its compiled filters and the settings file are three
copies of the same data.  Others may change the file, and then the registry has to read it before it
changes anything itself.  Main statement: whenever the registry has done something last, the file is
loaded as the registry's own settings, and a registry opened on it has filters of the same names,
alerts and decisions (`Life.load_eq_current`).
-/

namespace FeedWatch

/-- A change that others made to the settings file, which holds plain settings afterwards if any. -/
structure Store.Edited (store : Store) (d d' : Disk) : Prop where
  agree : Disk.AgreeOff (d.placeOf store.path) d d'
  plain : ∀ s, store.load d' = .ok s → s.IsPlain

/-- A registry at work, and whether others changed its file since it was last read. -/
structure Life where
  session : Session
  isStale : Bool

namespace Life

/-- What happens to a registry at work: it is loaded or reloaded, it is changed while its file is
the one that it knows, or others change the file. -/
inductive Step : Life → Life → Prop where
  | load {s s' isStale} :
    s.load = (s', .ok ()) →
    Step ⟨s, isStale⟩ ⟨s', false⟩
  | reload {s s' isStale} :
    s.reload = (s', .ok ()) →
    Step ⟨s, isStale⟩ ⟨s', false⟩
  | change {s s'} {c : Change} :
    c.IsPlain →
    c.run s = (s', .ok ()) →
    Step ⟨s, false⟩ ⟨s', false⟩
  | edit {s isStale disk} :
    s.store.Edited s.disk disk →
    Step ⟨s, isStale⟩ ⟨{ s with disk }, true⟩

variable {store : Store} {index : ReferenceIndex} {l l' : Life} {s s' : Session}

/-- What holds of a registry at work: the file can be written, it holds plain settings if any, the
filters are compiled, and the file is loaded as the settings unless others changed it. -/
structure Sound (store : Store) (index : ReferenceIndex) (l : Life) : Prop where
  sameStore : l.session.store = store
  sameIndex : l.session.index = index
  compiled : l.session.registry.IsCompiled index
  settled : ∃ place, l.session.disk.Settled store.path place
  plain : ∀ t, store.load l.session.disk = .ok t → t.IsPlain
  synced : l.isStale = false → store.load l.session.disk = .ok l.session.registry.current

/-- A registry that was just written to its file is sound. -/
lemma sound_of_keeps (hstore : s.store = store) (hindex : s.index = index)
    (hcompiled : s.registry.IsCompiled index) (hplain : s.registry.current.IsPlain)
    (hkeeps : store.Keeps s.registry.current s.disk) : Sound store index ⟨s, false⟩ := by
  obtain ⟨hload, -, hsettled⟩ := hkeeps.holds hplain
  refine ⟨hstore, hindex, hcompiled, hsettled, fun t ht => ?_, fun _ => hload⟩
  rw [hload] at ht
  cases ht
  exact hplain

lemma sound_of_openOn {disk disk' : Disk} {serial : Nat}
    (hplain : ∀ t, store.load disk = .ok t → t.IsPlain)
    (h : Session.openOn store index disk serial = (disk', .ok s)) :
    Sound store index ⟨s, false⟩ := by
  obtain ⟨t, hload, rfl, hcompiled, hstore, hindex, rfl, hkeeps⟩ := Session.openOn_ok h
  exact sound_of_keeps hstore hindex hcompiled (hplain _ hload) hkeeps

lemma load_ok (h : s.load = (s', .ok ())) :
    ∃ disk, Session.openOn s.store s.index s.disk s.nextSerial = (disk, .ok s') := by
  rw [Session.load] at h
  split at h
  next => cases h
  next disk t hopen =>
    cases h
    exact ⟨disk, hopen⟩

/-- A reload takes over what it reads and leaves the file alone. -/
lemma reload_ok (h : s.reload = (s', .ok ())) :
    s.store.load s.disk = .ok s'.registry.current ∧ s'.registry.IsCompiled s.index ∧
      s'.store = s.store ∧ s'.index = s.index ∧ s'.disk = s.disk := by
  rw [Session.reload] at h
  split at h
  next => cases h
  next settings hload =>
    split at h
    next => cases h
    next filters hfilters =>
      cases h
      obtain ⟨hstored, hcompiled⟩ := Filter.compileAll_ok hfilters
      refine ⟨?_, hcompiled, rfl, rfl, rfl⟩
      rw [hload, Registry.current, hstored]

/-- Whatever happens to a sound registry leaves it sound. -/
lemma Step.sound (hstep : Step l l') (h : l.Sound store index) : l'.Sound store index := by
  obtain ⟨rfl, rfl, hcompiled, hsettled, hplain, hsynced⟩ := h
  cases hstep with
  | load hload =>
    obtain ⟨disk, hopen⟩ := load_ok hload
    exact sound_of_openOn hplain hopen
  | reload hreload =>
    obtain ⟨hload, hcompiled', hstore, hindex, hdisk⟩ := reload_ok hreload
    refine ⟨hstore, hindex, hcompiled', ?_, ?_, fun _ => ?_⟩
    · rw [hdisk]
      exact hsettled
    · rw [hdisk]
      exact hplain
    · rw [hdisk]
      exact hload
  | change hc hrun =>
    -- the file is the registry's own here, so its settings are plain before the change
    obtain ⟨heffect, hcompiled', hstore, hindex, hkeeps⟩ := Change.run_ok hcompiled hrun
    have hcurrent := Change.effect_isPlain hc (hplain _ (hsynced rfl)) heffect
    exact sound_of_keeps hstore hindex hcompiled' hcurrent hkeeps
  | @edit s _ disk hedit =>
    -- others change nothing on the way to the file, so its path leads to it as before
    obtain ⟨place, hset⟩ := hsettled
    have hagree := hedit.agree
    rw [hset.placeOf] at hagree
    exact ⟨rfl, rfl, hcompiled, ⟨place, hset.mono hagree⟩, hedit.plain, nofun⟩

/-- A registry at work stays sound. -/
lemma sound_of_run (hrun : Relation.ReflTransGen Step l l') (h : l.Sound store index) :
    l'.Sound store index := by
  induction hrun with
  | refl => exact h
  | tail _ hstep ih => exact hstep.sound ih

lemma Sound.holds (h : Sound store index ⟨s, false⟩) : store.Holds s.registry.current s.disk :=
  ⟨h.synced rfl, h.plain _ (h.synced rfl), h.settled⟩

/-- A change that is not refused can be made. -/
lemma Sound.change {c : Change} {t : Settings} (h : Sound store index ⟨s, false⟩) (hc : c.IsPlain)
    (heffect : c.effect index s.registry.current = some t) :
    ∃ s', Step ⟨s, false⟩ ⟨s', false⟩ ∧ s'.registry.current = t := by
  obtain ⟨rfl, rfl, hcompiled, -⟩ := id h
  obtain ⟨s', hrun⟩ := Change.run_of_holds h.holds heffect
  obtain ⟨heffect', -⟩ := Change.run_ok hcompiled hrun
  exact ⟨s', .change hc hrun, Option.some.inj (heffect'.symm.trans heffect)⟩

/-- Settings that others put into the file can be taken over. -/
lemma Sound.takeOver {t : Settings} {isStale : Bool} (h : Sound store index ⟨s, isStale⟩)
    (ht : t.IsPlain) (hcompiles : ∀ f ∈ t.filters, f.Compiles index) :
    ∃ s', Relation.ReflTransGen Step ⟨s, isStale⟩ ⟨s', false⟩ ∧ s'.registry.current = t := by
  obtain ⟨rfl, rfl, -, ⟨place, hset⟩, -⟩ := id h
  dsimp only at hset hcompiles
  have hkeeps : s.store.Keeps t (s.disk.putFile place (Store.fileContent t)) :=
    ⟨place, s.disk.lastStamp + 1, hset.mono .putFile, by rw [Disk.at?_putFile, if_pos rfl]⟩
  have hholds := hkeeps.holds ht
  have hedit : s.store.Edited s.disk (s.disk.putFile place (Store.fileContent t)) := by
    refine ⟨hset.placeOf ▸ .putFile, fun u hu => ?_⟩
    rw [hholds.load] at hu
    cases hu
    exact ht
  obtain ⟨disk, s', hopen⟩ := @Session.openOn_of_holds _ _ s.nextSerial _ _ hholds hcompiles
  have hload : Session.load { s with disk := s.disk.putFile place (Store.fileContent t) } =
      (s', .ok ()) := by
    rw [Session.load, hopen]
  obtain ⟨u, hu, hcurrent, -⟩ := Session.openOn_ok hopen
  refine ⟨s', .tail (.single (.edit hedit)) (.load hload), hcurrent.trans ?_⟩
  exact Except.ok.inj (hu.symm.trans hholds.load)

/-- Compiled filters that are kept alike accept the same items. -/
lemma forall₂_of_stored {fs gs : List Filter} (hstored : gs.map Filter.stored = fs.map Filter.stored)
    (hfs : ∀ f ∈ fs, f.IsCompiled index) (hgs : ∀ g ∈ gs, g.IsCompiled index) :
    List.Forall₂ (fun f g => g.name = f.name ∧ g.alert = f.alert ∧
      ∀ item, g.accepts item = f.accepts item) fs gs := by
  induction fs generalizing gs with
  | nil =>
    rw [List.map_nil, List.map_eq_nil_iff] at hstored
    rw [hstored]
    exact .nil
  | cons f fs ih =>
    cases gs with
    | nil => cases hstored
    | cons g gs =>
      rw [List.forall_mem_cons] at hfs hgs
      rw [List.map_cons, List.map_cons, List.cons.injEq] at hstored
      obtain ⟨hhead, htail⟩ := hstored
      have hname : g.name = f.name := congrArg StoredFilter.name hhead
      have hquery : g.query = f.query := by
        have hg := hgs.1
        rw [Filter.IsCompiled, hname, hfs.1] at hg
        exact (Except.ok.inj hg).symm
      refine .cons ⟨hname, congrArg StoredFilter.alert hhead, fun item => ?_⟩
        (ih htail hfs.2 hgs.2)
      rw [Filter.accepts, Filter.accepts, hquery]

/-- Whenever a registry has done something last, its file is loaded as its own settings, and a
registry opened on the file has filters of the same names, alerts and decisions. -/
theorem load_eq_current {disk disk' : Disk} {serial : Nat}
    (hplain : ∀ t, store.load disk = .ok t → t.IsPlain)
    (hopen : Session.openOn store index disk serial = (disk', .ok s))
    (hrun : Relation.ReflTransGen Step ⟨s, false⟩ ⟨s', false⟩) :
    store.load s'.disk = .ok s'.registry.current ∧
      ∀ serial', ∃ disk'' s'', Session.openOn store index s'.disk serial' = (disk'', .ok s'') ∧
        List.Forall₂ (fun f g => g.name = f.name ∧ g.alert = f.alert ∧
          ∀ item, g.accepts item = f.accepts item) s'.registry.filters s''.registry.filters := by
  have hsound := sound_of_run hrun (sound_of_openOn hplain hopen)
  have hload := hsound.holds.load
  have hcompiled : s'.registry.IsCompiled index := hsound.compiled
  refine ⟨hload, fun serial' => ?_⟩
  obtain ⟨disk'', s'', hopen'⟩ := @Session.openOn_of_holds store index serial' _ _ hsound.holds
    hcompiled.compiles
  obtain ⟨t, hload', hcurrent, hcompiled', -⟩ := Session.openOn_ok hopen'
  refine ⟨disk'', s'', hopen', forall₂_of_stored ?_ hcompiled hcompiled'⟩
  have ht : t = s'.registry.current := Except.ok.inj (hload'.symm.trans hload)
  exact congrArg Settings.filters (hcurrent.trans ht)

/-- A registry on a file of the older form gets a filter, others write a file with a webhook, and
the registry loads it and switches alerts on. -/
theorem load_eq_current_taken_over :
    let store : Store := ⟨["a.json"], "!"⟩
    let older : Json := .obj [("filters", .arr [.str "tokens1+"])]
    let disk := Disk.empty.putFile ["a.json"] older.indented.toUTF8
    let theirs : Settings := ⟨false, [⟨"!pants", .str "é"⟩], "", some ⟨"1", "t", .null⟩⟩
    ∃ disk' s s', (∀ t, store.load disk = .ok t → t.IsPlain) ∧
      Session.openOn store .empty disk 0 = (disk', .ok s) ∧
      Relation.ReflTransGen Step ⟨s, false⟩ ⟨s', false⟩ ∧
      s'.registry.current = { theirs with enabled := true } ∧
      store.load s'.disk = .ok s'.registry.current ∧
      ∀ serial', ∃ disk'' s'', Session.openOn store .empty s'.disk serial' = (disk'', .ok s'') ∧
        List.Forall₂ (fun f g => g.name = f.name ∧ g.alert = f.alert ∧
          ∀ item, g.accepts item = f.accepts item) s'.registry.filters s''.registry.filters := by
  intro store older disk theirs
  have hloc : disk.locate ["a.json"] = .ok ["a.json"] := rfl
  have hat : disk.at? ["a.json"] = some (.file older.indented.toUTF8 1) := rfl
  have holder : older.IsPlain :=
    .obj (by simp) (List.forall_mem_singleton.2 (.arr (List.forall_mem_singleton.2 .str)))
  have hread : Document.read ["a.json"] disk = .ok older := Document.read_written holder hloc hat
  have hload : store.load disk =
      .ok ⟨false, [⟨"tokens1+", .null⟩], Settings.firstAlert "!", none⟩ :=
    Store.load_of_document hloc hat hread rfl
  have hplain : ∀ t, store.load disk = .ok t → t.IsPlain := by
    intro t ht
    rw [hload] at ht
    cases ht
    refine ⟨List.forall_mem_singleton.2 .null, ?_⟩
    rintro w ⟨⟩
  have hfolder : disk.find? [] = some .folder := rfl
  have hsettled : disk.Settled store.path ["a.json"] := by
    refine Disk.settled_of_free hloc hfolder ?_
    rw [hat]
    exact fun h => Node.noConfusion (Option.some.inj h)
  obtain ⟨disk', s, hopen⟩ := @Session.openOn_of_holds store .empty 0 disk _
    ⟨hload, hplain _ hload, _, hsettled⟩ (List.forall_mem_singleton.2 ⟨_, rfl⟩)
  obtain ⟨t, ht, hcurrent, -⟩ := Session.openOn_ok hopen
  rw [hload] at ht
  cases ht
  have hsound := sound_of_openOn hplain hopen
  obtain ⟨s₁, hadd, -⟩ := hsound.change (c := .add "sharp2-") trivial (by rw [hcurrent]; rfl)
  obtain ⟨s₂, htake, hcurrent₂⟩ := @Sound.takeOver store .empty s₁ theirs false (hadd.sound hsound)
    ⟨List.forall_mem_singleton.2 .str, by rintro w ⟨⟩; exact .null⟩
    (List.forall_mem_singleton.2 ⟨_, rfl⟩)
  have hrun := htake.head hadd
  obtain ⟨s₃, henable, hcurrent₃⟩ :=
    (sound_of_run hrun hsound).change (c := .enable) trivial (by rw [hcurrent₂]; rfl)
  have hrun' := hrun.tail henable
  exact ⟨disk', s, s₃, hplain, hopen, hrun', hcurrent₃, load_eq_current hplain hopen hrun'⟩

end Life

end FeedWatch
