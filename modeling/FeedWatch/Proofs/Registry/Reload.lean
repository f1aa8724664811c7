import FeedWatch.Engine.Basic
import FeedWatch.Proofs.Query.LongNumbers
import FeedWatch.Proofs.Registry.Opening

/-!
# Reloads that fail

A registry reads the settings file again when others have changed it.  It takes the settings over
before it compiles their filters, so a reload fails in one of two ways: at the file, and then
nothing is changed, or at a filter whose number is too long to be read, and then the filters of
before stand beside the settings just read.

Main statement: a reload that fails leaves what is seen through the registry as it was exactly when
the settings, if they could be read, agree with it in all but the filters; the same holds of a look
at the settings file that takes nothing over, which never touches the sink
(`view_eq_iff_of_failed`).  A settings file with one long number, and different settings otherwise,
is a case in which it is not left as it was (`view_ne_of_long_number`).
-/

namespace FeedWatch

/-! ## What is seen through a registry -/

/-- Settings without the filters. -/
def Settings.front (s : Settings) : Bool × String × Option Webhook := (s.enabled, s.alert, s.webhook)

/-- What is seen through a registry: the settings without the filters, and the compiled filters. -/
def Registry.view (r : Registry) : (Bool × String × Option Webhook) × List Filter :=
  (r.settings.front, r.filters)

namespace Session

variable {s s' : Session} {err : RegistryError}

/-- A reload fails at the file, or at a filter of settings that are taken over already. -/
lemma reload_error (h : s.reload = (s', .error err)) :
    (s' = s ∧ ∀ t, s.store.load s.disk ≠ .ok t) ∨
      ∃ t, s.store.load s.disk = .ok t ∧
        s' = { s with registry := { s.registry with settings := t } } := by
  rw [reload] at h
  split at h
  next e hload =>
    cases h
    exact .inl ⟨rfl, fun t ht => by cases hload.symm.trans ht⟩
  next t hload =>
    split at h
    next =>
      cases h
      exact .inr ⟨t, hload, rfl⟩
    next => cases h

/-- A failed reload is not seen when the settings in the file agree with those of before. -/
lemma view_eq_iff_of_reload (h : s.reload = (s', .error err)) :
    s'.registry.view = s.registry.view ↔
      ∀ t, s.store.load s.disk = .ok t → t.front = s.registry.settings.front := by
  obtain ⟨rfl, hnone⟩ | ⟨t, hload, rfl⟩ := reload_error h
  · exact ⟨fun _ t ht => absurd ht (hnone t), fun _ => rfl⟩
  · constructor
    · intro hview t' ht'
      cases hload.symm.trans ht'
      exact (Prod.ext_iff.1 hview).1
    · intro hfront
      exact Prod.ext (hfront t hload) rfl

lemma untouched_of_reload (h : s.reload = (s', .error err)) :
    s'.disk = s.disk ∧ s'.registry.filters = s.registry.filters := by
  obtain ⟨rfl, -⟩ | ⟨t, -, rfl⟩ := reload_error h
  · exact ⟨rfl, rfl⟩
  · exact ⟨rfl, rfl⟩

end Session

/-! ## Looks at the settings file -/

namespace Engine

variable {e e' : Engine} {st : Station}

lemma getLast?_keep (s : Session) (hlast : e.stations.getLast? = some st) :
    (e.keep (e.stations.length - 1) s).stations.getLast? =
      some { st with registry := s.registry } := by
  rw [List.getLast?_eq_getElem?] at hlast ⊢
  simp only [keep, alterStation, List.length_modify, List.getElem?_modify_eq, hlast]
  rfl

/-- A look that takes nothing over found an old file, or a reload failed. -/
lemma refresh_false (hlast : e.stations.getLast? = some st) (h : e.refresh = (e', false)) :
    (e' = e ∧ (e.store.stamp? e.disk = none ∨ e.store.stamp? e.disk = e.stamp)) ∨
      ((e.store.stamp? e.disk ≠ none ∧ e.store.stamp? e.disk ≠ e.stamp) ∧
        ∃ s' err, (e.session st).reload = (s', .error err) ∧
          e' = e.keep (e.stations.length - 1) s') := by
  have hnewest : e.newest? = some (e.stations.length - 1) := by
    have hne : e.stations ≠ [] := by
      rintro hnil
      rw [hnil] at hlast
      cases hlast
    simp [newest?, hne]
  simp only [refresh, hnewest, hlast] at h
  split at h
  next hold =>
    cases h
    exact .inl ⟨rfl, by simpa using hold⟩
  next hnew =>
    simp only [Bool.or_eq_true, Option.isNone_iff_eq_none, beq_iff_eq, not_or] at hnew
    split at h
    next s' err hreload =>
      cases h
      exact .inr ⟨hnew, s', err, hreload, rfl⟩
    next => cases h

end Engine

/-- A reload that fails leaves what is seen through the registry as it was exactly when the
settings in the file, if they can be read, agree with it in all but the filters.  A look at the
settings file that takes nothing over leaves the sink as it was, and the registry too if the file
is an old one or such a reload leaves it. -/
theorem view_eq_iff_of_failed (s : Session) (e : Engine) :
    (∀ s' err, s.reload = (s', .error err) →
      s'.disk = s.disk ∧ s'.registry.filters = s.registry.filters ∧
        (s'.registry.view = s.registry.view ↔
          ∀ t, s.store.load s.disk = .ok t → t.front = s.registry.settings.front)) ∧
      ∀ e' st, e.stations.getLast? = some st → e.refresh = (e', false) →
        ∃ st', e'.stations.getLast? = some st' ∧ st'.pipeline.sink = st.pipeline.sink ∧
          (st'.registry.view = st.registry.view ↔
            e.store.stamp? e.disk = none ∨ e.store.stamp? e.disk = e.stamp ∨
              ∀ t, e.store.load e.disk = .ok t → t.front = st.registry.settings.front) := by
  refine ⟨fun s' err h => ?_, fun e' st hlast h => ?_⟩
  · obtain ⟨hdisk, hfilters⟩ := Session.untouched_of_reload h
    exact ⟨hdisk, hfilters, Session.view_eq_iff_of_reload h⟩
  · -- the look left the file alone, or reloaded it and failed
    obtain ⟨rfl, hold⟩ | ⟨hnew, s', err, hreload, rfl⟩ := Engine.refresh_false hlast h
    · exact ⟨st, hlast, rfl, fun _ => hold.imp_right .inl, fun _ => rfl⟩
    · refine ⟨_, Engine.getLast?_keep s' hlast, rfl, ?_⟩
      have hview := Session.view_eq_iff_of_reload hreload
      constructor
      · intro h
        exact .inr (.inr (hview.1 h))
      · rintro (hnone | hsame | hfront)
        · exact absurd hnone hnew.1
        · exact absurd hsame hnew.2
        · exact hview.2 hfront

/-! ## A number that is too long -/

/-- Settings whose one filter is refused are taken over, and the reload fails. -/
lemma Session.reload_of_long {s : Session} {t : Settings} {name : String} {n : Nat}
    (hload : s.store.load s.disk = .ok t) (ht : t.filters = [⟨name, .null⟩])
    (hlong : FirstTooLong name n) :
    s.reload =
      ({ s with registry := { s.registry with settings := t } }, .error (.tooLong ⟨n⟩)) := by
  have hcompile : Query.compile s.index name = .error ⟨n⟩ := Query.compile_eq_error_iff.2 hlong
  have hfilters : Filter.compileAll s.index s.nextSerial t.filters = .error ⟨n⟩ := by
    rw [ht, Filter.compileAll, Filter.compile_eq, hcompile]
    rfl
  rw [Session.reload, hload]
  simp only [hfilters]

/-- A registry without filters on a disk where others have written the settings file. -/
def Session.besideFile (settings t : Settings) : Session :=
  { store := ⟨["a.json"], "!"⟩, index := .empty, nextSerial := 0
    disk := Disk.empty.putFile ["a.json"] (Store.fileContent t), registry := ⟨settings, []⟩ }

lemma Session.load_besideFile {settings t : Settings} (h : t.IsPlain) :
    (besideFile settings t).store.load (besideFile settings t).disk = .ok t := by
  have hfree : Disk.empty.at? ["a.json"] = none := by decide
  have hsettled : Disk.empty.Settled ["a.json"] ["a.json"] :=
    Disk.settled_of_free rfl rfl (by rw [hfree]; nofun)
  have hkeeps : (besideFile settings t).store.Keeps t (besideFile settings t).disk := by
    refine ⟨["a.json"], 1, hsettled.mono .putFile, ?_⟩
    exact (Disk.at?_putFile _ _ _ _).trans (if_pos rfl)
  exact hkeeps.load h "!"

/-- Settings with one filter, which is a number of 4301 digits. -/
def Settings.withLong (enabled : Bool) (alert : String) : Settings :=
  ⟨enabled, [⟨String.ofList (List.replicate 4301 '1'), .null⟩], alert, none⟩

lemma Settings.isPlain_withLong {enabled : Bool} {alert : String} :
    (withLong enabled alert).IsPlain :=
  isPlain_of_texts (List.forall_mem_singleton.2 ⟨none, rfl⟩) nofun

lemma Session.reload_withLong (settings : Settings) (enabled : Bool) (alert : String) :
    (besideFile settings (.withLong enabled alert)).reload =
      ({ besideFile settings (.withLong enabled alert) with
          registry := ⟨.withLong enabled alert, []⟩ }, .error (.tooLong ⟨4301⟩)) := by
  have hlong := @firstTooLong_replicate 4301 (by decide)
  exact reload_of_long (load_besideFile Settings.isPlain_withLong) rfl hlong

/-- The settings in the file differ from those of before in nothing but a number that is too long:
the reload fails, and what is seen is what was seen before. -/
theorem view_eq_of_long_number :
    let s := Session.besideFile ⟨true, [], "old", none⟩ (.withLong true "old")
    ∃ s', s.reload = (s', .error (.tooLong ⟨4301⟩)) ∧ s'.registry.settings ≠ s.registry.settings ∧
      s'.registry.view = s.registry.view := by
  intro s
  have hreload := Session.reload_withLong ⟨true, [], "old", none⟩ true "old"
  have hiff := ((view_eq_iff_of_failed s
    (.start .standard 0 s.store s.disk ⟨[], [], 0⟩ (.ofScript []))).1 _ _ hreload).2.2
  have hfront : ∀ t, s.store.load s.disk = .ok t → t.front = s.registry.settings.front := by
    intro t ht
    cases (Session.load_besideFile Settings.isPlain_withLong).symm.trans ht
    rfl
  exact ⟨_, hreload, (by rintro ⟨⟩), hiff.2 hfront⟩

/-- The settings in the file are other ones, with a number that is too long: the reload fails, and
other settings are seen than before. -/
theorem view_ne_of_long_number :
    let s := Session.besideFile ⟨false, [], "old", none⟩ (.withLong true "new")
    s.reload.2 = .error (.tooLong ⟨4301⟩) ∧ s.reload.1.registry.view ≠ s.registry.view := by
  intro s
  have hreload : s.reload = _ := Session.reload_withLong ⟨false, [], "old", none⟩ true "new"
  rw [hreload]
  exact ⟨rfl, fun h => by cases congrArg (fun v => v.1.1) h⟩

end FeedWatch
