import FeedWatch.Proofs.Document
import FeedWatch.Store

/-!
# Saved settings are loaded again

Settings are taken apart into a value and put together again without loss, and a plain value comes
through a file as it is.  Main statements: settings are read off their kept form
(`Settings.ofJson_toJson`), a file that was saved is loaded as what was saved (`Store.Keeps.load`),
and saving what was loaded writes the same bytes again (`load_save`).
-/

namespace FeedWatch

/-! ## Settings as values -/

/-- Settings whose free values, the alerts of filters and the place of the webhook, are plain. -/
structure Settings.IsPlain (s : Settings) : Prop where
  alert : ∀ f ∈ s.filters, f.alert.IsPlain
  location : ∀ w ∈ s.webhook, w.location.IsPlain

lemma Json.isPlain_ofText? (text : Option String) : (Json.ofText? text).IsPlain := by
  cases text with
  | none => exact .null
  | some s => exact .str

lemma StoredFilter.ofJson_toJson (f : StoredFilter) : ofJson f.toJson = .ok f := rfl

lemma StoredFilter.toJson_isPlain {f : StoredFilter} (h : f.alert.IsPlain) : f.toJson.IsPlain := by
  refine .obj (by simp) ?_
  exact List.forall_mem_cons.2 ⟨.str, List.forall_mem_singleton.2 h⟩

lemma Webhook.toJson_isPlain {w : Webhook} (h : w.location.IsPlain) : w.toJson.IsPlain := by
  have hlogin : ∀ v ∈ [Json.str w.id, .str w.token], v.IsPlain :=
    List.forall_mem_cons.2 ⟨.str, List.forall_mem_singleton.2 .str⟩
  refine .obj (by simp) ?_
  exact List.forall_mem_cons.2 ⟨.arr hlogin, List.forall_mem_singleton.2 h⟩

namespace Settings

/-- Texts and nulls are plain. -/
lemma isPlain_of_texts {s : Settings} (halert : ∀ f ∈ s.filters, ∃ text, f.alert = .ofText? text)
    (hlocation : ∀ w ∈ s.webhook, ∃ text, w.location = .ofText? text) : s.IsPlain := by
  refine ⟨fun f hf => ?_, fun w hw => ?_⟩
  · obtain ⟨text, e⟩ := halert f hf
    exact e ▸ Json.isPlain_ofText? text
  · obtain ⟨text, e⟩ := hlocation w hw
    exact e ▸ Json.isPlain_ofText? text

lemma isPlain_initial (marker : String) : (initial marker).IsPlain := by
  refine ⟨fun f hf => ?_, nofun⟩
  rw [List.mem_singleton.1 hf]
  exact .null

lemma toJson_isPlain {s : Settings} (h : s.IsPlain) : s.toJson.IsPlain := by
  have hfilters : ∀ v ∈ s.filters.map StoredFilter.toJson, v.IsPlain := by
    intro v hv
    obtain ⟨f, hf, rfl⟩ := List.mem_map.1 hv
    exact StoredFilter.toJson_isPlain (h.alert f hf)
  have hbase : ∀ m ∈ [("enabled", Json.bool s.enabled),
      ("filters", .arr (s.filters.map StoredFilter.toJson)), ("alert", .str s.alert)],
      m.2.IsPlain :=
    List.forall_mem_cons.2 ⟨.bool, List.forall_mem_cons.2 ⟨.arr hfilters,
      List.forall_mem_singleton.2 .str⟩⟩
  rw [toJson]
  cases hw : s.webhook with
  | none => exact .obj (by simp) (List.forall_mem_append.2 ⟨hbase, nofun⟩)
  | some w =>
    have hplain := Webhook.toJson_isPlain (h.location w hw)
    exact .obj (by simp) (List.forall_mem_append.2 ⟨hbase, List.forall_mem_singleton.2 hplain⟩)

lemma mapM_ofJson_toJson (filters : List StoredFilter) :
    (filters.map StoredFilter.toJson).mapM StoredFilter.ofJson = .ok filters := by
  rw [Except.mapM_eq_ok_iff, List.forall₂_map_left_iff]
  exact List.forall₂_same.2 fun f _ => f.ofJson_toJson

/-- Settings are read off their kept form, whatever commands start with. -/
lemma ofJson_toJson (marker : String) (s : Settings) : ofJson marker s.toJson = .ok s := by
  obtain ⟨enabled, filters, alert, webhook⟩ := s
  -- an empty list does not count as filled in, but is read as no filters all the same
  have hfilters : Json.seriesOrNone (.arr (filters.map StoredFilter.toJson)) =
      .ok (filters.map StoredFilter.toJson) := by
    cases filters with
    | nil => rfl
    | cons f filters => rfl
  cases webhook with
  | none =>
    refine Except.bind_eq_ok.2 ⟨_, rfl, Except.bind_eq_ok.2 ⟨_, hfilters, ?_⟩⟩
    exact Except.bind_eq_ok.2 ⟨_, mapM_ofJson_toJson filters, rfl⟩
  | some w =>
    refine Except.bind_eq_ok.2 ⟨_, rfl, Except.bind_eq_ok.2 ⟨_, hfilters, ?_⟩⟩
    exact Except.bind_eq_ok.2 ⟨_, mapM_ofJson_toJson filters, rfl⟩

end Settings

/-! ## The settings file -/

namespace Store

variable {store : Store} {s t : Settings} {d d' : Disk}

/-- The settings file is there and keeps some settings. -/
def Keeps (store : Store) (s : Settings) (d : Disk) : Prop :=
  ∃ place stamp, d.Settled store.path place ∧ d.at? place = some (.file (fileContent s) stamp)

lemma keeps_of_save (h : store.save s d = (d', .ok ())) : store.Keeps s d' := Disk.replace_ok h

lemma Keeps.content? (h : store.Keeps s d) : d.content? store.path = some (fileContent s) := by
  obtain ⟨place, stamp, hset, hat⟩ := h
  rw [Disk.content?, Disk.find?_eq_some_iff.2 ⟨place, hset.locate, hat⟩]

/-- A document at the settings file is loaded as the settings that are read off it. -/
lemma load_of_document {place : Path} {content : ByteArray} {stamp : Nat} {v : Json}
    (hloc : d.locate store.path = .ok place) (hat : d.at? place = some (.file content stamp))
    (hread : Document.read store.path d = .ok v)
    (hv : Settings.ofJson store.marker v = .ok s) : store.load d = .ok s := by
  have hexists : d.exists? store.path = .ok true :=
    Disk.exists?_eq_true_iff.2 ⟨_, Disk.find?_eq_some_iff.2 ⟨place, hloc, hat⟩⟩
  rw [Store.load, hexists]
  simp only [hread, hv]
  rfl

/-- Kept settings are loaded, whatever commands start with. -/
lemma Keeps.load (hs : s.IsPlain) (h : store.Keeps s d) (marker : String) :
    load ⟨store.path, marker⟩ d = .ok s := by
  obtain ⟨place, stamp, hset, hat⟩ := h
  have hread := Document.read_written (Settings.toJson_isPlain hs) hset.locate hat
  exact load_of_document hset.locate hat hread (Settings.ofJson_toJson marker s)

/-- The settings file can be read, as plain settings, and written. -/
structure Holds (store : Store) (s : Settings) (d : Disk) : Prop where
  load : store.load d = .ok s
  plain : s.IsPlain
  settled : ∃ place, d.Settled store.path place

lemma Keeps.holds (hs : s.IsPlain) (h : store.Keeps s d) : store.Holds s d := by
  refine ⟨h.load hs store.marker, hs, ?_⟩
  obtain ⟨place, _, hset, _⟩ := h
  exact ⟨place, hset⟩

/-- A settings file that can be read is no folder. -/
lemma free_of_load {place : Path} (hload : store.load d = .ok s)
    (hloc : d.locate store.path = .ok place) : d.at? place ≠ some .folder := by
  intro hat
  have hexists : d.exists? store.path = .ok true :=
    Disk.exists?_eq_true_iff.2 ⟨_, Disk.find?_eq_some_iff.2 ⟨place, hloc, hat⟩⟩
  have hread : Document.read store.path d = .error (.disk (.isFolder store.path)) := by
    rw [Document.read, Disk.read, hloc]
    simp [hat]
  rw [Store.load, hexists] at hload
  simp [hread] at hload

/-- Other settings can be written over settings that were read. -/
lemma save_of_load {place : Path} (hload : store.load d = .ok s) (hset : d.Settled store.path place)
    (t : Settings) : ∃ d', store.save t d = (d', .ok ()) :=
  hset.replace (fileContent t) (free_of_load hload hset.locate)

/-- Other settings can be written over settings that were read. -/
lemma Holds.save (h : store.Holds s d) (t : Settings) : ∃ d', store.save t d = (d', .ok ()) := by
  obtain ⟨place, hset⟩ := h.settled
  exact save_of_load h.load hset t

end Store

/-- Settings that were saved are loaded as they were, whatever commands start with, and saving them
again succeeds and leaves the file with the same content. -/
theorem load_save {store : Store} {s : Settings} {d d' : Disk} (hs : s.IsPlain)
    (hsave : store.save s d = (d', .ok ())) :
    (∀ marker, Store.load ⟨store.path, marker⟩ d' = .ok s) ∧
      ∃ d'', store.save s d' = (d'', .ok ()) ∧
        d''.content? store.path = d'.content? store.path ∧
        d'.content? store.path = some (Store.fileContent s) := by
  have hkeeps := Store.keeps_of_save hsave
  obtain ⟨d'', hagain⟩ := (hkeeps.holds hs).save s
  refine ⟨hkeeps.load hs, d'', hagain, ?_, hkeeps.content?⟩
  rw [hkeeps.content?, (Store.keeps_of_save hagain).content?]

/-- Settings with texts in several scripts, in a folder that is made for them. -/
theorem load_save_scripts :
    let store : Store := ⟨["data", "alerts.json"], "!"⟩
    let s : Settings := {
      enabled := true
      filters := [⟨"épée2+", .ofText? (some "🗡 \"now\"\n")⟩, ⟨"", .ofText? none⟩]
      alert := "\\\x7f"
      webhook := some ⟨"1", "t/\x00", .ofText? (some "здесь")⟩ }
    s.IsPlain ∧ ∃ d', store.save s .empty = (d', .ok ()) ∧
      (∀ marker, Store.load ⟨store.path, marker⟩ d' = .ok s) ∧
        ∃ d'', store.save s d' = (d'', .ok ()) ∧
          d''.content? store.path = d'.content? store.path ∧
          d'.content? store.path = some (Store.fileContent s) := by
  intro store s
  have hs : s.IsPlain := by
    refine Settings.isPlain_of_texts ?_ ?_
    · exact List.forall_mem_cons.2 ⟨⟨some _, rfl⟩, List.forall_mem_singleton.2 ⟨none, rfl⟩⟩
    · rintro w ⟨⟩
      exact ⟨some _, rfl⟩
  have hok : (store.save s .empty).2 = .ok () := by decide +kernel
  exact ⟨hs, (store.save s .empty).1, Prod.ext rfl hok, load_save hs (Prod.ext rfl hok)⟩

end FeedWatch
