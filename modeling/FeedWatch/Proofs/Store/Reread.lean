import FeedWatch.Proofs.Json.Access
import FeedWatch.Proofs.Json.Fit
import FeedWatch.Proofs.Store.RoundTrip

/-!
# Settings that came from a file

The alerts of filters and the place of the webhook come from the settings file as they stand there,
binary64 numbers included.  When they are written and read again, these numbers become what their
texts denote, and everything else stays.  Main statements: settings that were loaded are fit for
writing (`Settings.isFit_of_load`), and a file that keeps them is loaded as what their text denotes
(`Store.Keeps.load_reread`).
-/

namespace FeedWatch

namespace Json.IsFit

variable {v w : Json} {key : String}

lemma memberOrNull (hv : v.IsFit) (h : v.memberOrNull key = .ok w) : w.IsFit := by
  obtain rfl | ⟨members, rfl, hmem⟩ := Json.eq_null_or_mem_of_memberOrNull h
  · exact .null
  · cases hv with
    | obj _ hfs => exact hfs _ hmem

lemma seriesOrNone {vs : List Json} (hv : v.IsFit) (h : v.seriesOrNone = .ok vs) :
    ∀ w ∈ vs, w.IsFit := by
  intro w hw
  cases (Json.mem_iff_of_seriesOrNone h).1 hw with
  | element hmem =>
    cases hv with
    | arr hvs => exact hvs w hmem
  | key => exact .str
  | character => exact .str

end Json.IsFit

/-- A document is what is read of the text of its content. -/
lemma Document.ofContent_eq_ok {content : ByteArray} {v : Json} (h : ofContent content = .ok v) :
    ∃ text, fileText? content = some text ∧ Json.read text = .ok v := by
  rw [ofContent] at h
  split at h
  · cases h
  next text htext => exact ⟨text, htext, Except.mapError_eq_ok.1 h⟩

/-! ## Settings -/

/-- Settings whose free values, the alerts of filters and the place of the webhook, are fit. -/
structure Settings.IsFit (s : Settings) : Prop where
  alert : ∀ f ∈ s.filters, f.alert.IsFit
  location : ∀ w ∈ s.webhook, w.location.IsFit

/-- The filter that is read of what is written of a filter. -/
def StoredFilter.reread (f : StoredFilter) : StoredFilter := { f with alert := f.alert.reread }

/-- The webhook that is read of what is written of a webhook. -/
def Webhook.reread (w : Webhook) : Webhook := { w with location := w.location.reread }

/-- The settings that are read of what is written of settings. -/
def Settings.reread (s : Settings) : Settings :=
  { s with filters := s.filters.map StoredFilter.reread, webhook := s.webhook.map Webhook.reread }

lemma StoredFilter.isFit_of_ofJson {v : Json} {f : StoredFilter} (hv : v.IsFit)
    (h : ofJson v = .ok f) : f.alert.IsFit := by
  rw [ofJson.eq_def] at h
  split at h
  · cases h
    exact .null
  · obtain ⟨name, -, h⟩ := Except.bind_eq_ok.1 h
    obtain ⟨alert, halert, h⟩ := Except.bind_eq_ok.1 h
    cases h
    exact hv.memberOrNull halert

lemma StoredFilter.toJson_isFit {f : StoredFilter} (h : f.alert.IsFit) : f.toJson.IsFit :=
  .obj (by simp) (List.forall_mem_cons.2 ⟨.str, List.forall_mem_singleton.2 h⟩)

lemma Webhook.isFit_of_ofJson? {v : Json} {webhook : Option Webhook} (hv : v.IsFit)
    (h : ofJson? v = .ok webhook) : ∀ w ∈ webhook, w.location.IsFit := by
  rw [ofJson?] at h
  split_ifs at h
  · cases h
    exact nofun
  · obtain ⟨login, -, h⟩ := Except.bind_eq_ok.1 h
    obtain ⟨pair, -, h⟩ := Except.bind_eq_ok.1 h
    obtain ⟨location, hlocation, h⟩ := Except.bind_eq_ok.1 h
    cases h
    rintro w ⟨⟩
    exact hv.memberOrNull hlocation

lemma Webhook.toJson_isFit {w : Webhook} (h : w.location.IsFit) : w.toJson.IsFit := by
  have hlogin : ∀ v ∈ [Json.str w.id, .str w.token], v.IsFit :=
    List.forall_mem_cons.2 ⟨.str, List.forall_mem_singleton.2 .str⟩
  exact .obj (by simp) (List.forall_mem_cons.2 ⟨.arr hlogin, List.forall_mem_singleton.2 h⟩)

namespace Settings

variable {s : Settings}

/-- Settings that are read have the filters and the webhook that their value has. -/
lemma exists_of_ofJson {marker : String} {v : Json} (h : ofJson marker v = .ok s) :
    ∃ filters elements webhook, v.memberOrNull "filters" = .ok filters ∧
      filters.seriesOrNone = .ok elements ∧ elements.mapM StoredFilter.ofJson = .ok s.filters ∧
      v.memberOrNull "webhook" = .ok webhook ∧ Webhook.ofJson? webhook = .ok s.webhook := by
  obtain ⟨filters, hfilters, h⟩ := Except.bind_eq_ok.1 h
  obtain ⟨elements, helements, h⟩ := Except.bind_eq_ok.1 h
  obtain ⟨stored, hstored, h⟩ := Except.bind_eq_ok.1 h
  obtain ⟨alert, -, h⟩ := Except.bind_eq_ok.1 h
  obtain ⟨enabled, -, h⟩ := Except.bind_eq_ok.1 h
  obtain ⟨webhook, hwebhook, h⟩ := Except.bind_eq_ok.1 h
  obtain ⟨kept, hkept, h⟩ := Except.bind_eq_ok.1 h
  cases h
  exact ⟨filters, elements, webhook, hfilters, helements, hstored, hwebhook, hkept⟩

lemma isFit_of_ofJson {marker : String} {v : Json} (hv : v.IsFit) (h : ofJson marker v = .ok s) :
    s.IsFit := by
  obtain ⟨filters, elements, webhook, hfilters, helements, hstored, hwebhook, hkept⟩ :=
    exists_of_ofJson h
  refine ⟨fun f hf => ?_, Webhook.isFit_of_ofJson? (hv.memberOrNull hwebhook) hkept⟩
  obtain ⟨w, hw, hread⟩ := Except.exists_of_mapM_eq_ok hstored hf
  exact StoredFilter.isFit_of_ofJson ((hv.memberOrNull hfilters).seriesOrNone helements w hw) hread

lemma toJson_isFit (h : s.IsFit) : s.toJson.IsFit := by
  have hfilters : ∀ v ∈ s.filters.map StoredFilter.toJson, v.IsFit :=
    List.forall_mem_map.2 fun f hf => StoredFilter.toJson_isFit (h.alert f hf)
  have hbase : ∀ m ∈ [("enabled", Json.bool s.enabled),
      ("filters", .arr (s.filters.map StoredFilter.toJson)), ("alert", .str s.alert)],
      m.2.IsFit :=
    List.forall_mem_cons.2 ⟨.bool, List.forall_mem_cons.2 ⟨.arr hfilters,
      List.forall_mem_singleton.2 .str⟩⟩
  rw [toJson]
  cases hw : s.webhook with
  | none => exact .obj (by simp) (List.forall_mem_append.2 ⟨hbase, List.forall_mem_nil _⟩)
  | some w =>
    have hwebhook := Webhook.toJson_isFit (h.location w hw)
    exact .obj (by simp) (List.forall_mem_append.2 ⟨hbase, List.forall_mem_singleton.2 hwebhook⟩)

/-- What is read of written settings is the kept form of settings. -/
lemma reread_toJson (s : Settings) : s.toJson.reread = s.reread.toJson := by
  have hfilters : Json.rereadElements (s.filters.map StoredFilter.toJson) =
      (s.filters.map StoredFilter.reread).map StoredFilter.toJson := by
    rw [Json.rereadElements_eq, List.map_map, List.map_map]
    rfl
  obtain ⟨enabled, filters, alert, webhook⟩ := s
  cases webhook with
  | none =>
    simp only [toJson, Json.reread, Json.rereadMembers, hfilters, List.append_nil, reread]
    rfl
  | some w =>
    simp only [toJson, List.cons_append, List.nil_append, Json.reread, Json.rereadMembers, hfilters,
      reread]
    rfl

/-- Settings that are loaded are those of a new installation or of what the file holds. -/
lemma eq_initial_or_of_load {store : Store} {d : Disk} (h : store.load d = .ok s) :
    s = .initial store.marker ∨ ∃ content v, d.read store.path = .ok content ∧
      Document.ofContent content = .ok v ∧ ofJson store.marker v = .ok s := by
  rw [Store.load] at h
  split at h
  · cases h
  · exact .inl (Except.ok.inj h).symm
  · split at h
    · cases h
    next v hread =>
      rw [Document.read] at hread
      split at hread
      · cases hread
      next content hcontent =>
        exact .inr ⟨content, v, hcontent, hread, Except.mapError_eq_ok.1 h⟩

/-- The settings of a file, or of a new installation, are fit for writing. -/
lemma isFit_of_load {store : Store} {d : Disk} (h : store.load d = .ok s) : s.IsFit := by
  obtain rfl | ⟨content, v, -, hread, hof⟩ := eq_initial_or_of_load h
  · exact ⟨List.forall_mem_singleton.2 .null, by rintro w ⟨⟩⟩
  · obtain ⟨text, -, htext⟩ := Document.ofContent_eq_ok hread
    exact isFit_of_ofJson (Json.isFit_of_read htext) hof

end Settings

/-- A file that keeps settings is loaded as what their text denotes. -/
lemma Store.Keeps.load_reread {store : Store} {s : Settings} {d : Disk} (hs : s.IsFit)
    (h : store.Keeps s d) (marker : String) :
    Store.load ⟨store.path, marker⟩ d = .ok s.reread := by
  obtain ⟨place, stamp, hset, hat⟩ := h
  have hread := Document.read_reread (Settings.toJson_isFit hs) hset.locate hat
  rw [Settings.reread_toJson] at hread
  exact load_of_document hset.locate hat hread (Settings.ofJson_toJson marker s.reread)

end FeedWatch
