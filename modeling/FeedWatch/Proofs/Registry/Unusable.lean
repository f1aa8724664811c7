import FeedWatch.Proofs.Disk.Stopped
import FeedWatch.Proofs.Document
import FeedWatch.Proofs.Json.Access
import FeedWatch.Proofs.Store.Whole
import FeedWatch.Registry

/-!
# Settings files that cannot be used

A settings file may hold anything.  Main statement: whatever a settings file holds, settings are
loaded from it or it is refused for what it holds, and however opening a registry on it fails, the
file stays as it is (`Session.file_of_openUnless`).
-/

namespace FeedWatch

/-- The families of causes that are reported as settings of the wrong shape. -/
def Settings.reported : List Json.MismatchFamily := [.key, .value, .kind, .operation]

/-- A refusal for what the file holds: it is no text, no document, or no settings. -/
def LoadError.IsAboutContent : LoadError → Prop
  | document (.disk _) => False
  | document .undecodable | document (.notJson _) => True
  | invalid _ cause => cause.family ∈ Settings.reported

/-! ## Settings of the wrong shape -/

section Shape

variable {v : Json} {key : String}

lemma Settings.failsAs_member : Except.FailsAs (·.family ∈ reported) (v.member key) := by
  refine Json.failsAs_member.mono fun cause hcause => ?_
  have hsub : [.key, .kind] ⊆ reported := by decide
  exact hsub hcause

lemma Settings.failsAs_memberOrNull :
    Except.FailsAs (·.family ∈ reported) (v.memberOrNull key) := by
  refine Json.failsAs_memberOrNull.mono fun cause hcause => ?_
  have hsub : [.operation] ⊆ reported := by decide
  exact hsub hcause

lemma StoredFilter.failsAs_ofJson : Except.FailsAs (·.family ∈ Settings.reported) (ofJson v) := by
  rw [ofJson.eq_def]
  split
  · nofun
  · exact .bind Settings.failsAs_member fun _ _ =>
      .bind Settings.failsAs_memberOrNull fun _ _ => .pure

lemma Webhook.failsAs_ofJson? : Except.FailsAs (·.family ∈ Settings.reported) (ofJson? v) := by
  have hpair : ∀ login : Json, Except.FailsAs (·.family ∈ Settings.reported) login.pair := by
    intro login
    refine Json.failsAs_pair.mono fun cause hcause => ?_
    have hsub : [.value, .kind] ⊆ Settings.reported := by decide
    exact hsub hcause
  rw [ofJson?]
  split
  · nofun
  · exact .bind Settings.failsAs_member fun login _ =>
      .bind (hpair login) fun _ _ => .bind Settings.failsAs_memberOrNull fun _ _ => .pure

/-- Settings of the wrong shape are reported as such, whatever is wrong with them. -/
lemma Settings.failsAs_ofJson (marker : String) :
    Except.FailsAs (·.family ∈ reported) (ofJson marker v) := by
  have hseries : ∀ filters : Json, Except.FailsAs (·.family ∈ reported) filters.seriesOrNone := by
    intro filters
    refine Json.failsAs_seriesOrNone.mono fun cause hcause => ?_
    have hsub : [.kind] ⊆ reported := by decide
    exact hsub hcause
  refine .bind failsAs_memberOrNull fun filters _ => .bind (hseries filters) fun _ _ => ?_
  refine .bind (.mapM fun _ _ => StoredFilter.failsAs_ofJson) fun _ _ => ?_
  refine .bind failsAs_memberOrNull fun _ _ => .bind failsAs_memberOrNull fun _ _ => ?_
  exact .bind failsAs_memberOrNull fun _ _ => .bind Webhook.failsAs_ofJson? fun _ _ => .pure

end Shape

/-! ## Files -/

namespace Disk

variable {d d' : Disk} {p : Path} {content : ByteArray} {stop : Option Stage} {stamp : Nat}

/-- Where there is a file, there is no folder to make. -/
lemma withFolder_of_file (h : d.find? p = some (.file content stamp)) :
    (d.withFolder p.parent).1 = d := by
  by_cases hparent : p.parent = p
  · rw [hparent]
    cases hmade : d.withFolder p with
    | mk d' result =>
      obtain hone | ⟨hne, -⟩ := withFolder_cases hmade
      · cases result with
        | ok u =>
          have hfile := (opens_withFolder p d).toExtends.find? h
          rw [hmade, withFolder_ok hmade] at hfile
          cases hfile
        | error e => exact ensureOne_error hone
      · exact absurd hparent hne
  · obtain ⟨place, hloc, -⟩ := find?_eq_some_iff.1 h
    rw [withFolder_of_find? (find?_parent_of_locate hloc hparent)]

/-- A file whose replacement does not finish stays as it is. -/
lemma find?_of_file {e : ReplaceError} (hfile : d.find? p = some (.file content stamp))
    {content' : ByteArray} (h : d.replace stop p content' = (d', .error e)) :
    d'.find? p = d.find? p := by
  have hsame := withFolder_of_file hfile
  obtain ⟨e', hdir⟩ | ⟨dir, hdir, hfind⟩ := find?_of_replace_error h
  · rw [hdir] at hsame
    rw [← hsame]
  · rw [hdir] at hsame
    rw [hfind, ← hsame]

end Disk

/-- A document is read off what its file holds. -/
lemma Document.read_of_content {path : Path} {d : Disk} {content : ByteArray}
    (h : d.content? path = some content) : read path d = ofContent content := by
  obtain ⟨stamp, hfind⟩ := Disk.content?_eq_some_iff.1 h
  obtain ⟨place, hloc, hat⟩ := Disk.find?_eq_some_iff.1 hfind
  rw [read, Disk.read, hloc]
  simp only [hat]

/-- A document is refused for what its file holds. -/
lemma Document.ofContent_error {content : ByteArray} {e : DocumentError}
    (h : ofContent content = .error e) : (LoadError.document e).IsAboutContent := by
  rw [ofContent] at h
  split at h
  next =>
    cases h
    trivial
  next =>
    obtain ⟨cause, -, rfl⟩ := Except.mapError_eq_error.1 h
    trivial

/-- A settings file that is refused is refused for what it holds. -/
lemma Store.isAboutContent_of_load {store : Store} {d : Disk} {content : ByteArray} {e : LoadError}
    (h : d.content? store.path = some content) (hload : store.load d = .error e) :
    e.IsAboutContent := by
  obtain ⟨stamp, hfind⟩ := Disk.content?_eq_some_iff.1 h
  rw [load, Disk.exists?_eq_true_iff.2 ⟨_, hfind⟩, Document.read_of_content h] at hload
  dsimp only at hload
  split at hload
  next cause hdocument =>
    cases hload
    exact Document.ofContent_error hdocument
  next v _ =>
    obtain ⟨cause, hcause, rfl⟩ := Except.mapError_eq_error.1 hload
    exact Settings.failsAs_ofJson store.marker cause hcause

namespace Session

variable {store : Store} {index : ReferenceIndex} {disk disk' : Disk} {serial : Nat}
variable {stop : Option Disk.Stage} {content : ByteArray}

/-- Opens a registry on a store, `stop` naming a stage at which writing the settings back goes
wrong. -/
def openUnless (stop : Option Disk.Stage) (store : Store) (index : ReferenceIndex) (disk : Disk)
    (serial : Nat) : Disk × Except RegistryError Session :=
  match store.load disk with
  | .error e => (disk, .error (.load e))
  | .ok settings =>
    match Registry.ofSettings index serial settings with
    | .error e => (disk, .error (.tooLong e))
    | .ok registry =>
      let settings := registry.current
      let (disk, result) := store.saveUnless stop settings disk
      let nextSerial := serial + registry.filters.length
      (disk, (result.mapError .save).map fun _ =>
        { store, index, disk, registry := { registry with settings }, nextSerial })

/-- Nothing but the registry itself goes wrong when one is opened. -/
lemma openUnless_none : openUnless none store index disk serial = openOn store index disk serial :=
  rfl

/-- A registry that cannot be opened leaves the disk, or writing the settings back has failed. -/
lemma openUnless_error {e : RegistryError}
    (h : openUnless stop store index disk serial = (disk', .error e)) :
    disk' = disk ∨ ∃ t cause, store.saveUnless stop t disk = (disk', .error cause) := by
  rw [openUnless] at h
  split at h
  next =>
    cases h
    exact .inl rfl
  next =>
    split at h
    next =>
      cases h
      exact .inl rfl
    next registry _ =>
      dsimp only at h
      cases hsave : store.saveUnless stop registry.current disk with
      | mk d result =>
        rw [hsave] at h
        cases result with
        | ok u => cases h
        | error cause =>
          cases h
          exact .inr ⟨_, cause, hsave⟩

/-- Whatever a settings file holds, settings are loaded from it or it is refused for what it holds,
and it stays as it is when opening a registry on it fails: because the file is refused, because of a
filter, or because writing the settings back is refused or stopped. -/
theorem file_of_openUnless (store : Store) (index : ReferenceIndex) (disk : Disk) (serial : Nat)
    (content : ByteArray) (h : disk.content? store.path = some content) :
    ((∃ s, store.load disk = .ok s) ∨ ∃ e, store.load disk = .error e ∧ e.IsAboutContent) ∧
      ∀ stop disk' e, openUnless stop store index disk serial = (disk', .error e) →
        disk'.content? store.path = some content ∧
          disk'.find? store.path = disk.find? store.path := by
  refine ⟨?_, fun stop disk' e hopen => ?_⟩
  · cases hload : store.load disk with
    | ok s => exact .inl ⟨s, rfl⟩
    | error e => exact .inr ⟨e, rfl, Store.isAboutContent_of_load h hload⟩
  · obtain ⟨stamp, hfile⟩ := Disk.content?_eq_some_iff.1 h
    have hfind : disk'.find? store.path = disk.find? store.path := by
      obtain rfl | ⟨t, cause, hsave⟩ := openUnless_error hopen
      · rfl
      · exact Disk.find?_of_file hfile hsave
    exact ⟨Disk.content?_eq_some_iff.2 ⟨stamp, hfind.trans hfile⟩, hfind⟩

/-- A settings file with null in the place of a filter is refused for its shape, and stays. -/
theorem file_of_openUnless_misshapen :
    let v : Json := .obj [("filters", .arr [.null])]
    let store : Store := ⟨["s.json"], "!"⟩
    let disk := Disk.empty.putFile store.path v.indented.toUTF8
    disk.content? store.path = some v.indented.toUTF8 ∧
      (∃ e, store.load disk = .error e ∧ e.IsAboutContent) ∧
      ∃ disk' e, openUnless none store .empty disk 0 = (disk', .error e) ∧
        disk'.content? store.path = some v.indented.toUTF8 := by
  intro v store disk
  have hput : ∀ content, (Disk.empty.putFile ["s.json"] content).content? ["s.json"] =
      some content := fun _ => rfl
  have hcontent : disk.content? store.path = some v.indented.toUTF8 := hput _
  have hplain : v.IsPlain :=
    .obj (by decide) (List.forall_mem_singleton.2 (.arr (List.forall_mem_singleton.2 .null)))
  obtain ⟨stamp, hfind⟩ := Disk.content?_eq_some_iff.1 hcontent
  have hexists := Disk.exists?_eq_true_iff.2 ⟨_, hfind⟩
  have hread : Document.read store.path disk = .ok v := by
    rw [Document.read_of_content hcontent, Document.ofContent_reread hplain.isFit,
      Json.reread_of_isPlain hplain]
  have hshape : Settings.ofJson store.marker v = .error (.notKeyed .null) := rfl
  have hload : store.load disk = .error (.invalid store.path (.notKeyed .null)) := by
    simp only [Store.load, hexists, hread, hshape, Except.mapError]
  obtain ⟨hloads, hstays⟩ := file_of_openUnless store .empty disk 0 _ hcontent
  have hopen : openUnless none store .empty disk 0 =
      (disk, .error (.load (.invalid store.path (.notKeyed .null)))) := by
    rw [openUnless, hload]
  refine ⟨hcontent, ?_, _, _, hopen, (hstays _ _ _ hopen).1⟩
  obtain ⟨s, hs⟩ | hrefused := hloads
  · cases hload.symm.trans hs
  · exact hrefused

end Session

end FeedWatch
