import FeedWatch.Proofs.Registry.Opening

/-!
# Changes of a registry

Each operation that changes a registry has an effect on settings alone, which says what the settings
become, or that the change is refused.  Main statements: a change that is refused leaves the session
as it was (`Change.run_of_effect_none`), every other one writes a registry with the settings of its
effect (`Change.run_of_effect_some`), and so a change that succeeds leaves these settings in the
registry and in the file (`Change.run_ok`).
-/

namespace FeedWatch

/-- A change that a registry makes and writes at once. -/
inductive Change
  | add (name : String)
  | remove (name : String)
  | setAlert (name : String) (text : Option String)
  | setGlobalAlert (text : String)
  | setWebhook (w : Webhook)
  | enable
  | disable

/-- The alert that a filter gets by a text; an empty text clears it. -/
def StoredFilter.alertOf : Option String → Json
  | none => .null
  | some text => if text.isEmpty then .null else .str text

/-- Changes the alert of the first filter with a name. -/
def StoredFilter.alertFirst (name : String) (alert : Json) : List StoredFilter → List StoredFilter
  | [] => []
  | f :: rest => if f.name = name then { f with alert } :: rest else f :: alertFirst name alert rest

/-- Whether there is a filter with a name. -/
def Settings.contains (s : Settings) (name : String) : Bool := s.filters.any (·.name == name)

namespace Change

/-- Carries a change out, without telling what it found. -/
def run (s : Session) : Change → Session.Outcome Unit
  | add name => (s.add name).map id (·.map fun _ => ())
  | remove name => (s.remove name).map id (·.map fun _ => ())
  | setAlert name text => (s.setAlert name text).map id (·.map fun _ => ())
  | setGlobalAlert text => s.setGlobalAlert text
  | setWebhook w => s.setWebhook w
  | enable => s.enable
  | disable => s.disable

/-- What settings become by a change, unless it is refused. -/
def effect (index : ReferenceIndex) (s : Settings) : Change → Option Settings
  | add name =>
    match s.contains name, Query.compile index name with
    | false, .ok _ => some { s with filters := s.filters ++ [{ name, alert := .null }] }
    | _, _ => none
  | remove name => some { s with filters := s.filters.filter (·.name != name) }
  | setAlert name text =>
    if s.contains name then
      some { s with filters := StoredFilter.alertFirst name (StoredFilter.alertOf text) s.filters }
    else none
  | setGlobalAlert text => some { s with alert := text }
  | setWebhook w => some { s with webhook := some w }
  | enable => if s.webhook.isNone then none else some { s with enabled := true }
  | disable => some { s with enabled := false }

/-- A change that brings no value into the settings but a plain one. -/
def IsPlain : Change → Prop
  | setWebhook w => w.location.IsPlain
  | _ => True

variable {index : ReferenceIndex} {s s' : Session} {c : Change} {t : Settings}

/-! ## The settings of a changed registry -/

lemma contains_current (r : Registry) (name : String) :
    r.current.contains name = r.contains name := List.any_map

lemma isSome_get? (r : Registry) (name : String) : (r.get? name).isSome = r.contains name :=
  List.isSome_find?

lemma current_append (r : Registry) (f : Filter) :
    Registry.current { r with filters := r.filters ++ [f] } =
      { r.current with filters := r.current.filters ++ [f.stored] } := by
  simp [Registry.current]

lemma current_filter (r : Registry) (name : String) :
    Registry.current { r with filters := r.filters.filter (·.name != name) } =
      { r.current with filters := r.current.filters.filter (·.name != name) } := by
  simp only [Registry.current, List.filter_map]
  rfl

lemma map_alertFirst (name : String) (alert : Json) (fs : List Filter) :
    (Session.alertFirst name alert fs).map Filter.stored =
      StoredFilter.alertFirst name alert (fs.map Filter.stored) := by
  induction fs with
  | nil => rfl
  | cons f fs ih =>
    have hname : f.stored.name = f.name := rfl
    rw [List.map_cons, Session.alertFirst, StoredFilter.alertFirst, hname]
    by_cases h : f.name = name
    · rw [if_pos h, if_pos h]
      rfl
    · rw [if_neg h, if_neg h, List.map_cons, ih]

lemma current_alertFirst (r : Registry) (name : String) (alert : Json) :
    Registry.current { r with filters := Session.alertFirst name alert r.filters } =
      { r.current with filters := StoredFilter.alertFirst name alert r.current.filters } := by
  simp only [Registry.current, map_alertFirst]

/-! ## Compiled filters stay compiled -/

/-- Changing an alert leaves the query of a filter. -/
lemma isCompiled_alertFirst {name : String} {alert : Json} {fs : List Filter}
    (h : ∀ f ∈ fs, f.IsCompiled index) :
    ∀ f ∈ Session.alertFirst name alert fs, f.IsCompiled index := by
  induction fs with
  | nil => exact h
  | cons f fs ih =>
    rw [List.forall_mem_cons] at h
    rw [Session.alertFirst]
    split_ifs
    · exact List.forall_mem_cons.2 h
    · exact List.forall_mem_cons.2 ⟨h.1, ih h.2⟩

/-! ## What a change does -/

/-- Forgetting the result of a write that tells something leaves the write. -/
lemma saveAnd_forget {α : Type} (s : Session) (a : α) :
    (s.saveAnd a).map id (·.map fun _ => ()) = s.save := by
  rw [Session.saveAnd]
  cases s.save with
  | mk s' result =>
    cases result with
    | error e => rfl
    | ok u => rfl

lemma setAlert_eq (name : String) (text : Option String) (s : Session) :
    s.setAlert name text = match s.registry.get? name with
      | none => (s, .error (.notFound name))
      | some f =>
        Session.saveAnd { s with registry := { s.registry with
          filters := Session.alertFirst name (StoredFilter.alertOf text) s.registry.filters } }
          { f with alert := StoredFilter.alertOf text } := by
  unfold Session.setAlert
  cases text with
  | none => rfl
  | some text => rfl

/-- A change that is refused leaves the session as it was, and is not written. -/
lemma run_of_effect_none (h : c.effect s.index s.registry.current = none) :
    ∃ e, c.run s = (s, .error e) ∧ ∀ cause, e ≠ .save cause := by
  cases c with
  | add name =>
    rw [effect, contains_current] at h
    rw [run, Session.add]
    cases hc : s.registry.contains name with
    | true => exact ⟨.duplicate name, rfl, nofun⟩
    | false =>
      cases hq : Query.compile s.index name with
      | ok query =>
        rw [hc, hq] at h
        cases h
      | error e =>
        rw [Filter.compile_eq, hq]
        exact ⟨.tooLong e, rfl, nofun⟩
  | setAlert name text =>
    rw [effect, contains_current, ← isSome_get?] at h
    rw [run, setAlert_eq]
    cases hg : s.registry.get? name with
    | none => exact ⟨.notFound name, rfl, nofun⟩
    | some f =>
      rw [hg] at h
      cases h
  | enable =>
    rw [effect] at h
    split_ifs at h with hnone
    exact ⟨.noWebhook, if_pos hnone, nofun⟩
  | remove name => cases h
  | setGlobalAlert text => cases h
  | setWebhook w => cases h
  | disable => cases h

/-- A change that is not refused writes a registry whose settings are those of its effect. -/
lemma run_of_effect_some (h : c.effect s.index s.registry.current = some t) :
    ∃ r n, c.run s = Session.save { s with registry := r, nextSerial := n } ∧ r.current = t ∧
      (s.registry.IsCompiled s.index → r.IsCompiled s.index) := by
  cases c with
  | add name =>
    rw [effect, contains_current] at h
    cases hc : s.registry.contains name with
    | true =>
      rw [hc] at h
      cases h
    | false =>
      cases hq : Query.compile s.index name with
      | error e =>
        rw [hc, hq] at h
        cases h
      | ok query =>
        rw [hc, hq] at h
        cases h
        refine ⟨_, s.nextSerial + 1, ?_, current_append s.registry
          ⟨name, query, .null, s.nextSerial⟩, fun hr => ?_⟩
        · rw [run, Session.add, hc, Filter.compile_eq, hq]
          exact saveAnd_forget _ _
        · exact List.forall_mem_append.2 ⟨hr, List.forall_mem_singleton.2 hq⟩
  | remove name =>
    cases h
    refine ⟨_, s.nextSerial, saveAnd_forget _ _, current_filter s.registry name, fun hr f hf => ?_⟩
    exact hr f (List.mem_filter.1 hf).1
  | setAlert name text =>
    rw [effect, contains_current, ← isSome_get?] at h
    cases hg : s.registry.get? name with
    | none =>
      rw [hg] at h
      cases h
    | some f =>
      rw [hg] at h
      cases h
      refine ⟨_, s.nextSerial, ?_, current_alertFirst s.registry name _, isCompiled_alertFirst⟩
      rw [run, setAlert_eq, hg]
      exact saveAnd_forget _ _
  | setGlobalAlert text =>
    cases h
    exact ⟨_, s.nextSerial, rfl, rfl, id⟩
  | setWebhook w =>
    cases h
    exact ⟨_, s.nextSerial, rfl, rfl, id⟩
  | enable =>
    rw [effect] at h
    split_ifs at h with hnone
    cases h
    exact ⟨_, s.nextSerial, if_neg hnone, rfl, id⟩
  | disable =>
    cases h
    exact ⟨_, s.nextSerial, rfl, rfl, id⟩

/-- A change that succeeds leaves the settings of its effect in the registry and in the file. -/
lemma run_ok (hr : s.registry.IsCompiled s.index) (h : c.run s = (s', .ok ())) :
    c.effect s.index s.registry.current = some s'.registry.current ∧
      s'.registry.IsCompiled s.index ∧ s'.store = s.store ∧ s'.index = s.index ∧
      s.store.Keeps s'.registry.current s'.disk := by
  cases he : c.effect s.index s.registry.current with
  | none =>
    obtain ⟨e, hrun, -⟩ := run_of_effect_none he
    rw [hrun] at h
    cases h
  | some t =>
    obtain ⟨r, n, hrun, rfl, hcompiled⟩ := run_of_effect_some he
    rw [hrun] at h
    have hwrote := Session.save_ok h
    refine ⟨congrArg some hwrote.current.symm, ?_, hwrote.store, hwrote.index, ?_⟩
    · rw [Registry.IsCompiled, hwrote.filters]
      exact hcompiled hr
    · rw [hwrote.current]
      exact hwrote.keeps

/-- A change that is not refused succeeds on a file that can be written. -/
lemma run_of_holds {u : Settings} (hu : s.store.Holds u s.disk)
    (h : c.effect s.index s.registry.current = some t) : ∃ s', c.run s = (s', .ok ()) := by
  obtain ⟨r, n, hrun, rfl, -⟩ := run_of_effect_some h
  obtain ⟨disk, hsave⟩ := hu.save r.current
  rw [hrun]
  exact ⟨_, @Session.save_eq disk { s with registry := r, nextSerial := n } hsave⟩

/-! ## Plain settings stay plain -/

lemma isPlain_alertOf (text : Option String) : (StoredFilter.alertOf text).IsPlain := by
  cases text with
  | none => exact .null
  | some text =>
    rw [StoredFilter.alertOf]
    split_ifs
    · exact .null
    · exact .str

lemma isPlain_alertFirst {name : String} {alert : Json} {fs : List StoredFilter}
    (halert : alert.IsPlain) (h : ∀ f ∈ fs, f.alert.IsPlain) :
    ∀ f ∈ StoredFilter.alertFirst name alert fs, f.alert.IsPlain := by
  induction fs with
  | nil => exact h
  | cons f fs ih =>
    rw [List.forall_mem_cons] at h
    rw [StoredFilter.alertFirst]
    split_ifs
    · exact List.forall_mem_cons.2 ⟨halert, h.2⟩
    · exact List.forall_mem_cons.2 ⟨h.1, ih h.2⟩

/-- A plain change leaves plain settings plain. -/
lemma effect_isPlain {u : Settings} (hc : c.IsPlain) (hu : u.IsPlain)
    (h : c.effect index u = some t) : t.IsPlain := by
  obtain ⟨halert, hlocation⟩ := hu
  cases c with
  | add name =>
    rw [effect] at h
    split at h
    next =>
      cases h
      exact ⟨List.forall_mem_append.2 ⟨halert, List.forall_mem_singleton.2 .null⟩, hlocation⟩
    next => cases h
  | remove name =>
    cases h
    exact ⟨fun f hf => halert f (List.mem_filter.1 hf).1, hlocation⟩
  | setAlert name text =>
    rw [effect] at h
    split_ifs at h
    cases h
    exact ⟨isPlain_alertFirst (isPlain_alertOf text) halert, hlocation⟩
  | setGlobalAlert text =>
    cases h
    exact ⟨halert, hlocation⟩
  | setWebhook w =>
    cases h
    refine ⟨halert, ?_⟩
    rintro _ ⟨⟩
    exact hc
  | enable =>
    rw [effect] at h
    split_ifs at h
    cases h
    exact ⟨halert, hlocation⟩
  | disable =>
    cases h
    exact ⟨halert, hlocation⟩

end Change

end FeedWatch
