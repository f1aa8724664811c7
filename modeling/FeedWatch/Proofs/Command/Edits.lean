import FeedWatch.Command.Basic
import FeedWatch.Proofs.Registry.Change
import FeedWatch.Proofs.Webhook

/-!
# Edits work on settings

Each edit of the settings file opens a registry on it, which writes the file before anything else is
done.  What the file means is changed by the edit itself only, as `Edit.effect` says of settings
alone.  Main statements: an edit leaves a file that can be opened again and holds the settings of
its effect, or those of before if it is refused (`Edit.perform_follows`), and so a sequence of edits
does to the file what their effects do to the settings that were loaded (`load_foldl_perform`).
The values that these statements ask to be plain always are when an edit comes from a command line
(`isPlain_of_line`).
-/

namespace FeedWatch.Command

/-- The settings file can be read, as plain settings, and a registry can be opened on it. -/
structure Opens (store : Store) (s : Settings) (d : Disk) : Prop where
  load : store.load d = .ok s
  plain : s.IsPlain
  opens : ∃ d' session, Session.openOn store .empty d 0 = (d', .ok session)

namespace Edit

/-- What settings become by an edit, unless it is refused. -/
def effect (s : Settings) : Edit → Option Settings
  | enable => Change.enable.effect .empty s
  | disable => Change.disable.effect .empty s
  | setWebhook url location =>
    (Webhook.ofUrl? url location).bind fun w => (Change.setWebhook w).effect .empty s
  | setAlert text => (Change.setGlobalAlert text).effect .empty s
  | add name => (Change.add (Text.lower name)).effect .empty s
  | remove name => (Change.remove (Text.lower name)).effect .empty s
  | setFilterAlert name text => (Change.setAlert (Text.lower name) text).effect .empty s
  | list _ => some s

/-- The settings after an edit, which are those of before if it is refused. -/
def after (s : Settings) (e : Edit) : Settings := (e.effect s).getD s

/-- An edit that brings no value into the settings but a plain one. -/
def IsPlain : Edit → Prop
  | setWebhook _ location => location.IsPlain
  | _ => True

variable {α : Type} {store : Store} {s : Settings} {d : Disk}

/-! ## Opening for an edit -/

lemma opens_of_keeps (hs : s.IsPlain) (hcompiles : ∀ f ∈ s.filters, f.Compiles .empty)
    (h : store.Keeps s d) : Opens store s d :=
  have hholds := h.holds hs
  ⟨hholds.load, hs, Session.openOn_of_holds hholds hcompiles⟩

/-- An edit works on a registry that has the settings of the file and has just written them. -/
lemma work_eq (h : Opens store s d) (act : Session → Session.Outcome α)
    (tell : Registry → α → List (String × Json)) :
    ∃ session, session.registry.current = s ∧ session.registry.IsCompiled session.index ∧
      session.store = store ∧ session.index = .empty ∧ store.Keeps s session.disk ∧
      work store d act tell =
        ((act session).1.disk, (act session).2.map (tell (act session).1.registry)) := by
  obtain ⟨d', session, hopen⟩ := h.opens
  obtain ⟨t, hload, hcurrent, hcompiled, hstore, hindex, rfl, hkeeps⟩ := Session.openOn_ok hopen
  obtain rfl : t = s := Except.ok.inj (hload.symm.trans h.load)
  refine ⟨session, hcurrent, hindex ▸ hcompiled, hstore, hindex, hkeeps, ?_⟩
  rw [work, hopen]

/-- A result follows an effect on settings: it leaves a file with the new settings, or with those of
before if there is no effect, and it succeeds exactly when there is one. -/
structure Follows (store : Store) (s : Settings) (effect : Option Settings) (r : Result) : Prop where
  opens : Opens store (effect.getD s) r.1
  succeeds : (∃ members, r.2 = .ok members) ↔ effect.isSome

lemma follows_refused {r : Result} {e : RegistryError} (h : Opens store s r.1)
    (hr : r.2 = .error e) : Follows store s none r := by
  refine ⟨h, ?_, ?_⟩
  · rintro ⟨members, hok⟩
    rw [hr] at hok
    cases hok
  · intro hsome
    cases hsome

lemma follows_done {t : Settings} {r : Result} {members : List (String × Json)}
    (h : Opens store t r.1) (hr : r.2 = .ok members) : Follows store s (some t) r :=
  ⟨h, fun _ => rfl, fun _ => ⟨members, hr⟩⟩

/-- An edit that makes a change follows the effect of the change. -/
lemma work_follows {act : Session → Session.Outcome α} {tell : Registry → α → List (String × Json)}
    {c : Change} (hact : ∀ session, (act session).map id (·.map fun _ => ()) = c.run session)
    (hc : c.IsPlain) (h : Opens store s d) :
    Follows store s (c.effect .empty s) (work store d act tell) := by
  obtain ⟨session, rfl, hcompiled, rfl, hindex, hkeeps, hwork⟩ := work_eq h act tell
  rw [hwork]
  have hrun := hact session
  generalize act session = outcome at hrun ⊢
  obtain ⟨s', result⟩ := outcome
  rw [Prod.map_apply, id] at hrun
  cases he : c.effect .empty session.registry.current with
  | none =>
    -- the file stays as it was written when the registry was opened
    rw [← hindex] at he
    obtain ⟨e, hfail, -⟩ := Change.run_of_effect_none he
    rw [hfail, Prod.mk.injEq] at hrun
    obtain ⟨rfl, hresult⟩ := hrun
    cases result with
    | ok a => cases hresult
    | error e' =>
      refine follows_refused (opens_of_keeps h.plain ?_ hkeeps) rfl
      exact hindex ▸ hcompiled.compiles
  | some t =>
    have hplain := Change.effect_isPlain hc h.plain he
    rw [← hindex] at he
    obtain ⟨s₁, hdone⟩ := Change.run_of_holds (hkeeps.holds h.plain) he
    obtain ⟨heffect, hcompiled', -, hindex', hkeeps'⟩ := Change.run_ok hcompiled hdone
    obtain rfl : s₁.registry.current = t := Option.some.inj (heffect.symm.trans he)
    rw [hdone, Prod.mk.injEq] at hrun
    obtain ⟨rfl, hresult⟩ := hrun
    cases result with
    | error e => cases hresult
    | ok a =>
      refine follows_done (opens_of_keeps hplain ?_ hkeeps') rfl
      exact hindex ▸ hcompiled'.compiles

lemma map_unit (o : Session.Outcome Unit) : o.map id (·.map fun _ => ()) = o := by
  obtain ⟨s, result⟩ := o
  cases result with
  | error e => rfl
  | ok u => rfl

/-- Every edit follows its effect. -/
lemma perform_follows (h : Opens store s d) {e : Edit} (he : e.IsPlain) :
    Follows store s (e.effect s) (perform store d e) := by
  cases e with
  | enable =>
    rw [effect, perform]
    exact work_follows (fun _ => map_unit _) trivial h
  | disable =>
    rw [effect, perform]
    exact work_follows (fun _ => map_unit _) trivial h
  | setWebhook url location =>
    rw [effect, perform]
    cases hw : Webhook.ofUrl? url location with
    | none => exact follows_refused h rfl
    | some w =>
      have hw : (Change.setWebhook w).IsPlain := by
        rw [Change.IsPlain, Webhook.ofUrl?_location hw]
        exact he
      exact work_follows (fun _ => map_unit _) hw h
  | setAlert text =>
    rw [effect, perform]
    exact work_follows (fun _ => map_unit _) trivial h
  | add name =>
    rw [effect, perform]
    exact work_follows (fun _ => rfl) trivial h
  | remove name =>
    rw [effect, perform]
    exact work_follows (fun _ => rfl) trivial h
  | setFilterAlert name text =>
    rw [effect, perform]
    exact work_follows (fun _ => rfl) trivial h
  | list page =>
    rw [perform]
    obtain ⟨session, rfl, hcompiled, -, hindex, hkeeps, hwork⟩ :=
      work_eq h (fun s => (s, .ok (s.registry.page page))) fun r p =>
        [("enabled", .bool r.settings.enabled), ("alert", .str r.settings.alert)] ++ p.toMembers
    rw [hwork]
    refine follows_done (opens_of_keeps h.plain ?_ hkeeps) rfl
    exact hindex ▸ hcompiled.compiles

/-- A sequence of edits leaves a file that can be opened and holds the settings that their effects
lead to. -/
lemma foldl_perform_opens (h : Opens store s d) {edits : List Edit}
    (hedits : ∀ e ∈ edits, e.IsPlain) :
    Opens store (edits.foldl after s) (edits.foldl (fun d e => (perform store d e).1) d) := by
  induction edits generalizing s d with
  | nil => exact h
  | cons e edits ih =>
    rw [List.forall_mem_cons] at hedits
    exact ih (perform_follows h hedits.1).opens hedits.2

end Edit

/-! ## Edits on command lines -/

/-- A sequence of edits on a file on which a registry can be opened leaves a file that is loaded as
what their effects make of the settings at first, and any edit that comes next succeeds exactly when
it has an effect on these settings. -/
theorem load_foldl_perform {store : Store} {d : Disk} {session : Session} {edits : List Edit}
    (hplain : ∀ s, store.load d = .ok s → s.IsPlain)
    (hopen : (Session.openOn store .empty d 0).2 = .ok session)
    (hedits : ∀ e ∈ edits, e.IsPlain) :
    ∃ s, store.load d = .ok s ∧
      store.load (edits.foldl (fun d e => (e.perform store d).1) d) =
        .ok (edits.foldl Edit.after s) ∧
      ∀ e : Edit, e.IsPlain →
        ((∃ members, (e.perform store (edits.foldl (fun d e => (e.perform store d).1) d)).2 =
          .ok members) ↔ (e.effect (edits.foldl Edit.after s)).isSome) := by
  obtain ⟨s, hload, -⟩ := Session.openOn_ok (Prod.ext rfl hopen)
  have hopens := Edit.foldl_perform_opens ⟨hload, hplain s hload, _, session, Prod.ext rfl hopen⟩
    hedits
  exact ⟨s, hload, hopens.load, fun e he => (Edit.perform_follows hopens he).succeeds⟩

/-- Edits of a new installation, of which one finds no webhook, one repeats a filter, one has a bad
address and one changes nothing. -/
theorem load_foldl_perform_installation :
    let store : Store := ⟨["data", "a.json"], "!"⟩
    let edits : List Edit := [.enable, .add "Pants", .add "PANTS", .setFilterAlert "pantS" (some "é"),
      .setWebhook "https://a/b" .null, .setWebhook "https://a/webhooks/1/t" (.str "b"), .enable,
      .remove "Tokens0+", .list 1]
    (∀ s, store.load .empty = .ok s → s.IsPlain) ∧
      (∃ session, (Session.openOn store .empty .empty 0).2 = .ok session) ∧
      (∀ e ∈ edits, e.IsPlain) ∧
      store.load (edits.foldl (fun d e => (e.perform store d).1) .empty) =
        .ok ⟨true, [⟨"pants", .str "é"⟩], Settings.firstAlert "!", some ⟨"1", "t", .str "b"⟩⟩ := by
  intro store edits
  have hexists : Disk.empty.exists? ["data", "a.json"] = .ok false := rfl
  have hload : store.load .empty = .ok (Settings.initial "!") := by
    rw [Store.load, hexists]
  have hplain : ∀ s, store.load .empty = .ok s → s.IsPlain := by
    intro s hs
    rw [hload] at hs
    cases hs
    exact Settings.isPlain_initial "!"
  have hedits : ∀ e ∈ edits, e.IsPlain := by
    intro e he
    cases e with
    | setWebhook url location =>
      simp only [edits, List.mem_cons, Edit.setWebhook.injEq, reduceCtorEq, List.not_mem_nil,
        false_or, or_false] at he
      obtain ⟨-, rfl⟩ | ⟨-, rfl⟩ := he
      · exact .null
      · exact .str
    | _ => trivial
  obtain ⟨session, hopen⟩ : ∃ session,
      (Session.openOn ⟨["data", "a.json"], "!"⟩ .empty .empty 0).2 = .ok session := ⟨_, rfl⟩
  have hfold : edits.foldl Edit.after (Settings.initial "!") =
      ⟨true, [⟨"pants", .str "é"⟩], Settings.firstAlert "!", some ⟨"1", "t", .str "b"⟩⟩ := by
    rfl
  obtain ⟨s, hs, hfinal, -⟩ := load_foldl_perform hplain hopen hedits
  rw [hload] at hs
  cases hs
  exact ⟨hplain, ⟨session, hopen⟩, hedits, hfold ▸ hfinal⟩

end FeedWatch.Command
