import FeedWatch.Proofs.Registry.Change

/-!
# Changes that fail

A change of a registry fails in one of two ways: it is refused, and then nothing happens at all, or
it cannot be written, and then it has been made in memory already.  Main statement: a failed change
leaves what is seen through the registry as it was exactly when it was refused or would not have
changed it (`Change.current_eq_iff_of_failed`).  A common text that cannot be written, since there
is a folder in the place of the settings file, is a case in which it is not left as it was
(`Change.current_ne_of_folder`).
-/

namespace FeedWatch

variable {s s' : Session} {err : RegistryError}

/-- Writing keeps what is seen through a registry, and fails at the settings file. -/
lemma Session.save_error (h : s.save = (s', .error err)) :
    s'.registry.current = s.registry.current ∧ ∃ e, err = .save e := by
  rw [save] at h
  cases hsave : s.store.save s.registry.current s.disk with
  | mk disk result =>
    rw [hsave] at h
    cases result with
    | ok u => cases h
    | error e =>
      cases h
      exact ⟨rfl, e, rfl⟩

namespace Change

variable {c : Change}

/-- A change that fails is refused, and then nothing has happened, or it cannot be written, and then
it has been made. -/
lemma run_error (h : c.run s = (s', .error err)) :
    ((∀ e, err ≠ .save e) ∧ c.effect s.index s.registry.current = none ∧ s' = s) ∨
      (∃ e, err = .save e) ∧ c.effect s.index s.registry.current = some s'.registry.current := by
  cases heffect : c.effect s.index s.registry.current with
  | none =>
    obtain ⟨e, hrun, hrefused⟩ := run_of_effect_none heffect
    rw [hrun] at h
    cases h
    exact .inl ⟨hrefused, rfl, rfl⟩
  | some t =>
    obtain ⟨r, n, hrun, rfl, -⟩ := run_of_effect_some heffect
    rw [hrun] at h
    obtain ⟨hcurrent, hsave⟩ := Session.save_error h
    exact .inr ⟨hsave, congrArg some hcurrent.symm⟩

/-- A failed change that is refused changes nothing, one that cannot be written is made all the
same; so what is seen through the registry is left as it was exactly when the change is refused or
makes no difference. -/
theorem current_eq_iff_of_failed (h : c.run s = (s', .error err)) :
    ((∀ e, err ≠ .save e) → s' = s) ∧
      (∀ e, err = .save e →
        c.effect s.index s.registry.current = some s'.registry.current) ∧
      (s'.registry.current = s.registry.current ↔ (∀ e, err ≠ .save e) ∨
        c.effect s.index s.registry.current = some s.registry.current) := by
  obtain ⟨hrefused, -, rfl⟩ | ⟨⟨e, rfl⟩, heffect⟩ := run_error h
  · exact ⟨fun _ => rfl, fun e he => absurd he (hrefused e), fun _ => .inl hrefused, fun _ => rfl⟩
  · refine ⟨fun hne => absurd rfl (hne e), fun _ _ => heffect, fun hcurrent => .inr ?_, ?_⟩
    · rw [heffect, hcurrent]
    · rintro (hne | hsame)
      · exact absurd rfl (hne e)
      · exact Option.some.inj (heffect.symm.trans hsame)

/-- A registry is opened, a folder comes in the place of its file, and alerts that are off are
switched off: this fails, and is not seen. -/
theorem current_eq_of_folder :
    ∃ disk s, Session.openOn ⟨["a.json"], "!"⟩ .empty .empty 0 = (disk, .ok s) ∧
      ∃ s' err, disable.run { s with disk := disk.putFolder ["a.json"] } = (s', .error err) ∧
        s'.registry.current = s.registry.current := by
  have hfailed : ∃ disk s, Session.openOn ⟨["a.json"], "!"⟩ .empty .empty 0 = (disk, .ok s) ∧
      ∃ s' e, disable.run { s with disk := disk.putFolder ["a.json"] } = (s', .error (.save e)) ∧
        disable.effect s.index s.registry.current = some s.registry.current :=
    ⟨_, _, rfl, _, _, rfl, rfl⟩
  obtain ⟨disk, s, hopen, s', e, hrun, heffect⟩ := hfailed
  obtain ⟨-, -, hcurrent⟩ := current_eq_iff_of_failed hrun
  exact ⟨disk, s, hopen, s', _, hrun, hcurrent.2 (.inr heffect)⟩

/-- A registry is opened, a folder comes in the place of its file, and the common text is changed:
this fails, and the new text is seen. -/
theorem current_ne_of_folder :
    ∃ disk s, Session.openOn ⟨["a.json"], "!"⟩ .empty .empty 0 = (disk, .ok s) ∧
      ∃ s' err, (setGlobalAlert "new").run { s with disk := disk.putFolder ["a.json"] } =
          (s', .error err) ∧
        s.registry.current.alert ≠ "new" ∧ s'.registry.current.alert = "new" := by
  refine ⟨_, _, rfl, ?_⟩
  refine ⟨_, .save (.disk (.isFolder ["a.json"])), rfl, ?_, rfl⟩
  decide +kernel

end Change

end FeedWatch
