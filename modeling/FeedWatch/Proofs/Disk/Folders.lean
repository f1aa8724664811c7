import FeedWatch.Proofs.Disk.Paths
import FeedWatch.Proofs.Except

/-!
# Folders are made

Making a folder makes the folders above it too, and leaves those that it has made when it is
refused.  Main statements: a folder that was made is there (`withFolder_ok`), all that making it
changes is that there are folders on its path where there was nothing (`opens_withFolder`), and what
was refused is refused again (`barred_of_error`).
-/

namespace FeedWatch.Disk

variable {d d' d₁ d₂ d₃ : Disk} {p q : Path} {e : DiskError} {result : Except DiskError Unit}

/-! ## Changes on a path -/

/-- Where there was nothing there is a folder now, which a front part of a path leads to. -/
structure Opened (p : Path) (d d' : Disk) (q : Path) : Prop where
  free : d.at? q = none
  folder : d'.at? q = some .folder
  onPath : ∃ r, r <+: p ∧ d'.locate r = .ok q

/-- All places hold what they held, but for folders on a path where there was nothing. -/
def Opens (p : Path) (d d' : Disk) : Prop := ∀ q, d'.at? q = d.at? q ∨ Opened p d d' q

namespace Opens

lemma refl : Opens p d d := fun _ => .inl rfl

lemma toExtends (h : Opens p d d') : Extends d d' := by
  intro q n hq
  obtain hsame | ⟨hnone, -⟩ := h q
  · rw [hsame, hq]
  · rw [hnone] at hq
    cases hq

lemma trans (h : Opens p d₁ d₂) (h' : Opens p d₂ d₃) : Opens p d₁ d₃ := by
  intro q
  obtain hsame | ⟨hnone, hfolder, r, hr, hloc⟩ := h q
  · obtain hsame' | ⟨hnone, hfolder, hpath⟩ := h' q
    · exact .inl (hsame'.trans hsame)
    · exact .inr ⟨hsame ▸ hnone, hfolder, hpath⟩
  · exact .inr ⟨hnone, h'.toExtends q _ hfolder, r, hr, h'.toExtends.locate hloc⟩

lemma mono {p' : Path} (h : Opens p d d') (hp : p <+: p') : Opens p' d d' := by
  intro q
  obtain hsame | ⟨hnone, hfolder, r, hr, hloc⟩ := h q
  · exact .inl hsame
  · exact .inr ⟨hnone, hfolder, r, hr.trans hp, hloc⟩

end Opens

/-! ## One folder -/

lemma makeOne_ok (h : d.makeOne p = .ok d') : Opens p d d' ∧ d'.find? p = some .folder := by
  rw [makeOne] at h
  cases hloc : d.locate p with
  | error e =>
    rw [hloc] at h
    cases h
  | ok place =>
    rw [hloc] at h
    dsimp only at h
    split_ifs at h with hsome
    cases h
    have hnone : d.at? place = none := by simpa using hsome
    have hat : ∀ q, at? ⟨set place .folder d.nodes, d.lastStamp⟩ q =
        if q = place then some .folder else d.at? q := by
      intro q
      rw [at?, lookup_set]
      split_ifs <;> rfl
    have hextends : Extends d ⟨set place .folder d.nodes, d.lastStamp⟩ := by
      intro q n hq
      rw [hat, if_neg, hq]
      rintro rfl
      rw [hnone] at hq
      cases hq
    have hloc' := hextends.locate hloc
    have hfolder := (hat place).trans (if_pos rfl)
    refine ⟨fun q => ?_, find?_eq_some_iff.2 ⟨place, hloc', hfolder⟩⟩
    by_cases hq : q = place
    · subst hq
      exact .inr ⟨hnone, hfolder, p, List.prefix_rfl, hloc'⟩
    · exact .inl ((hat q).trans (if_neg hq))

lemma orThere_ok (h : d.orThere p e = .ok ()) : d.find? p = some .folder := by
  rw [orThere] at h
  split at h
  next hfind => exact hfind
  next => cases h

lemma ensureOne_ok (h : d.ensureOne p = (d', .ok ())) : d'.find? p = some .folder := by
  rw [ensureOne] at h
  split at h
  next hone =>
    cases h
    exact (makeOne_ok hone).2
  next => cases h
  next => cases h
  next =>
    obtain ⟨rfl, hthere⟩ := Prod.ext_iff.1 h
    exact orThere_ok hthere

/-- A folder that cannot be made leaves the disk. -/
lemma ensureOne_error (h : d.ensureOne p = (d', .error e)) : d' = d := by
  rw [ensureOne] at h
  split at h
  next => cases h
  next =>
    cases h
    rfl
  next =>
    cases h
    rfl
  next => exact (Prod.ext_iff.1 h).1.symm

lemma opens_ensureOne : Opens p d (d.ensureOne p).1 := by
  rw [ensureOne]
  split
  next hone => exact (makeOne_ok hone).1
  next => exact .refl
  next => exact .refl
  next => exact .refl

/-- A folder is made only where there is one above it. -/
lemma find?_parent_of_ensureOne (hparent : p.parent ≠ p) (h : d.ensureOne p = (d', .ok ())) :
    d.find? p.parent = some .folder := by
  rw [ensureOne] at h
  split at h
  next hone =>
    rw [makeOne] at hone
    split at hone
    next => cases hone
    next hloc => exact find?_parent_of_locate hloc hparent
  next => cases h
  next => cases h
  next =>
    obtain ⟨place, hloc, -⟩ := find?_eq_some_iff.1 (orThere_ok (Prod.ext_iff.1 h).2)
    exact find?_parent_of_locate hloc hparent

lemma ensureOne_of_find? (h : d.find? p = some .folder) : d.ensureOne p = (d, .ok ()) := by
  have hone : d.makeOne p = .error (.occupied p) := by
    obtain ⟨q, hloc, hat⟩ := find?_eq_some_iff.1 h
    rw [makeOne, hloc]
    simp [hat]
  rw [ensureOne, hone]
  simp [orThere, h]

/-! ## A folder and those above it -/

lemma length_parent (h : p.parent ≠ p) : p.length = p.parent.length + 1 := by
  obtain ⟨-, name, hname⟩ := exists_concat h
  have hlength := congrArg List.length hname
  rwa [List.length_append] at hlength

/-- What holds of a path if it holds of the folder above, where there is one, holds of all. -/
lemma parent_induction {motive : Path → Prop}
    (step : ∀ p : Path, (p.parent ≠ p → motive p.parent) → motive p) (p : Path) : motive p := by
  generalize hlength : p.length = n
  induction n using Nat.strong_induction_on generalizing p with
  | _ n ih =>
    refine step p fun hparent => ih p.parent.length ?_ _ rfl
    rw [← hlength, length_parent hparent]
    exact Nat.lt_succ_self _

/-- A folder is made alone, unless there is none above it; then the one above it is made first. -/
lemma withFolder_cases (h : d.withFolder p = (d', result)) :
    d.ensureOne p = (d', result) ∨ p.parent ≠ p ∧ (∃ q, d.ensureOne p = (d, .error (.missing q))) ∧
      ((∃ e, result = .error e ∧ d.withFolder p.parent = (d', .error e)) ∨
        ∃ dir, d.withFolder p.parent = (dir, .ok ()) ∧ dir.ensureOne p = (d', result)) := by
  rw [withFolder, makeFolders] at h
  split at h
  next d₁ q hone =>
    cases ensureOne_error hone
    split at h
    next =>
      cases h
      exact .inl hone
    next hparent =>
      refine .inr ⟨hparent, ⟨q, hone⟩, ?_⟩
      rw [length_parent hparent] at h
      split at h
      next e habove =>
        cases h
        exact .inl ⟨e, rfl, habove⟩
      next dir habove => exact .inr ⟨dir, habove, h⟩
  next => exact .inl h

/-- A folder that was made is there. -/
lemma withFolder_ok (h : d.withFolder p = (d', .ok ())) : d'.find? p = some .folder := by
  obtain hone | ⟨-, -, ⟨e, ⟨⟩, -⟩ | ⟨dir, -, hone⟩⟩ := withFolder_cases h
  · exact ensureOne_ok hone
  · exact ensureOne_ok hone

/-- Making a folder that is there changes nothing. -/
lemma withFolder_of_find? (h : d.find? p = some .folder) : d.withFolder p = (d, .ok ()) := by
  rw [withFolder, makeFolders, ensureOne_of_find? h]

lemma makeFolder_eq_ok : d.makeFolder p = .ok d' ↔ d.withFolder p = (d', .ok ()) := by
  rw [makeFolder, Except.map_eq_ok, Prod.ext_iff]
  exact ⟨fun ⟨_, hok, hdisk⟩ => ⟨hdisk, hok⟩, fun ⟨hdisk, hok⟩ => ⟨(), hok, hdisk⟩⟩

lemma parent_isPrefix (p : Path) : p.parent <+: p := by
  rw [Path.parent]
  split_ifs
  · exact List.prefix_rfl
  · exact List.dropLast_prefix p

/-- Making a folder makes folders on its path where there was nothing, and changes nothing else. -/
lemma opens_withFolder (p : Path) : ∀ d, Opens p d (d.withFolder p).1 := by
  induction p using parent_induction with
  | step p ih =>
    intro d
    cases h : d.withFolder p with
    | mk d' result =>
      obtain hone | ⟨hparent, -, hrest⟩ := withFolder_cases h
      · have hopens := @opens_ensureOne d p
        rwa [hone] at hopens
      have habove := (ih hparent d).mono (parent_isPrefix p)
      obtain ⟨e, -, hdir⟩ | ⟨dir, hdir, hone⟩ := hrest
      · rwa [hdir] at habove
      · have hopens := @opens_ensureOne dir p
        rw [hdir] at habove
        rw [hone] at hopens
        exact habove.trans hopens

/-! ## Refusals -/

/-- A folder cannot be made. -/
def Barred (p : Path) (d : Disk) : Prop := ∀ d', d.withFolder p ≠ (d', .ok ())

/-- Where the folder above cannot be made, no folder can. -/
lemma Barred.of_parent (hparent : p.parent ≠ p) (h : d.Barred p.parent) : d.Barred p := by
  intro d' hmade
  obtain hone | ⟨-, -, ⟨e, ⟨⟩, -⟩ | ⟨dir, habove, -⟩⟩ := withFolder_cases hmade
  · exact h d (withFolder_of_find? (find?_parent_of_ensureOne hparent hone))
  · exact h dir habove

/-- What was refused is refused again, on the disk that the refusal has left. -/
lemma barred_of_error (p : Path) : ∀ {d d' : Disk} {e : DiskError},
    d.withFolder p = (d', .error e) → d'.Barred p := by
  induction p using parent_induction with
  | step p ih =>
    intro d d' e h
    obtain hone | ⟨hparent, -, ⟨e', -, habove⟩ | ⟨dir, habove, hone⟩⟩ := withFolder_cases h
    · cases ensureOne_error hone
      intro d'' hmade
      cases h.symm.trans hmade
    · exact (ih hparent habove).of_parent hparent
    · cases ensureOne_error hone
      -- the folder above is there now, so it is not what stands in the way
      have hsame := withFolder_of_find? (withFolder_ok habove)
      intro d'' hmade
      obtain hone' | ⟨-, -, ⟨e', ⟨⟩, -⟩ | ⟨dir', habove', hone'⟩⟩ := withFolder_cases hmade
      · cases hone.symm.trans hone'
      · cases hsame.symm.trans habove'
        cases hone.symm.trans hone'

end FeedWatch.Disk
