import FeedWatch.Proofs.Disk.Folders

/-!
# Files are replaced

A file that was replaced is found under its path with its new content (`replace_ok`), and from then
on nothing that is done to the file keeps it from being replaced again (`Settled`,
`Settled.replace`).
-/

namespace FeedWatch.Disk

variable {d d' : Disk} {p place q whole : Path}

/-! ## Replacing a file -/

/-- A path leads to a place, however what is at that place changes, and its folder is there. -/
def Settled (p place : Path) (d : Disk) : Prop :=
  ∀ d', AgreeOff place d d' → d'.locate p = .ok place ∧ d'.find? p.parent = some .folder

lemma Settled.locate (h : Settled p place d) : d.locate p = .ok place := (h d .refl).1

lemma Settled.placeOf (h : Settled p place d) : d.placeOf p = place := by
  rw [Disk.placeOf, h.locate]
  rfl

lemma Settled.mono (h : Settled p place d) (hoff : AgreeOff place d d') : Settled p place d' :=
  fun _ hoff' => h _ (hoff.trans hoff')

/-- A path in a folder, at whose end is no folder, does not end at the working directory. -/
lemma ne_nil_of_free (hloc : d.locate p = .ok place) (hfolder : d.find? p.parent = some .folder)
    (hfree : d.at? place ≠ some .folder) : place ≠ [] := by
  rintro rfl
  obtain ⟨start, names, hstart, hfollow⟩ := exists_follow hloc
  have hwalk : d.follow p start names = .ok [] := by rw [← hfollow, hloc]
  -- a path from the root does not end there, and any other one would have had to leave it
  obtain ⟨rfl, rfl⟩ | ⟨rfl, -⟩ := hstart
  · cases names with
    | nil =>
      have hparent : Path.parent [] = [] := rfl
      rw [hparent, find?, hloc] at hfolder
      exact hfree hfolder
    | cons name names =>
      rw [follow] at hwalk
      split at hwalk
      next => cases hwalk
      next => cases hwalk
      next hat => exact hfree hat
  · cases follow_head rfl hwalk

/-- A path is settled once its folder is there and no folder is at its end. -/
lemma settled_of_free (hloc : d.locate p = .ok place) (hfolder : d.find? p.parent = some .folder)
    (hfree : d.at? place ≠ some .folder) : Settled p place d := by
  have hne := ne_nil_of_free hloc hfolder hfree
  exact fun d' hoff =>
    ⟨(locate_of_agreeOff hne hfree hoff hloc).1, find?_of_agreeOff hne hfree hoff hfolder⟩

/-- A fresh file that comes and goes in some folder leaves a path and its folder where they are. -/
lemma swept_of_free (folder : Path) (content : ByteArray) (hloc : d.locate p = .ok place)
    (hfolder : d.find? p.parent = some .folder) (hfree : d.at? place ≠ some .folder) :
    ∃ d', d' = (((d.putFile (folder ++ [freshName (d.names folder)]) ⟨#[]⟩).putFile
        (folder ++ [freshName (d.names folder)]) content).remove
        (folder ++ [freshName (d.names folder)])) ∧
      d'.locate p = .ok place ∧ d'.find? p.parent = some .folder ∧ d'.at? place ≠ some .folder := by
  have hnone := at?_freshName d folder
  have hsystem := ofSystem?_freshName d folder
  generalize folder ++ [freshName (d.names folder)] = spare at hnone hsystem ⊢
  have hspare : d.at? spare ≠ some .folder := by
    rw [hnone]
    nofun
  have hne : spare ≠ [] := by
    rintro rfl
    exact at?_nil_ne_none hnone
  have hoff : AgreeOff spare d (((d.putFile spare ⟨#[]⟩).putFile spare content).remove spare) :=
    AgreeOff.putFile.trans (AgreeOff.putFile.trans .remove)
  obtain ⟨hloc', hbelow⟩ := locate_of_agreeOff hne hspare hoff hloc
  refine ⟨_, rfl, hloc', find?_of_agreeOff hne hspare hoff hfolder, ?_⟩
  -- the path may end at the fresh name itself, where nothing is left
  by_cases hpre : spare <+: place
  · obtain rfl := hbelow hpre
    rw [at?_remove, if_pos hpre, hsystem]
    nofun
  · rwa [hoff place hpre]

/-- A replacement puts the content at the place of its path, once the folder of the path is made
and no folder is at the place itself. -/
lemma replace_eq {dir : Disk} (content : ByteArray) (hdir : d.withFolder p.parent = (dir, .ok ()))
    (hloc : dir.locate p = .ok place) (hfree : dir.at? place ≠ some .folder) :
    ∃ d', d.replace none p content = (d'.putFile place content, .ok ()) ∧ Settled p place d' := by
  obtain ⟨d', hd', hloc', hfolder', hfree'⟩ :=
    swept_of_free (dir.placeOf p.parent) content hloc (withFolder_ok hdir) hfree
  refine ⟨d', ?_, settled_of_free hloc' hfolder' hfree'⟩
  rw [replace, hdir]
  dsimp only
  rw [if_neg nofun, if_neg nofun, hloc]
  dsimp only
  split
  next hat => exact absurd hat hfree
  next => rw [if_neg nofun, hd']

/-- A replacement that succeeds has found no folder at the place of its path. -/
lemma replace_free {content : ByteArray} (h : d.replace none p content = (d', .ok ())) :
    ∃ dir place, d.withFolder p.parent = (dir, .ok ()) ∧ dir.locate p = .ok place ∧
      dir.at? place ≠ some .folder := by
  rw [replace] at h
  split at h
  next => cases h
  next dir hdir =>
    dsimp only at h
    rw [if_neg nofun, if_neg nofun] at h
    split at h
    next => cases h
    next place hloc =>
      split at h
      next => cases h
      next hat => exact ⟨dir, place, hdir, hloc, hat⟩

/-- A file that was replaced is there with its new content, and its path is settled. -/
lemma replace_ok {content : ByteArray} (h : d.replace none p content = (d', .ok ())) :
    ∃ place stamp, Settled p place d' ∧ d'.at? place = some (.file content stamp) := by
  obtain ⟨dir, place, hdir, hloc, hfree⟩ := replace_free h
  obtain ⟨d₁, heq, hset⟩ := replace_eq content hdir hloc hfree
  rw [heq] at h
  cases h
  refine ⟨place, d₁.lastStamp + 1, hset.mono .putFile, ?_⟩
  rw [at?_putFile, if_pos rfl]

/-- A file on a settled path can be replaced. -/
lemma Settled.replace (content : ByteArray) (h : Settled p place d)
    (hfree : d.at? place ≠ some .folder) : ∃ d', d.replace none p content = (d', .ok ()) := by
  obtain ⟨hloc, hfolder⟩ := h d .refl
  obtain ⟨d', heq, -⟩ := replace_eq content (withFolder_of_find? hfolder) hloc hfree
  exact ⟨_, heq⟩

end FeedWatch.Disk
