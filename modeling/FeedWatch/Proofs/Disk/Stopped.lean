import FeedWatch.Proofs.Disk.Replace

/-!
# Replacements that do not finish

A replacement is refused, or it is stopped at one of its stages, and then the fresh file has come
and gone.  Main statement: a replacement that did not finish could not make the folder of the file,
or every path leads to what it led to once the folder was made (`find?_of_replace_error`).
-/

namespace FeedWatch.Disk

variable {d d' : Disk} {p q spare : Path} {stop : Option Stage} {content : ByteArray}

lemma AgreeOff.symm (h : AgreeOff spare d d') : AgreeOff spare d' d := fun q hq => (h q hq).symm

/-! ## The fresh file -/

/-- What a path leads to is still there after a change at a place where there was nothing. -/
lemma find?_of_vacant {n : Node} (hoff : AgreeOff spare d d') (hnone : d.at? spare = none)
    (h : d.find? q = some n) : d'.find? q = some n := by
  have hne : spare ≠ [] := by
    rintro rfl
    exact at?_nil_ne_none hnone
  have hfree : d.at? spare ≠ some .folder := by
    rw [hnone]
    nofun
  obtain ⟨place, hloc, hat⟩ := find?_eq_some_iff.1 h
  obtain ⟨hloc', hbelow⟩ := locate_of_agreeOff hne hfree hoff hloc
  have hoff' : ¬ spare <+: place := by
    intro hpre
    rw [hbelow hpre, hnone] at hat
    cases hat
  exact find?_eq_some_iff.2 ⟨place, hloc', (hoff place hoff').trans hat⟩

/-- A file that has come and gone is missed by no path. -/
lemma find?_of_gone (hoff : AgreeOff spare d d') (hnone : d.at? spare = none)
    (hnone' : d'.at? spare = none) : d'.find? q = d.find? q := by
  refine Option.ext fun n => ⟨?_, ?_⟩
  · exact find?_of_vacant hoff.symm hnone'
  · exact find?_of_vacant hoff hnone

/-- The fresh file of a replacement is missed by no path once it is removed. -/
lemma find?_remove_spare (hoff : AgreeOff spare d d') (hnone : d.at? spare = none)
    (hsystem : ofSystem? spare = none) : (d'.remove spare).find? q = d.find? q := by
  refine find?_of_gone (hoff.trans .remove) hnone ?_
  rw [at?_remove, if_pos List.prefix_rfl, hsystem]

/-! ## What is left -/

/-- A replacement that does not finish could not make the folder of the file, or it leaves what
every path leads to once the folder was made. -/
lemma find?_of_replace_error {e : ReplaceError} (h : d.replace stop p content = (d', .error e)) :
    (∃ e', d.withFolder p.parent = (d', .error e')) ∨
      ∃ dir, d.withFolder p.parent = (dir, .ok ()) ∧ ∀ q, d'.find? q = dir.find? q := by
  rw [replace] at h
  split at h
  next e' hdir =>
    cases h
    exact .inl ⟨e', hdir⟩
  next dir hdir =>
    refine .inr ⟨dir, hdir, fun q => ?_⟩
    dsimp only at h
    have hnone := at?_freshName dir (dir.placeOf p.parent)
    have hsystem := ofSystem?_freshName dir (dir.placeOf p.parent)
    generalize dir.placeOf p.parent ++ [freshName (dir.names (dir.placeOf p.parent))] = spare
      at h hnone hsystem
    have hcreated : AgreeOff spare dir (dir.putFile spare ⟨#[]⟩) := .putFile
    have hwritten : AgreeOff spare dir ((dir.putFile spare ⟨#[]⟩).putFile spare content) :=
      hcreated.trans .putFile
    by_cases hcreate : stop = some .create
    · rw [if_pos hcreate] at h
      cases h
      rfl
    rw [if_neg hcreate] at h
    by_cases hwrite : stop = some .write
    · rw [if_pos hwrite] at h
      cases h
      exact find?_remove_spare hcreated hnone hsystem
    rw [if_neg hwrite] at h
    -- all the ways out from here remove the fresh file with its content
    split at h
    next =>
      cases h
      exact find?_remove_spare hwritten hnone hsystem
    next =>
      split at h
      next =>
        cases h
        exact find?_remove_spare hwritten hnone hsystem
      next =>
        split_ifs at h with hswap
        · cases h
          exact find?_remove_spare hwritten hnone hsystem
        · cases h

/-- A replacement that finishes has not been stopped. -/
lemma replace_none_of_ok (h : d.replace stop p content = (d', .ok ())) :
    d.replace none p content = (d', .ok ()) := by
  cases stop with
  | none => exact h
  | some stage =>
    rw [replace] at h
    split at h
    next => cases h
    next =>
      dsimp only at h
      cases stage with
      | create => cases h
      | write => cases h
      | swap =>
        have hcreate : ¬ some Stage.swap = some .create := by rintro ⟨⟩
        have hwrite : ¬ some Stage.swap = some .write := by rintro ⟨⟩
        rw [if_neg hcreate, if_neg hwrite] at h
        split at h
        next => cases h
        next =>
          split at h
          next => cases h
          next => cases h

end FeedWatch.Disk
