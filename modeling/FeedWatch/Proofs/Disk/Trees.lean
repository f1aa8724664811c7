import FeedWatch.Proofs.Disk.Replace

/-!
# Trees of folders

A disk is a tree if all places above whatever it holds are folders.  Making folders and writing
files keep it one.  On a tree nothing is below a fresh name, so the fresh file of a replacement
comes and goes without a trace.  Main statement: the disk that a replacement leaves has the nodes
that it had once the folder of the file was made, and besides, if the replacement finished, the file
(`replace_cases`).
-/

namespace FeedWatch.Disk

variable {d d' dir : Disk} {p q place spare whole : Path} {n : Node} {content : ByteArray}
variable {stop : Option Stage} {result : Except ReplaceError Unit}

/-- All places above a place are folders. -/
def Rooted (place : Path) (d : Disk) : Prop :=
  ∀ q, q <+: place → q ≠ place → d.at? q = some .folder

/-- All places above whatever is on the disk are folders. -/
def IsTree (d : Disk) : Prop := ∀ place n, d.at? place = some n → d.Rooted place

/-! ## Places that paths lead to -/

lemma rooted_nil : d.Rooted [] := fun _ hq hne => absurd (List.prefix_nil.1 hq) hne

lemma Rooted.mono (h : d.Rooted place) (hpre : q <+: place) : d.Rooted q := by
  intro r hr hne
  refine h r (hr.trans hpre) ?_
  rintro rfl
  exact hne (hr.eq_of_length_le hpre.length_le)

lemma Rooted.concat {name : String} (h : d.Rooted place) (hfolder : d.at? place = some .folder) :
    d.Rooted (place ++ [name]) := by
  intro q hq hne
  obtain rfl | hq := List.prefix_concat_iff.1 hq
  · exact absurd rfl hne
  · by_cases heq : q = place
    · rw [heq, hfolder]
    · exact h q hq heq

lemma Rooted.above (h : d.Rooted place) (hfolder : d.at? place = some .folder) :
    d.Rooted place.above := by
  rw [Path.above]
  split_ifs
  · exact h.concat hfolder
  · exact h.mono (parent_isPrefix place)

lemma Rooted.toExtends (h : d.Rooted place) (hmore : Extends d d') : d'.Rooted place :=
  fun q hq hne => hmore q _ (h q hq hne)

/-- A walk over folders stays below folders. -/
lemma rooted_of_follow {start : Path} {names : List String} (hstart : d.Rooted start)
    (h : d.follow whole start names = .ok place) : d.Rooted place := by
  induction names generalizing start with
  | nil =>
    cases h
    exact hstart
  | cons name names ih =>
    rw [follow] at h
    split at h
    next => cases h
    next => cases h
    next hat =>
      split_ifs at h
      · exact ih (hstart.above hat) h
      · exact ih (hstart.concat hat) h

lemma rooted_of_locate (hroot : d.at? [] = some .folder) (h : d.locate p = .ok place) :
    d.Rooted place := by
  obtain ⟨start, names, hstart, hfollow⟩ := exists_follow h
  rw [hfollow] at h
  refine rooted_of_follow ?_ h
  obtain ⟨rfl, -⟩ | ⟨rfl, -⟩ := hstart
  · exact rooted_nil
  · exact rooted_nil.concat hroot

/-- Names without a step up lead to the place that they spell. -/
lemma follow_eq_append {start : Path} {names : List String} (hup : Path.up ∉ names)
    (h : d.follow whole start names = .ok place) : place = start ++ names := by
  induction names generalizing start with
  | nil =>
    cases h
    rw [List.append_nil]
  | cons name names ih =>
    rw [follow] at h
    split at h
    next => cases h
    next => cases h
    next =>
      rw [List.mem_cons, not_or] at hup
      rw [if_neg (Ne.symm hup.1)] at h
      split_ifs at h
      rw [ih hup.2 h, List.append_assoc, List.singleton_append]

/-- Names without a step up that lead to a place somewhere lead there wherever there are folders
above. -/
lemma follow_of_rooted {start : Path} {names : List String} (hup : Path.up ∉ names)
    (h : d'.follow whole start names = .ok place) (hplace : d.Rooted place) :
    d.follow whole start names = .ok place := by
  induction names generalizing start with
  | nil => exact h
  | cons name names ih =>
    have hspelt := follow_eq_append hup h
    have hfolder : d.at? start = some .folder := by
      refine hplace start ⟨_, hspelt.symm⟩ ?_
      rw [hspelt]
      simp
    rw [List.mem_cons, not_or] at hup
    rw [follow] at h ⊢
    rw [hfolder]
    split at h
    next => cases h
    next => cases h
    next =>
      rw [if_neg (Ne.symm hup.1)] at h ⊢
      split_ifs at h ⊢
      exact ih hup.2 h

lemma locate_of_rooted (hup : Path.up ∉ p) (h : d'.locate p = .ok place)
    (hplace : d.Rooted place) : d.locate p = .ok place := by
  obtain ⟨start, names, hstart, hfollow⟩ := exists_follow h
  rw [hfollow] at h ⊢
  refine follow_of_rooted (fun hin => hup ?_) h hplace
  obtain ⟨-, rfl⟩ | ⟨-, rfl⟩ := hstart
  · exact hin
  · exact List.mem_of_mem_tail hin

/-! ## Trees -/

lemma at?_root_ne_none : d.at? ["/"] ≠ none := by
  rw [at?]
  cases d.nodes.lookup ["/"] with
  | some n => exact Option.some_ne_none n
  | none => exact Option.some_ne_none Node.folder

lemma IsTree.root (h : d.IsTree) : d.at? [] = some .folder := by
  obtain ⟨n, hn⟩ := Option.ne_none_iff_exists'.1 (@at?_root_ne_none d)
  exact h _ n hn [] List.nil_prefix (by decide)

lemma ofSystem?_of_isAbove (h : place.isAbove = true) : ofSystem? place = some .folder := by
  unfold ofSystem?
  split
  next => rfl
  next => cases h
  next => cases h
  next => exact if_pos h

/-- What every system has is a tree. -/
lemma empty_isTree : empty.IsTree := by
  intro place n h
  have hsystem : ofSystem? place = some n := h
  have htop : empty.Rooted ["/"] := rooted_nil.concat rfl
  unfold ofSystem? at hsystem
  split at hsystem
  next => exact htop
  next => exact htop.concat rfl
  next =>
    have hdev : empty.Rooted ["/", "dev"] := htop.concat rfl
    exact hdev.concat rfl
  next =>
    split_ifs at hsystem with habove
    intro q hq _
    refine ofSystem?_of_isAbove (List.all_eq_true.2 fun name hname => ?_)
    exact List.all_eq_true.1 habove name (hq.subset hname)

/-- There is nothing below a place where there is nothing. -/
lemma IsTree.free_below (h : d.IsTree) (hnone : d.at? place = none) (hpre : place <+: q) :
    d.at? q = none := by
  by_cases heq : place = q
  · rw [← heq, hnone]
  · rw [Option.eq_none_iff_forall_ne_some]
    intro n hq
    have hfolder := h q n hq place hpre heq
    rw [hnone] at hfolder
    cases hfolder

/-- A tree on which folders are made on a path stays one. -/
lemma IsTree.opens (h : d.IsTree) (hopens : Opens p d d') : d'.IsTree := by
  intro place n hplace
  obtain hsame | ⟨-, -, r, -, hloc⟩ := hopens place
  · rw [hsame] at hplace
    exact (h place n hplace).toExtends hopens.toExtends
  · exact rooted_of_locate (hopens.toExtends _ _ h.root) hloc

/-- A tree stays one when there is something else at a place that has folders above it, and that was
no folder. -/
lemma IsTree.of_at? (h : d.IsTree) (hplace : d.Rooted place) (hfree : d.at? place ≠ some .folder)
    (hat : ∀ q, d'.at? q = if q = place then some n else d.at? q) : d'.IsTree := by
  intro q m hq r hr hne
  have hrooted : d.Rooted q := by
    rw [hat] at hq
    split_ifs at hq with heq
    · rwa [heq]
    · exact h q m hq
  rw [hat, if_neg, hrooted r hr hne]
  rintro rfl
  exact hfree (hrooted r hr hne)

/-! ## The fresh file -/

lemma set_of_lookup_eq_none {nodes : List (Path × Node)} (h : nodes.lookup place = none) :
    set place n nodes = nodes ++ [(place, n)] := by
  induction nodes with
  | nil => rfl
  | cons e rest ih =>
    obtain ⟨q, m⟩ := e
    rw [List.lookup_cons] at h
    split at h
    next => cases h
    next hne =>
      rw [set, if_neg (Ne.symm (beq_eq_false_iff_ne.1 hne)), ih h, List.cons_append]

lemma set_append {m : Node} {nodes : List (Path × Node)} (h : nodes.lookup place = none) :
    set place n (nodes ++ [(place, m)]) = nodes ++ [(place, n)] := by
  induction nodes with
  | nil => exact if_pos rfl
  | cons e rest ih =>
    obtain ⟨q, m'⟩ := e
    rw [List.lookup_cons] at h
    split at h
    next => cases h
    next hne =>
      rw [List.cons_append, set, if_neg (Ne.symm (beq_eq_false_iff_ne.1 hne)), ih h,
        List.cons_append]

lemma lookup_eq_none (h : d.at? place = none) : d.nodes.lookup place = none := by
  rw [at?] at h
  split at h
  next => cases h
  next hnone => exact hnone

lemma exists_nodes_putFile (h : d'.nodes = d.nodes) :
    ∃ stamp, (d'.putFile place content).nodes = set place (.file content stamp) d.nodes :=
  ⟨d'.lastStamp + 1, by rw [Disk.putFile, h]⟩

/-- The fresh file is the last node while it is there. -/
def HasSpare (spare : Path) (d d' : Disk) : Prop := ∃ n, d'.nodes = d.nodes ++ [(spare, n)]

lemma hasSpare_created (hnone : d.at? spare = none) :
    HasSpare spare d (d.putFile spare ⟨#[]⟩) :=
  ⟨_, set_of_lookup_eq_none (lookup_eq_none hnone)⟩

lemma HasSpare.putFile (h : HasSpare spare d d') (hnone : d.at? spare = none) :
    HasSpare spare d (d'.putFile spare content) := by
  obtain ⟨n, hn⟩ := h
  refine ⟨.file content (d'.lastStamp + 1), ?_⟩
  rw [Disk.putFile, hn]
  exact set_append (lookup_eq_none hnone)

/-- Nothing of the fresh file is left when it is removed, nor does anything go with it. -/
lemma HasSpare.remove (h : HasSpare spare d d') (hd : d.IsTree) (hnone : d.at? spare = none) :
    (d'.remove spare).nodes = d.nodes := by
  obtain ⟨n, hn⟩ := h
  have hremove : (d'.remove spare).nodes =
      (d.nodes ++ [(spare, n)]).filter fun e => !spare.isPrefixOf e.1 := by
    rw [← hn]
    rfl
  have hspare : spare.isPrefixOf spare = true := List.isPrefixOf_iff_prefix.2 List.prefix_rfl
  have hgone : [(spare, n)].filter (fun e => !spare.isPrefixOf e.1) = [] := by
    rw [List.filter_cons, hspare]
    rfl
  rw [hremove, List.filter_append, hgone, List.append_nil, List.filter_eq_self]
  rintro ⟨q, m⟩ hq
  rw [Bool.not_eq_true', ← Bool.not_eq_true, List.isPrefixOf_iff_prefix]
  intro hpre
  have hbelow := lookup_eq_none (hd.free_below hnone hpre)
  rw [List.lookup_eq_none_iff] at hbelow
  exact absurd (hbelow _ hq) (by simp)

/-! ## Replacements -/

/-- A replacement fails at the folder of the file, or leaves the nodes that there were once the
folder was made, or puts the file at the place of the path. -/
lemma replace_cases (hd : d.IsTree) (h : d.replace stop p content = (d', result)) :
    (∃ e, result = .error (.disk e) ∧ d.withFolder p.parent = (d', .error e)) ∨
      ∃ dir, d.withFolder p.parent = (dir, .ok ()) ∧
        ((∃ e, result = .error e ∧ d'.nodes = dir.nodes) ∨
          ∃ place stamp, result = .ok () ∧ dir.locate p = .ok place ∧
            dir.at? place ≠ some .folder ∧
            d'.nodes = set place (.file content stamp) dir.nodes) := by
  rw [replace] at h
  split at h
  next e hdir =>
    cases h
    exact .inl ⟨e, rfl, hdir⟩
  next dir hdir =>
    refine .inr ⟨dir, hdir, ?_⟩
    have htree : dir.IsTree := by
      have hopens := opens_withFolder p.parent d
      rw [hdir] at hopens
      exact hd.opens hopens
    dsimp only at h
    have hnone := at?_freshName dir (dir.placeOf p.parent)
    generalize dir.placeOf p.parent ++ [freshName (dir.names (dir.placeOf p.parent))] = spare
      at h hnone
    have hcreated := hasSpare_created hnone
    have hwritten := @HasSpare.putFile _ _ _ content hcreated hnone
    by_cases hcreate : stop = some .create
    · rw [if_pos hcreate] at h
      cases h
      exact .inl ⟨_, rfl, rfl⟩
    rw [if_neg hcreate] at h
    by_cases hwrite : stop = some .write
    · rw [if_pos hwrite] at h
      cases h
      exact .inl ⟨_, rfl, hcreated.remove htree hnone⟩
    rw [if_neg hwrite] at h
    split at h
    next =>
      cases h
      exact .inl ⟨_, rfl, hwritten.remove htree hnone⟩
    next place hloc =>
      split at h
      next =>
        cases h
        exact .inl ⟨_, rfl, hwritten.remove htree hnone⟩
      next hfree =>
        split_ifs at h with hswap
        · cases h
          exact .inl ⟨_, rfl, hwritten.remove htree hnone⟩
        · cases h
          obtain ⟨stamp, hfile⟩ :=
            @exists_nodes_putFile _ _ place content (hwritten.remove htree hnone)
          exact .inr ⟨place, stamp, rfl, hloc, hfree, hfile⟩

end FeedWatch.Disk
