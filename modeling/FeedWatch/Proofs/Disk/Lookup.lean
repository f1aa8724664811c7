import FeedWatch.Disk
import Mathlib.Data.List.Infix

/-!
# What is at a place

Putting a file and removing what is at a place are described by what `at?` finds afterwards.  A
place and what is below it can be changed without any other place noticing, which `AgreeOff` says of
two disks.  Main statement: there is nothing at a fresh name (`at?_freshName`).
-/

namespace FeedWatch.Disk

/-! ## Nodes -/

/-- The node that was set is found at its place, and all others are where they were. -/
lemma lookup_set {place q : Path} {n : Node} {nodes : List (Path × Node)} :
    (set place n nodes).lookup q = if q = place then some n else nodes.lookup q := by
  induction nodes with
  | nil =>
    rw [set, List.lookup_cons]
    by_cases h : q = place
    · simp [h]
    · simp [h, beq_false_of_ne h]
  | cons e rest ih =>
    obtain ⟨p, m⟩ := e
    rw [set]
    split_ifs with hp hq hq
    · subst hp hq
      simp
    · subst hp
      simp [List.lookup_cons, beq_false_of_ne hq]
    · subst hq
      rw [List.lookup_cons, beq_false_of_ne (Ne.symm hp)]
      simp [ih]
    · rw [List.lookup_cons, List.lookup_cons, ih, if_neg hq]

/-- Nodes are found after a selection of places if their places are selected. -/
lemma lookup_filter {keep : Path → Bool} {q : Path} {nodes : List (Path × Node)} :
    (nodes.filter fun e => keep e.1).lookup q = if keep q then nodes.lookup q else none := by
  induction nodes with
  | nil => simp
  | cons e rest ih =>
    obtain ⟨p, m⟩ := e
    rw [List.filter_cons]
    by_cases hq : q = p
    · subst hq
      cases hk : keep q with
      | true => simp
      | false => simp [hk, ih]
    · have hb := beq_false_of_ne hq
      cases hk : keep p with
      | true => simp [List.lookup_cons, hb, ih]
      | false => simp [List.lookup_cons, hb, ih]

/-- A file is found where it was put, and nothing else changes. -/
lemma at?_putFile (place q : Path) (content : ByteArray) (d : Disk) :
    (d.putFile place content).at? q =
      if q = place then some (.file content (d.lastStamp + 1)) else d.at? q := by
  rw [at?, putFile, lookup_set]
  split_ifs <;> rfl

/-- Only what the system has is left at a place that was removed, and below it. -/
lemma at?_remove (place q : Path) (d : Disk) :
    (d.remove place).at? q = if place <+: q then ofSystem? q else d.at? q := by
  have hfind : (d.remove place).nodes.lookup q =
      if !place.isPrefixOf q then d.nodes.lookup q else none :=
    @lookup_filter (fun p => !place.isPrefixOf p) q d.nodes
  rw [at?, hfind]
  by_cases h : place <+: q
  · rw [if_pos h, List.isPrefixOf_iff_prefix.2 h]
    rfl
  · have hb : place.isPrefixOf q = false := by
      rwa [← Bool.not_eq_true, List.isPrefixOf_iff_prefix]
    rw [if_neg h, hb]
    rfl

/-! ## Changes at one place -/

/-- Two disks hold the same, but for what is at a place and below it. -/
def AgreeOff (place : Path) (d d' : Disk) : Prop := ∀ q, ¬ place <+: q → d'.at? q = d.at? q

namespace AgreeOff

variable {place : Path} {d d₁ d₂ d₃ : Disk}

lemma refl : AgreeOff place d d := fun _ _ => rfl

lemma trans (h : AgreeOff place d₁ d₂) (h' : AgreeOff place d₂ d₃) : AgreeOff place d₁ d₃ :=
  fun q hq => (h' q hq).trans (h q hq)

lemma putFile {content : ByteArray} : AgreeOff place d (d.putFile place content) := by
  intro q hq
  rw [at?_putFile, if_neg]
  rintro rfl
  exact hq List.prefix_rfl

lemma remove : AgreeOff place d (d.remove place) := by
  intro q hq
  rw [at?_remove, if_neg hq]

end AgreeOff

/-! ## Fresh names -/

lemma length_freshName (names : List String) :
    (freshName names).length = (names.map String.length).foldl max 0 + 15 := by
  have hfront : ".settings-".length = 10 := rfl
  have hback : ".json".length = 5 := rfl
  simp only [freshName, String.length_append, String.length_ofList, List.length_replicate, hfront,
    hback]
  omega

lemma freshName_notMem (names : List String) : freshName names ∉ names := by
  intro h
  have hmax : (0 :: names.map String.length).max? =
      some ((names.map String.length).foldl max 0) := List.max?_cons'
  have hle := (List.max?_eq_some_iff.1 hmax).2 _ (List.mem_cons_of_mem _ (List.mem_map_of_mem h))
  rw [length_freshName] at hle
  omega

/-- All names that lead to what every system has are short. -/
lemma length_lt_of_ofSystem? {place : Path} {n : Node} (h : ofSystem? place = some n) :
    ∀ name ∈ place, name.length < 15 := by
  unfold ofSystem? at h
  split at h
  next => decide
  next short =>
    have hshort : ∀ name ∈ systemFolders, name.length < 15 := by decide
    split at h
    next hmem =>
      intro name hname
      rcases List.mem_cons.1 hname with rfl | hname
      · decide
      · rw [List.mem_singleton.1 hname]
        exact hshort _ (List.contains_iff_mem.1 hmem)
    next => cases h
  next => decide
  next =>
    split at h
    next hup =>
      intro name hname
      have := List.all_eq_true.1 hup name hname
      rw [of_decide_eq_true this]
      decide
    next => cases h

lemma parent_concat {folder : Path} {name : String} (h : 15 ≤ name.length) :
    Path.parent (folder ++ [name]) = folder := by
  have hroot : Path.isRoot (folder ++ [name]) = false := by
    cases folder with
    | nil =>
      have hone : name ≠ "/" := by rintro rfl; exact absurd h (by decide)
      have htwo : name ≠ "//" := by rintro rfl; exact absurd h (by decide)
      simp [Path.isRoot, hone, htwo]
    | cons first rest => simp [Path.isRoot]
  rw [Path.parent, hroot]
  exact List.dropLast_concat

lemma ofSystem?_freshName (d : Disk) (folder : Path) :
    ofSystem? (folder ++ [freshName (d.names folder)]) = none := by
  cases h : ofSystem? (folder ++ [freshName (d.names folder)]) with
  | none => rfl
  | some n =>
    have hshort := length_lt_of_ofSystem? h _ List.mem_concat_self
    rw [length_freshName] at hshort
    omega

/-- There is nothing at a fresh name. -/
lemma at?_freshName (d : Disk) (folder : Path) :
    d.at? (folder ++ [freshName (d.names folder)]) = none := by
  have hlong : 15 ≤ (freshName (d.names folder)).length := by
    rw [length_freshName]
    omega
  have hnone : d.nodes.lookup (folder ++ [freshName (d.names folder)]) = none := by
    rw [List.lookup_eq_none_iff]
    -- a node there would have its name among those of the folder
    rintro ⟨q, n⟩ hq
    rw [bne_iff_ne]
    rintro rfl
    refine freshName_notMem (d.names folder) (List.mem_filterMap.2 ⟨_, hq, ?_⟩)
    dsimp only
    rw [if_pos ⟨by simp, parent_concat hlong⟩, List.getLast?_concat]
  rw [at?, hnone]
  exact ofSystem?_freshName d folder

end FeedWatch.Disk
