import FeedWatch.Proofs.Disk.Lookup

/-!
# Paths stay

A path leads through folders only.  So it leads to the same place whatever is done at a place that
is no folder (`locate_of_agreeOff`), and it stays if the disk only comes to hold more
(`Extends.locate`); and where a path leads somewhere, the path without its last name leads to a
folder (`find?_parent_of_locate`).
-/

namespace FeedWatch.Disk

variable {d d' : Disk} {p place q whole : Path}

/-! ## Following a path -/

/-- Being no place strictly below a given one. -/
def NotBelow (place q : Path) : Prop := place <+: q → q = place

lemma NotBelow.not_prefix {n : Node} (h : NotBelow place q) (hplace : d.at? place ≠ some n)
    (hq : d.at? q = some n) : ¬ place <+: q := by
  intro hpre
  rw [h hpre] at hq
  exact hplace hq

lemma notBelow_of_prefix_concat {name : String} (h : ¬ place <+: q) :
    NotBelow place (q ++ [name]) := by
  intro hpre
  obtain h' | h' := List.prefix_concat_iff.1 hpre
  · exact h'.symm
  · exact absurd h' h

lemma notBelow_above (h : ¬ place <+: q) : NotBelow place q.above := by
  rw [Path.above]
  split_ifs
  · exact notBelow_of_prefix_concat h
  · rw [Path.parent]
    split_ifs
    · exact fun hpre => absurd hpre h
    · exact fun hpre => absurd (hpre.trans (List.dropLast_prefix q)) h

/-- Names that lead somewhere lead there whatever is done at a place that is no folder. -/
lemma follow_of_agreeOff (hfree : d.at? place ≠ some .folder) (hoff : AgreeOff place d d')
    {start : Path} {names : List String} (hstart : NotBelow place start)
    (h : d.follow whole start names = .ok q) :
    d'.follow whole start names = .ok q ∧ NotBelow place q := by
  -- a step leaves a folder, which is neither the place nor below it, so it comes to a place that is
  -- not below it either
  induction names generalizing start with
  | nil =>
    cases h
    exact ⟨rfl, hstart⟩
  | cons name names ih =>
    rw [follow] at h ⊢
    cases hat : d.at? start with
    | none => simp [hat] at h
    | some n =>
      cases n with
      | file content stamp => simp [hat] at h
      | folder =>
        have hoff' : ¬ place <+: start := hstart.not_prefix hfree hat
        rw [hoff _ hoff', hat]
        rw [hat] at h
        dsimp only at h ⊢
        split_ifs at h ⊢ with hup hlong
        · exact ih (notBelow_above hoff') h
        · exact ih (notBelow_of_prefix_concat hoff') h

/-- A walk from the root never gets to the working directory. -/
lemma follow_head {start : Path} {names : List String} (hstart : start.head? = some "/")
    (h : d.follow whole start names = .ok q) : q.head? = some "/" := by
  induction names generalizing start with
  | nil =>
    cases h
    exact hstart
  | cons name names ih =>
    obtain ⟨rest, rfl⟩ : ∃ rest, start = "/" :: rest := by
      cases start with
      | nil => cases hstart
      | cons first rest =>
        rw [List.head?_cons, Option.some.injEq] at hstart
        exact ⟨rest, by rw [hstart]⟩
    rw [follow] at h
    split at h
    next => cases h
    next => cases h
    next =>
      split_ifs at h
      · refine ih ?_ h
        cases rest with
        | nil => decide
        | cons second rest =>
          have hup : Path.isAbove ("/" :: second :: rest) = false := by simp [Path.isAbove, Path.up]
          have hroot : Path.isRoot ("/" :: second :: rest) = false := by simp [Path.isRoot]
          simp [Path.above, Path.parent, hup, hroot]
      · exact ih (by simp) h

/-- A path that leads somewhere is followed from the working directory or from the root. -/
lemma exists_follow (h : d.locate p = .ok q) :
    ∃ start names, (start = [] ∧ names = p ∨ start = ["/"] ∧ names = p.tail) ∧
      ∀ d' : Disk, d'.locate p = d'.follow p start names := by
  unfold locate at h ⊢
  split_ifs at h ⊢
  split
  next names _ _ => exact ⟨["/"], names, .inr ⟨rfl, rfl⟩, fun _ => rfl⟩
  next names _ _ => exact ⟨["/"], names, .inr ⟨rfl, rfl⟩, fun _ => rfl⟩
  next => exact ⟨[], p, .inl ⟨rfl, rfl⟩, fun _ => rfl⟩

/-- Something is found under a path if it is at the place that the path leads to. -/
lemma find?_eq_some_iff {n : Node} :
    d.find? p = some n ↔ ∃ place, d.locate p = .ok place ∧ d.at? place = some n := by
  rw [find?]
  cases d.locate p with
  | error e =>
    constructor
    · intro h
      cases h
    · rintro ⟨_, h, -⟩
      cases h
  | ok place =>
    constructor
    · intro h
      exact ⟨place, rfl, h⟩
    · rintro ⟨_, h, hat⟩
      cases h
      exact hat

/-- A path is one that leads somewhere if something is found under it. -/
lemma exists?_eq_true_iff : d.exists? p = .ok true ↔ ∃ n, d.find? p = some n := by
  simp only [find?_eq_some_iff]
  rw [exists?]
  split
  next place hloc =>
    rw [Except.ok.injEq, Option.isSome_iff_exists]
    constructor
    · rintro ⟨n, hat⟩
      exact ⟨n, place, hloc, hat⟩
    · rintro ⟨n, place', hloc', hat⟩
      cases hloc.symm.trans hloc'
      exact ⟨n, hat⟩
  next hloc =>
    constructor
    · rintro ⟨⟩
    · rintro ⟨n, place, hloc', -⟩
      cases hloc.symm.trans hloc'
  next hloc =>
    constructor
    · rintro ⟨⟩
    · rintro ⟨n, place, hloc', -⟩
      cases hloc.symm.trans hloc'

lemma at?_nil_ne_none : d.at? [] ≠ none := by
  rw [at?]
  cases d.nodes.lookup [] with
  | some n => exact Option.some_ne_none n
  | none => exact Option.some_ne_none Node.folder

/-- A path leads to the same place whatever is done at a place that is no folder. -/
lemma locate_of_agreeOff (hne : place ≠ []) (hfree : d.at? place ≠ some .folder)
    (hoff : AgreeOff place d d') (h : d.locate p = .ok q) :
    d'.locate p = .ok q ∧ NotBelow place q := by
  obtain ⟨start, names, hstart, hloc⟩ := exists_follow h
  rw [hloc] at h ⊢
  refine follow_of_agreeOff hfree hoff ?_ h
  obtain ⟨rfl, -⟩ | ⟨rfl, -⟩ := hstart
  · exact fun hpre => (List.prefix_nil.1 hpre).symm
  · intro hpre
    obtain hpre | hpre := List.prefix_cons_iff.1 hpre
    · exact absurd hpre hne
    · obtain ⟨t, rfl, ht⟩ := hpre
      rw [List.prefix_nil.1 ht]

/-- A folder is found whatever is done at a place that is no folder. -/
lemma find?_of_agreeOff (hne : place ≠ []) (hfree : d.at? place ≠ some .folder)
    (hoff : AgreeOff place d d') (h : d.find? p = some .folder) : d'.find? p = some .folder := by
  obtain ⟨q, hloc, hat⟩ := find?_eq_some_iff.1 h
  obtain ⟨hloc', hbelow⟩ := locate_of_agreeOff hne hfree hoff hloc
  refine find?_eq_some_iff.2 ⟨q, hloc', ?_⟩
  rw [hoff q (hbelow.not_prefix hfree hat), hat]

/-! ## Disks that hold more -/

/-- Everything on a disk is also on another one. -/
def Extends (d d' : Disk) : Prop := ∀ q n, d.at? q = some n → d'.at? q = some n

namespace Extends

lemma follow (h : Extends d d') {start : Path} {names : List String}
    (hwalk : d.follow whole start names = .ok q) : d'.follow whole start names = .ok q := by
  induction names generalizing start with
  | nil => exact hwalk
  | cons name names ih =>
    rw [Disk.follow] at hwalk ⊢
    cases hat : d.at? start with
    | none => simp [hat] at hwalk
    | some n =>
      cases n with
      | file content stamp => simp [hat] at hwalk
      | folder =>
        rw [h _ _ hat]
        rw [hat] at hwalk
        dsimp only at hwalk ⊢
        split_ifs at hwalk ⊢
        · exact ih hwalk
        · exact ih hwalk

/-- A path that leads somewhere leads there when there is more. -/
lemma locate (h : Extends d d') (hloc : d.locate p = .ok q) : d'.locate p = .ok q := by
  obtain ⟨start, names, -, hfollow⟩ := exists_follow hloc
  rw [hfollow] at hloc ⊢
  exact h.follow hloc

/-- What a path leads to is found when there is more. -/
lemma find? {n : Node} (h : Extends d d') (hfind : d.find? p = some n) : d'.find? p = some n := by
  obtain ⟨place, hloc, hat⟩ := find?_eq_some_iff.1 hfind
  exact find?_eq_some_iff.2 ⟨place, h.locate hloc, h place n hat⟩

end Extends

/-! ## The folder of a path -/

lemma exists_concat (h : p.parent ≠ p) : p.isRoot = false ∧ ∃ name, p = p.parent ++ [name] := by
  have hroot : p.isRoot = false := by
    rw [← Bool.not_eq_true]
    intro hroot
    rw [Path.parent, if_pos hroot] at h
    exact h rfl
  have hparent : p.parent = p.dropLast := by
    rw [Path.parent, hroot]
    rfl
  have hne : p ≠ [] := by
    rintro rfl
    exact h rfl
  exact ⟨hroot, p.getLast hne, by rw [hparent, List.dropLast_concat_getLast]⟩

lemma text_concat {name : String} (hp : p ≠ []) :
    ∃ rest, Path.text (p ++ [name]) = Path.text p ++ rest := by
  have hslash : ∀ names : List String, ∃ rest,
      "/".intercalate (names ++ [name]) = "/".intercalate names ++ rest := by
    intro names
    cases names with
    | nil => exact ⟨name, by simp⟩
    | cons first names =>
      rw [String.intercalate_append_of_ne_nil (List.cons_ne_nil _ _) (List.cons_ne_nil _ _),
        String.append_assoc]
      exact ⟨_, rfl⟩
  obtain ⟨first, names, rfl⟩ := List.exists_cons_of_ne_nil hp
  rw [List.cons_append, Path.text.eq_def, Path.text.eq_def]
  split
  next h => cases h
  next h =>
    cases h
    obtain ⟨rest, hrest⟩ := hslash names
    refine ⟨rest, ?_⟩
    rw [hrest, ← String.append_assoc]
    rfl
  next h =>
    cases h
    obtain ⟨rest, hrest⟩ := hslash names
    refine ⟨rest, ?_⟩
    rw [hrest, ← String.append_assoc]
    rfl
  next hone htwo =>
    split
    next h => cases h
    next h =>
      cases h
      exact absurd rfl (hone _)
    next h =>
      cases h
      exact absurd rfl (htwo _)
    next => exact hslash (first :: names)

/-- A path that can be extended can be followed from where the longer path is. -/
lemma locate_concat {name : String} (hp : p ≠ []) (h : d.locate (p ++ [name]) = .ok q) :
    ∃ start names, d.locate p = d.follow p start names ∧
      d.follow (p ++ [name]) start (names ++ [name]) = .ok q := by
  obtain ⟨rest, htext⟩ := @text_concat p name hp
  unfold locate at h ⊢
  rw [htext] at h
  split_ifs at h with hend hlong
  have hend' : ¬ p.text.toList.contains '\x00' = true := by
    intro hin
    rw [String.toList_append, List.contains_iff_mem] at hend
    exact hend (List.mem_append_left _ (List.contains_iff_mem.1 hin))
  have hlong' : ¬ Path.textLimit ≤ p.text.utf8ByteSize := by
    rw [String.utf8ByteSize_append] at hlong
    omega
  rw [if_neg hend', if_neg hlong']
  obtain ⟨first, names, rfl⟩ := List.exists_cons_of_ne_nil hp
  rw [List.cons_append] at h ⊢
  split at h
  next heq =>
    cases heq
    exact ⟨["/"], names, rfl, h⟩
  next heq =>
    cases heq
    exact ⟨["/"], names, rfl, h⟩
  next hone htwo =>
    refine ⟨[], first :: names, ?_, h⟩
    split
    next heq =>
      cases heq
      exact absurd rfl (hone _)
    next heq =>
      cases heq
      exact absurd rfl (htwo _)
    next => rfl

/-- Before a last name that can be followed there is a folder. -/
lemma follow_concat (whole' : Path) {start : Path} {names : List String} {name : String}
    (h : d.follow whole start (names ++ [name]) = .ok q) :
    ∃ place, d.follow whole' start names = .ok place ∧ d.at? place = some .folder := by
  induction names generalizing start with
  | nil =>
    refine ⟨start, rfl, ?_⟩
    rw [List.nil_append, follow] at h
    split at h
    next => cases h
    next => cases h
    next hat => exact hat
  | cons first names ih =>
    rw [List.cons_append, follow] at h
    rw [follow]
    split at h
    next => cases h
    next => cases h
    next =>
      split_ifs at h ⊢
      · exact ih h
      · exact ih h

/-- Where a path leads somewhere, there is a folder without its last name. -/
lemma find?_parent_of_locate (h : d.locate p = .ok q) (hparent : p.parent ≠ p) :
    d.find? p.parent = some .folder := by
  obtain ⟨hroot, name, hname⟩ := exists_concat hparent
  generalize p.parent = folder at hname ⊢
  subst hname
  by_cases hne : folder = []
  · subst hne
    have hat : d.at? [] = some .folder := by
      unfold locate at h
      split_ifs at h
      rw [List.nil_append] at h hroot
      split at h
      next heq =>
        cases heq
        cases hroot
      next heq =>
        cases heq
        cases hroot
      next =>
        obtain ⟨place, hplace, hat⟩ := @follow_concat d q _ [] [] [] name h
        cases hplace
        exact hat
    exact find?_eq_some_iff.2 ⟨[], rfl, hat⟩
  · obtain ⟨start, names, hlocate, hfollow⟩ := locate_concat hne h
    obtain ⟨place, hplace, hat⟩ := follow_concat folder hfollow
    exact find?_eq_some_iff.2 ⟨place, hlocate.trans hplace, hat⟩

end FeedWatch.Disk
