import FeedWatch.Proofs.Json.Access
import FeedWatch.Proofs.Names
import FeedWatch.Reference

/-!
# What the index of a reference document holds

The enchants of a document are listed under the names of their classes as they are written, and the
index merges the names that have the same lower-case form.  `ReferenceIndex.ofPairs` builds the
index up enchant by enchant, and comes to the same (`ReferenceIndex.ofClasses_group`), so the index
depends on nothing but which classes are listed at which enchants (`ReferenceIndex.ofPairs_congr`).

`ReferenceIndex.Names` says directly of a document that it names a class at an enchant, and
`ReferenceIndex.Lists` that it has a list with the class there.  Main statements: the index has a
class exactly when the document lists one with its lower-case form, and at just the enchants where
it does (`ReferenceIndex.hasClass_iff`, `ReferenceIndex.mem_enchantsIn_iff`).
-/

namespace FeedWatch

namespace ReferenceIndex

/-! ## Pairs of a class and an enchant -/

/-- The index of pairs of a class and an enchant. -/
def ofPairs (pairs : List (String × String)) : ReferenceIndex :=
  pairs.foldl (fun index pair => index.addEnchant pair.1 pair.2) empty

section

variable {pairs : List (String × String)} {key enchant : String}

/-- What is listed by pairs of a class and an enchant is in their index, under the lower-case form
of the class. -/
lemma hasClass_ofPairs :
    (ofPairs pairs).hasClass key = true ↔ ∃ pair ∈ pairs, Text.lower pair.1 = key := by
  refine (foldl_iff_exists (p := fun index => index.hasClass key = true) (fun index pair => ?_)
    empty pairs).trans (or_iff_right Bool.false_ne_true)
  exact NameTable.hasKey_add.trans (or_comm.trans (or_congr_right eq_comm))

lemma mem_enchantsIn_ofPairs :
    enchant ∈ ((ofPairs pairs).enchantsIn key).toList ↔
      ∃ pair ∈ pairs, Text.lower pair.1 = key ∧ pair.2 = enchant := by
  refine (foldl_iff_exists (p := fun index => enchant ∈ (index.enchantsIn key).toList)
    (fun index pair => ?_) empty pairs).trans (or_iff_right List.not_mem_nil)
  exact NameTable.mem_find_add.trans (or_comm.trans (or_congr_right (and_congr eq_comm eq_comm)))

lemma mem_classesOf_ofPairs :
    key ∈ ((ofPairs pairs).enchantClasses.find enchant).toList ↔
      ∃ pair ∈ pairs, Text.lower pair.1 = key ∧ pair.2 = enchant := by
  refine (foldl_iff_exists (p := fun index => key ∈ (index.enchantClasses.find enchant).toList)
    (fun index pair => ?_) empty pairs).trans (or_iff_right List.not_mem_nil)
  exact NameTable.mem_find_add.trans
    (or_comm.trans (or_congr_right (and_comm.trans (and_congr eq_comm eq_comm))))

/-- Neither map has an empty set. -/
def IsFilled (index : ReferenceIndex) : Prop :=
  index.enchantClasses.IsFilled ∧ index.classEnchants.IsFilled

lemma isFilled_ofPairs : (ofPairs pairs).IsFilled := by
  have hfold : ∀ index : ReferenceIndex, index.IsFilled →
      (pairs.foldl (fun index pair => index.addEnchant pair.1 pair.2) index).IsFilled := by
    induction pairs with
    | nil => exact fun index h => h
    | cons pair pairs ih => exact fun index h => ih _ ⟨h.1.add _ _, h.2.add _ _⟩
  exact hfold empty ⟨NameTable.isFilled_empty, NameTable.isFilled_empty⟩

/-- The index depends on nothing but which pairs there are. -/
lemma ofPairs_congr {pairs' : List (String × String)} (h : ∀ pair, pair ∈ pairs ↔ pair ∈ pairs') :
    ofPairs pairs = ofPairs pairs' := by
  have hboth : ∀ key enchant, (∃ pair ∈ pairs, Text.lower pair.1 = key ∧ pair.2 = enchant) ↔
      ∃ pair ∈ pairs', Text.lower pair.1 = key ∧ pair.2 = enchant :=
    fun key enchant => exists_congr fun pair => and_congr_left' (h pair)
  have hclasses : (ofPairs pairs).enchantClasses = (ofPairs pairs').enchantClasses :=
    NameTable.eq_of_mem_iff isFilled_ofPairs.1 isFilled_ofPairs.1 fun enchant key => by
      rw [mem_classesOf_ofPairs, mem_classesOf_ofPairs, hboth]
  have henchants : (ofPairs pairs).classEnchants = (ofPairs pairs').classEnchants :=
    NameTable.eq_of_mem_iff isFilled_ofPairs.2 isFilled_ofPairs.2 fun key enchant =>
      mem_enchantsIn_ofPairs.trans ((hboth key enchant).trans mem_enchantsIn_ofPairs.symm)
  exact congrArg₂ mk hclasses henchants

end

/-! ## Classes with their enchants -/

/-- The pairs of a class and an enchant in a list of classes. -/
def spread (classes : List (String × List String)) : List (String × String) :=
  classes.flatMap fun c => c.2.map (c.1, ·)

/-- A class that has enchants is added with the first of them. -/
lemma addEnchant_addClass (index : ReferenceIndex) (name enchant : String) :
    (index.addClass name).addEnchant name enchant = index.addEnchant name enchant :=
  congrArg (mk _) (NameTable.add_touch _ _ _)

/-- Classes that have enchants are indexed enchant by enchant. -/
lemma ofClasses_eq {classes : List (String × List String)} (h : ∀ c ∈ classes, c.2 ≠ []) :
    ofClasses classes = ofPairs (spread classes) := by
  rw [ofPairs, spread, List.foldl_flatMap]
  have hstep : ∀ index, ∀ c ∈ classes,
      c.2.foldl (fun index enchant => index.addEnchant c.1 enchant) (index.addClass c.1) =
        (c.2.map (c.1, ·)).foldl (fun index pair => addEnchant pair.1 pair.2 index) index := by
    intro index c hc
    obtain ⟨enchant, enchants, he⟩ := List.exists_cons_of_ne_nil (h c hc)
    rw [he, List.foldl_map, List.foldl_cons, List.foldl_cons, addEnchant_addClass]
  exact List.foldl_ext _ _ _ hstep

lemma mem_spread_cons {c : String × List String} {classes : List (String × List String)}
    {pair : String × String} :
    pair ∈ spread (c :: classes) ↔ pair ∈ c.2.map (c.1, ·) ∨ pair ∈ spread classes := by
  rw [spread, List.flatMap_cons, List.mem_append, spread]

lemma mem_spread_listUnder {name enchant : String} {classes : List (String × List String)}
    {pair : String × String} :
    pair ∈ spread (listUnder name enchant classes) ↔
      pair ∈ spread classes ∨ pair = (name, enchant) := by
  induction classes with
  | nil => exact List.mem_singleton.trans (or_iff_right List.not_mem_nil).symm
  | cons c classes ih =>
    obtain ⟨n, enchants⟩ := c
    rw [listUnder, mem_spread_cons]
    split_ifs with hn
    · subst hn
      rw [mem_spread_cons, List.map_append, List.mem_append, List.map_singleton,
        List.mem_singleton]
      exact or_right_comm
    · rw [mem_spread_cons, ih, or_assoc]

lemma listUnder_ne_nil {name enchant : String} {classes : List (String × List String)}
    (h : ∀ c ∈ classes, c.2 ≠ []) : ∀ c ∈ listUnder name enchant classes, c.2 ≠ [] := by
  induction classes with
  | nil => simp [listUnder]
  | cons c classes ih =>
    obtain ⟨n, enchants⟩ := c
    rw [List.forall_mem_cons] at h
    rw [listUnder]
    split_ifs
    · exact List.forall_mem_cons.2 ⟨by simp, h.2⟩
    · exact List.forall_mem_cons.2 ⟨h.1, ih h.2⟩

lemma mem_spread_group {pairs : List (String × String)} {pair : String × String} :
    pair ∈ spread (group pairs) ↔ pair ∈ pairs := by
  have hfold := foldl_iff_exists (f := fun classes (c : String × String) =>
    listUnder c.1 c.2 classes) (p := (pair ∈ spread ·)) (fun _ _ => mem_spread_listUnder) [] pairs
  exact hfold.trans ((or_iff_right List.not_mem_nil).trans (by simp))

lemma group_ne_nil (pairs : List (String × String)) : ∀ c ∈ group pairs, c.2 ≠ [] := by
  have hfold : ∀ classes : List (String × List String), (∀ c ∈ classes, c.2 ≠ []) →
      ∀ c ∈ pairs.foldl (fun classes pair => listUnder pair.1 pair.2 classes) classes,
        c.2 ≠ [] := by
    induction pairs with
    | nil => exact fun classes h => h
    | cons pair pairs ih => exact fun classes h => ih _ (listUnder_ne_nil h)
  exact hfold [] nofun

/-- Grouping enchants by the written names of their classes first comes to the same as adding each
by itself: names with the same lower-case form are merged, not overwritten. -/
lemma ofClasses_group (pairs : List (String × String)) :
    ofClasses (group pairs) = ofPairs pairs := by
  rw [ofClasses_eq (group_ne_nil pairs)]
  exact ofPairs_congr fun _ => mem_spread_group

/-! ## Reference documents -/

/-- A document names a class at an enchant: going through the classes of the enchant yields a value
that is written so. -/
def Names (doc : Json) (enchant name : String) : Prop :=
  ∃ pit entries members classes w, doc.member "Pit" = .ok pit ∧
    pit.member "Mystics" = .ok (.obj entries) ∧ (enchant, .obj members) ∈ entries ∧
    members.lookup "Classes" = some classes ∧ classes.InSeries w ∧ w.shown = name

/-- A document lists a class at an enchant. -/
def Lists (doc : Json) (enchant name : String) : Prop :=
  ∃ pit entries members classes, doc.member "Pit" = .ok pit ∧
    pit.member "Mystics" = .ok (.obj entries) ∧ (enchant, .obj members) ∈ entries ∧
    members.lookup "Classes" = some (.arr classes) ∧ .str name ∈ classes

/-- Where a document has classes of an enchant, they are a list of texts. -/
def HasTexts (doc : Json) : Prop :=
  ∀ pit entries enchant members v, doc.member "Pit" = .ok pit →
    pit.member "Mystics" = .ok (.obj entries) → (enchant, .obj members) ∈ entries →
    members.lookup "Classes" = some v → ∃ names : List String, v = .arr (names.map .str)

/-- Texts are listed under the names that they are. -/
lemma names_iff_lists {doc : Json} (htexts : HasTexts doc) {enchant name : String} :
    Names doc enchant name ↔ Lists doc enchant name := by
  constructor
  · rintro ⟨pit, entries, members, classes, w, hpit, hmystics, hmem, hlookup, hw, rfl⟩
    obtain ⟨names, rfl⟩ := htexts pit entries enchant members classes hpit hmystics hmem hlookup
    obtain ⟨hw⟩ := hw
    obtain ⟨name, -, rfl⟩ := List.mem_map.1 hw
    exact ⟨pit, entries, members, _, hpit, hmystics, hmem, hlookup, hw⟩
  · rintro ⟨pit, entries, members, classes, hpit, hmystics, hmem, hlookup, hname⟩
    exact ⟨pit, entries, members, _, _, hpit, hmystics, hmem, hlookup, .element hname, rfl⟩

/-- The pairs of an entry are those of the classes that it yields. -/
lemma mem_entryPairs {enchant : String} {entry : Json} {pairs : List (String × String)}
    (h : entryPairs enchant entry = .ok pairs) (pair : String × String) :
    pair ∈ pairs ↔ ∃ members classes w, entry = .obj members ∧
      members.lookup "Classes" = some classes ∧ classes.InSeries w ∧
      (w.shown, enchant) = pair := by
  obtain ⟨v, hv, h⟩ := Except.bind_eq_ok.1 h
  obtain ⟨classes, hseries, h⟩ := Except.bind_eq_ok.1 h
  cases h
  rw [List.mem_map]
  simp only [Json.mem_iff_of_seriesOrNone hseries]
  cases entry with
  | obj members =>
    have hclasses : (members.lookup "Classes").getD .null = v := Except.ok.inj hv
    constructor
    · rintro ⟨w, hw, rfl⟩
      cases hlookup : members.lookup "Classes" with
      | none =>
        rw [hlookup] at hclasses
        subst hclasses
        cases hw
      | some classes =>
        rw [hlookup] at hclasses
        subst hclasses
        exact ⟨members, classes, w, rfl, hlookup, hw, rfl⟩
    · rintro ⟨members', classes, w, hmembers, hlookup, hw, rfl⟩
      cases hmembers
      rw [hlookup] at hclasses
      subst hclasses
      exact ⟨w, hw, rfl⟩
  | _ => cases hv

/-- A document has an index when its entries can be gone through, one by one. -/
lemma ofJson_eq_ok {doc : Json} {index : ReferenceIndex} : ofJson doc = .ok index ↔
    ∃ pit entries pairs, doc.member "Pit" = .ok pit ∧ pit.member "Mystics" = .ok (.obj entries) ∧
      entries.mapM (fun e => entryPairs e.1 e.2) = .ok pairs ∧
      ofClasses (group pairs.flatten) = index := by
  constructor
  · intro h
    obtain ⟨pit, hpit, h⟩ := Except.bind_eq_ok.1 h
    obtain ⟨mystics, hmystics, h⟩ := Except.bind_eq_ok.1 h
    obtain ⟨members, hmembers, h⟩ := Except.bind_eq_ok.1 h
    obtain ⟨pairs, hpairs, h⟩ := Except.bind_eq_ok.1 h
    have hobj : mystics = .obj members := by
      cases mystics with
      | obj members' => exact congrArg Json.obj (Except.ok.inj hmembers)
      | _ => cases hmembers
    exact ⟨pit, members, pairs, hpit, hmystics.trans (congrArg _ hobj), hpairs, Except.ok.inj h⟩
  · rintro ⟨pit, entries, pairs, hpit, hmystics, hpairs, rfl⟩
    refine Except.bind_eq_ok.2 ⟨pit, hpit, Except.bind_eq_ok.2 ⟨_, hmystics, ?_⟩⟩
    exact Except.bind_eq_ok.2 ⟨entries, rfl, Except.bind_eq_ok.2 ⟨pairs, hpairs, rfl⟩⟩

/-- The index of a document is that of the pairs of a class and an enchant that it names. -/
lemma exists_pairs_of_ofJson {doc : Json} {index : ReferenceIndex} (h : ofJson doc = .ok index) :
    ∃ pairs, index = ofPairs pairs ∧
      ∀ name enchant, (name, enchant) ∈ pairs ↔ Names doc enchant name := by
  obtain ⟨pit, entries, pairs, hpit, hmystics, hpairs, rfl⟩ := ofJson_eq_ok.1 h
  refine ⟨pairs.flatten, ofClasses_group _, fun name enchant => ?_⟩
  rw [List.mem_flatten]
  constructor
  · rintro ⟨own, hown, hpair⟩
    obtain ⟨⟨enchant', entry⟩, hmem, hok⟩ := Except.exists_of_mapM_eq_ok hpairs hown
    obtain ⟨members, classes, w, rfl, hlookup, hw, hshown⟩ := (mem_entryPairs hok _).1 hpair
    cases hshown
    exact ⟨pit, entries, members, classes, w, hpit, hmystics, hmem, hlookup, hw, rfl⟩
  · rintro ⟨pit', entries', members, classes, w, hpit', hmystics', hmem, hlookup, hw, rfl⟩
    cases hpit.symm.trans hpit'
    cases hmystics.symm.trans hmystics'
    obtain ⟨own, hown, hok⟩ := Except.exists_of_mem_of_mapM hpairs hmem
    exact ⟨own, hown, (mem_entryPairs hok _).2 ⟨members, classes, w, rfl, hlookup, hw, rfl⟩⟩

variable {doc : Json} {index : ReferenceIndex}

/-- The index has the classes that the document lists, in lower case. -/
theorem hasClass_iff (h : ofJson doc = .ok index) (htexts : HasTexts doc) {key : String} :
    index.hasClass key = true ↔ ∃ enchant name, Lists doc enchant name ∧ Text.lower name = key := by
  obtain ⟨pairs, rfl, hpairs⟩ := exists_pairs_of_ofJson h
  simp only [hasClass_ofPairs, ← names_iff_lists htexts, ← hpairs]
  exact ⟨fun ⟨⟨name, enchant⟩, hmem, hkey⟩ => ⟨enchant, name, hmem, hkey⟩,
    fun ⟨enchant, name, hmem, hkey⟩ => ⟨(name, enchant), hmem, hkey⟩⟩

/-- A class has the enchants at which the document names a class with the same lower-case form. -/
lemma mem_enchantsIn_iff_names (h : ofJson doc = .ok index) {key enchant : String} :
    enchant ∈ (index.enchantsIn key).toList ↔
      ∃ name, Names doc enchant name ∧ Text.lower name = key := by
  obtain ⟨pairs, rfl, hpairs⟩ := exists_pairs_of_ofJson h
  simp only [mem_enchantsIn_ofPairs, ← hpairs]
  constructor
  · rintro ⟨⟨name, _⟩, hmem, hkey, rfl⟩
    exact ⟨name, hmem, hkey⟩
  · rintro ⟨name, hmem, hkey⟩
    exact ⟨(name, enchant), hmem, hkey, rfl⟩

/-- A class has the enchants at which the document lists a class with the same lower-case form. -/
theorem mem_enchantsIn_iff (h : ofJson doc = .ok index) (htexts : HasTexts doc)
    {key enchant : String} :
    enchant ∈ (index.enchantsIn key).toList ↔
      ∃ name, Lists doc enchant name ∧ Text.lower name = key := by
  simp only [mem_enchantsIn_iff_names h, names_iff_lists htexts]

end ReferenceIndex

end FeedWatch
