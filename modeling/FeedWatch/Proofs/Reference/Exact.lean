import FeedWatch.Proofs.Reference.Index
import Mathlib.Data.List.Perm.Basic

/-!
# The index of a reference document is exact

Whatever a reference document is, it has an index or is reported as malformed.  Main statement: the
two maps of the index are inverse to each other, hold just what the document names, with the names
of classes in lower case, have no empty sets, and stay the same when the entries and their lists of
classes come in another order (`ReferenceIndex.ofJson_exact`).
-/

namespace FeedWatch.ReferenceIndex

variable {doc doc' : Json} {index : ReferenceIndex}

/-! ## Malformed documents -/

/-- The families of causes that are reported as malformed reference data. -/
def reported : List Json.MismatchFamily := [.key, .kind, .operation]

lemma failsAs_entries {v : Json} : Except.FailsAs (·.family ∈ reported) (entries v) := by
  intro cause h
  cases v with
  | obj members => cases h
  | _ =>
    cases h
    exact .tail _ (.tail _ List.mem_cons_self)

lemma failsAs_entryPairs {enchant : String} {entry : Json} :
    Except.FailsAs (·.family ∈ reported) (entryPairs enchant entry) := by
  refine .bind (Json.failsAs_memberOrNull.mono fun cause hcause => ?_) fun _ _ =>
    .bind (Json.failsAs_seriesOrNone.mono fun cause hcause => ?_) fun _ _ => .pure
  · exact List.mem_singleton.1 hcause ▸ by decide
  · exact List.mem_singleton.1 hcause ▸ by decide

/-- Whatever is wrong with a document is reported as malformed reference data. -/
lemma failsAs_ofJson : Except.FailsAs (·.family ∈ reported) (ofJson doc) := by
  have hmember : ∀ (v : Json) (key : String),
      Except.FailsAs (·.family ∈ reported) (v.member key) := by
    intro v key
    exact Json.failsAs_member.mono fun cause hcause =>
      List.mem_append_left [Json.MismatchFamily.operation] hcause
  refine .bind (hmember _ _) fun _ _ => .bind (hmember _ _) fun _ _ => ?_
  refine .bind failsAs_entries fun _ _ => ?_
  exact .bind (.mapM fun _ _ => failsAs_entryPairs) fun _ _ => .pure

/-! ## The other map -/

/-- An enchant has the classes with whose names the document names a class there, in lower case. -/
lemma mem_classesOf_iff_names (h : ofJson doc = .ok index) {key enchant : String} :
    key ∈ (index.enchantClasses.find enchant).toList ↔
      ∃ name, Names doc enchant name ∧ Text.lower name = key := by
  rw [← mem_enchantsIn_iff_names h]
  obtain ⟨pairs, rfl, -⟩ := exists_pairs_of_ofJson h
  rw [mem_classesOf_ofPairs, mem_enchantsIn_ofPairs]

lemma isFilled_of_ofJson (h : ofJson doc = .ok index) : index.IsFilled := by
  obtain ⟨pairs, rfl, -⟩ := exists_pairs_of_ofJson h
  exact isFilled_ofPairs

/-! ## Another order -/

/-- An entry, or the same entry with its list of classes in another order. -/
inductive Reorders : String × Json → String × Json → Prop where
  | same {entry} : Reorders entry entry
  | classes {enchant members members' vs vs'} :
    members.lookup "Classes" = some (.arr vs) →
    members'.lookup "Classes" = some (.arr vs') →
    vs.Perm vs' →
    Reorders (enchant, .obj members) (enchant, .obj members')

/-- Two documents with the same entries, in any order, whose lists of classes are in any order. -/
def Reordered (doc doc' : Json) : Prop :=
  ∃ pit entries pit' entries' order, doc.member "Pit" = .ok pit ∧
    pit.member "Mystics" = .ok (.obj entries) ∧ doc'.member "Pit" = .ok pit' ∧
    pit'.member "Mystics" = .ok (.obj entries') ∧ entries.Perm order ∧
    List.Forall₂ Reorders order entries'

namespace Reorders

variable {e e' : String × Json}

lemma symm (h : Reorders e e') : Reorders e' e := by
  cases h with
  | same => exact .same
  | classes hlookup hlookup' hperm => exact .classes hlookup' hlookup hperm.symm

/-- Classes in another order can be gone through when they could before. -/
lemma exists_pairs (h : Reorders e e') (hok : ∃ pairs, entryPairs e.1 e.2 = .ok pairs) :
    ∃ pairs, entryPairs e'.1 e'.2 = .ok pairs := by
  cases h with
  | same => exact hok
  | @classes enchant members members' vs vs' _ hlookup' =>
    refine ⟨_, Except.bind_eq_ok.2 ⟨.arr vs', ?_, Except.bind_eq_ok.2
      ⟨vs', Json.seriesOrNone_arr vs', rfl⟩⟩⟩
    rw [Json.memberOrNull, Json.member?, hlookup']
    rfl

/-- Classes in another order are the same classes. -/
lemma exists_classes {enchant : String} {members : List (String × Json)} {classes w : Json}
    (h : Reorders (enchant, .obj members) e') (hlookup : members.lookup "Classes" = some classes)
    (hw : classes.InSeries w) : ∃ members' classes', e' = (enchant, .obj members') ∧
      members'.lookup "Classes" = some classes' ∧ classes'.InSeries w := by
  cases h with
  | same => exact ⟨members, classes, rfl, hlookup, hw⟩
  | @classes _ _ members' vs vs' hvs hlookup' hperm =>
    cases hlookup.symm.trans hvs
    obtain ⟨hw⟩ := hw
    exact ⟨members', .arr vs', rfl, hlookup', .element (hperm.mem_iff.1 hw)⟩

end Reorders

namespace Reordered

lemma symm (h : Reordered doc doc') : Reordered doc' doc := by
  obtain ⟨pit, entries, pit', entries', order, hpit, hmystics, hpit', hmystics', hperm, hall⟩ := h
  obtain ⟨order', hall, hperm⟩ := List.perm_comp_forall₂ hperm hall
  refine ⟨pit', entries', pit, entries, order', hpit', hmystics', hpit, hmystics, hperm.symm, ?_⟩
  exact List.Forall₂.flip (hall.imp fun _ _ => Reorders.symm)

/-- A document in another order names the same classes. -/
lemma names (h : Reordered doc doc') {enchant name : String} (hnames : Names doc enchant name) :
    Names doc' enchant name := by
  obtain ⟨pit, entries, pit', entries', order, hpit, hmystics, hpit', hmystics', hperm, hall⟩ := h
  obtain ⟨_, _, members, classes, w, hp, hm, hmem, hlookup, hw, rfl⟩ := hnames
  cases hpit.symm.trans hp
  cases hmystics.symm.trans hm
  obtain ⟨e', hmem', hreorders⟩ := Except.exists_of_forall₂ hall (hperm.mem_iff.1 hmem)
  obtain ⟨members', classes', rfl, hlookup', hw'⟩ := hreorders.exists_classes hlookup hw
  exact ⟨pit', entries', members', classes', w, hpit', hmystics', hmem', hlookup', hw', rfl⟩

/-- A document in another order has an index, too. -/
lemma exists_index (h : Reordered doc doc') (hindex : ofJson doc = .ok index) :
    ∃ index', ofJson doc' = .ok index' := by
  obtain ⟨pit', entries', pit, entries, order, hpit', hmystics', hpit, hmystics, hperm, hall⟩ :=
    h.symm
  obtain ⟨_, _, pairs, hp, hm, hpairs, -⟩ := ofJson_eq_ok.1 hindex
  cases hpit.symm.trans hp
  cases hmystics.symm.trans hm
  have hentries : ∀ e ∈ entries', ∃ pairs, entryPairs e.1 e.2 = .ok pairs := by
    intro e he
    obtain ⟨e', he', hreorders⟩ := Except.exists_of_forall₂ hall (hperm.mem_iff.1 he)
    exact hreorders.symm.exists_pairs (Except.exists_mapM_eq_ok_iff.1 ⟨pairs, hpairs⟩ e' he')
  obtain ⟨pairs', hpairs'⟩ := Except.exists_mapM_eq_ok_iff.2 hentries
  exact ⟨_, ofJson_eq_ok.2 ⟨pit', entries', pairs', hpit', hmystics', hpairs', rfl⟩⟩

end Reordered

/-- Documents that name the same classes have the same index. -/
lemma eq_of_names {index' : ReferenceIndex} (h : ofJson doc = .ok index)
    (h' : ofJson doc' = .ok index')
    (hnames : ∀ enchant name, Names doc enchant name ↔ Names doc' enchant name) :
    index = index' := by
  obtain ⟨pairs, rfl, hpairs⟩ := exists_pairs_of_ofJson h
  obtain ⟨pairs', rfl, hpairs'⟩ := exists_pairs_of_ofJson h'
  refine ofPairs_congr fun ⟨name, enchant⟩ => ?_
  rw [hpairs, hpairs', hnames]

/-- Every document has an index or is reported as malformed.  An index has a class at an enchant in
either map exactly when going through the classes of the enchant yields a value that is written so,
in whatever case.  Neither map has an empty set, and the index is that of all documents with the
same entries and lists of classes in other orders. -/
theorem ofJson_exact (doc : Json) :
    ((∃ index, ofJson doc = .ok index) ∨
      ∃ cause, ofJson doc = .error cause ∧ cause.family ∈ reported) ∧
    ∀ index, ofJson doc = .ok index →
      (∀ key enchant, key ∈ (index.enchantClasses.find enchant).toList ↔
        enchant ∈ (index.classEnchants.find key).toList) ∧
      (∀ key enchant, enchant ∈ (index.classEnchants.find key).toList ↔
        ∃ name, Names doc enchant name ∧ Text.lower name = key) ∧
      index.enchantClasses.IsFilled ∧ index.classEnchants.IsFilled ∧
      ∀ doc', Reordered doc doc' → ofJson doc' = .ok index := by
  refine ⟨?_, fun index h => ⟨fun key enchant => ?_, fun key enchant => ?_, ?_, ?_, ?_⟩⟩
  · cases h : ofJson doc with
    | ok index => exact .inl ⟨index, rfl⟩
    | error cause => exact .inr ⟨cause, rfl, failsAs_ofJson cause h⟩
  · exact (mem_classesOf_iff_names h).trans (mem_enchantsIn_iff_names h).symm
  · exact mem_enchantsIn_iff_names h
  · exact (isFilled_of_ofJson h).1
  · exact (isFilled_of_ofJson h).2
  · intro doc' hreordered
    obtain ⟨index', h'⟩ := hreordered.exists_index h
    rw [h', eq_of_names h h' fun enchant name => ⟨hreordered.names, hreordered.symm.names⟩]

/-- Two spellings of one class, a number among the classes and a text in their place; another order
of all this has the same index. -/
theorem ofJson_exact_spellings :
    let sharp : String × Json := ("sharp", .obj [("Classes", .arr [.str "Damage", .int 5])])
    let sharp' : String × Json := ("sharp", .obj [("Classes", .arr [.int 5, .str "Damage"])])
    let mirror : String × Json := ("mirror", .obj [("Classes", .str "xy")])
    let speed : String × Json := ("speed", .obj [("Classes", .arr [.str "DAMAGE"])])
    let doc : List (String × Json) → Json := fun entries =>
      .obj [("Pit", .obj [("Mystics", .obj entries)])]
    ∃ index, ofJson (doc [sharp, mirror, speed]) = .ok index ∧
      ofJson (doc [speed, mirror, sharp']) = .ok index ∧
      "sharp" ∈ (index.classEnchants.find "damage").toList ∧
      "speed" ∈ (index.classEnchants.find "damage").toList ∧
      "x" ∈ (index.enchantClasses.find "mirror").toList := by
  intro sharp sharp' mirror speed doc
  obtain ⟨index, h⟩ : ∃ index, ofJson (doc [sharp, mirror, speed]) = .ok index := ⟨_, rfl⟩
  obtain ⟨hinverse, hexact, -, -, horder⟩ := (ofJson_exact _).2 index h
  have hlower : Text.lower "Damage" = "damage" ∧ Text.lower "DAMAGE" = "damage" ∧
      Text.lower "x" = "x" := by decide +kernel
  refine ⟨index, h, horder _ ?_, ?_, ?_, ?_⟩
  · refine ⟨_, _, _, _, [speed, mirror, sharp], rfl, rfl, rfl, rfl, ?_, ?_⟩
    · exact (List.reverse_perm [sharp, mirror, speed]).symm
    · exact .cons .same (.cons .same (.cons (.classes rfl rfl (List.Perm.swap _ _ _)) .nil))
  · rw [hexact]
    exact ⟨"Damage", ⟨_, _, _, _, _, rfl, rfl, List.mem_cons_self, rfl,
      .element List.mem_cons_self, rfl⟩, hlower.1⟩
  · rw [hexact]
    exact ⟨"DAMAGE", ⟨_, _, _, _, _, rfl, rfl, .tail _ (.tail _ List.mem_cons_self), rfl,
      .element List.mem_cons_self, rfl⟩, hlower.2.1⟩
  · rw [hinverse, hexact]
    exact ⟨"x", ⟨_, _, _, _, .str "x", rfl, rfl, .tail _ List.mem_cons_self, rfl,
      .character (s := "xy") (c := 'x') (by decide), rfl⟩, hlower.2.2⟩

end FeedWatch.ReferenceIndex
