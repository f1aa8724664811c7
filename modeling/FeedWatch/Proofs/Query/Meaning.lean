import FeedWatch.Proofs.Except
import FeedWatch.Proofs.Query.Numbered
import Mathlib.Algebra.Ring.Parity

/-!
# What a query text means

The meaning of a query is read directly off its text.  `SegmentHolds` judges one segment between
commas: its exclamation marks are counted, and `TestHolds` judges what stands behind them, with one
rule for an owner, one for a text that ends in a number and one for any other text.  Main
statements: a compiled test accepts an item exactly when the text of the test holds of it
(`Test.accepts_iff_holds`), and so does a compiled query (`accepts_iff_segments_hold`).
-/

namespace FeedWatch

/-- `Compares sign observed target`: a number stands to a target as a sign asks. -/
inductive Compares : List Char → Int → Int → Prop where
  | atLeast {observed target} : target ≤ observed → Compares ['+'] observed target
  | atMost {observed target} : observed ≤ target → Compares ['-'] observed target
  | equal {n} : Compares [] n n

/-- `item.Measures name n`: the item has the number `n` under an attribute name. -/
inductive Item.Measures (item : Item) : String → Int → Prop where
  | tokens {n} : item.tokens = some n → Measures item "tokens" n
  | enchants : Measures item "enchants" item.enchants.length
  | lives {n} : item.lives = some n → Measures item "lives" n
  | maxLives {n} : item.maxLives = some n → Measures item "maxlives" n
  | color {n} : item.nonce = some n → Measures item "color" (n % 5)
  | nonce {n} : item.nonce = some n → Measures item "nonce" n

/-- The names of the attributes. -/
def attributeNames : List String := ["tokens", "enchants", "lives", "maxlives", "color", "nonce"]

/-- The names of the item types, with the numbers that stand for them on items. -/
def typeNumbers : List (String × Int) := [("bow", 261), ("sword", 283), ("pants", 300)]

/-- What a name with a number behind it asks of an item: a name is an attribute, else a class of the
reference, else an enchant. -/
inductive NumberHolds (index : ReferenceIndex) (item : Item) (key : String) (n : Int)
    (sign : List Char) : Prop where
  | measure {v} :
    item.Measures key v →
    Compares sign v n →
    NumberHolds index item key n sign
  | classEnchant {keys e} :
    key ∉ attributeNames →
    index.classEnchants.find? key = some keys →
    e ∈ item.enchants →
    e.key ∈ keys.toList →
    Compares sign e.level n →
    NumberHolds index item key n sign
  | enchant {e} :
    key ∉ attributeNames →
    index.classEnchants.find? key = none →
    e ∈ item.enchants →
    e.key = key →
    Compares sign e.level n →
    NumberHolds index item key n sign

/-- What a name alone asks of an item: it is an item type, else a flag. -/
inductive NameHolds (item : Item) (name : String) : Prop where
  | itemType {id} :
    (name, id) ∈ typeNumbers →
    item.typeId = id →
    NameHolds item name
  | flag :
    (∀ id, (name, id) ∉ typeNumbers) →
    name ∈ item.flags.toList →
    NameHolds item name

/-- What the text of a test asks of an item. -/
inductive TestHolds (index : ReferenceIndex) (item : Item) : List Char → Prop where
  | owner {name} :
    item.owner = String.ofList name →
    TestHolds index item ("uuid".toList ++ name)
  | number {text key n sign} :
    ¬ "uuid".toList <+: text →
    Numbered text key n sign →
    NumberHolds index item (String.ofList key) n sign →
    TestHolds index item text
  | name {text} :
    ¬ "uuid".toList <+: text →
    (∀ key n sign, ¬ Numbered text key n sign) →
    NameHolds item (String.ofList text) →
    TestHolds index item text

/-- What a segment asks of an item: an odd number of exclamation marks turns the test behind them
round. -/
def SegmentHolds (index : ReferenceIndex) (item : Item) (segment : List Char) : Prop :=
  Xor (Odd (segment.takeWhile (· = '!')).length)
    (TestHolds index item (segment.dropWhile (· = '!')))

/-! ## Tests -/

/-- A comparison accepts what stands to its target as its sign asks. -/
lemma Comparison.accepts_iff {c : Comparator} {v n : Int} :
    Comparison.accepts ⟨c, n⟩ v = true ↔ Compares c.sign.toList v n := by
  cases c with
  | atLeast =>
    exact ⟨fun h => .atLeast (of_decide_eq_true h), fun | .atLeast h => decide_eq_true h⟩
  | atMost =>
    exact ⟨fun h => .atMost (of_decide_eq_true h), fun | .atMost h => decide_eq_true h⟩
  | equal =>
    constructor
    · intro h
      obtain rfl : v = n := beq_iff_eq.1 h
      exact .equal
    · intro h
      cases h
      exact beq_self_eq_true v

namespace Attribute

lemma mem_all (a : Attribute) : a ∈ all := by cases a <;> decide

lemma ofName?_eq_some {key : String} {a : Attribute} (h : ofName? key = some a) : a.name = key := by
  simpa using List.find?_some h

lemma ofName?_eq_none {key : String} (h : ofName? key = none) : key ∉ attributeNames := by
  intro hk
  obtain ⟨a, ha, rfl⟩ := List.mem_map.1 (show key ∈ all.map name from hk)
  have := List.find?_eq_none.1 h a ha
  simp at this

lemma name_mem (a : Attribute) : a.name ∈ attributeNames := List.mem_map_of_mem (mem_all a)

/-- Attributes are told apart by their names. -/
lemma name_injective : Function.Injective name := by
  intro a b
  cases a <;> cases b <;> decide

/-- A number that an item has under a name is the value of an attribute with that name. -/
lemma exists_of_measures {item : Item} {key : String} {v : Int} (h : item.Measures key v) :
    ∃ a : Attribute, a.name = key ∧ a.value? item = some v := by
  cases h with
  | tokens h => exact ⟨.tokens, rfl, h⟩
  | enchants => exact ⟨.enchants, rfl, rfl⟩
  | lives h => exact ⟨.lives, rfl, h⟩
  | maxLives h => exact ⟨.maxLives, rfl, h⟩
  | color h => exact ⟨.color, rfl, by rw [value?, Item.color, h, Option.map_some]⟩
  | nonce h => exact ⟨.nonce, rfl, h⟩

/-- The value of an attribute is the number that an item has under its name. -/
lemma value?_eq_some_iff {item : Item} {a : Attribute} {v : Int} :
    a.value? item = some v ↔ item.Measures a.name v := by
  constructor
  · intro h
    cases a with
    | tokens => exact .tokens h
    | enchants => cases h; exact .enchants
    | lives => exact .lives h
    | maxLives => exact .maxLives h
    | color =>
      obtain ⟨n, hn, rfl⟩ := Option.map_eq_some_iff.1 h
      exact .color hn
    | nonce => exact .nonce h
  · intro h
    obtain ⟨b, e, hb⟩ := exists_of_measures h
    cases name_injective e
    exact hb

end Attribute

lemma Item.Measures.name_mem {item : Item} {key : String} {v : Int} (h : item.Measures key v) :
    key ∈ attributeNames := by
  obtain ⟨a, rfl, -⟩ := Attribute.exists_of_measures h
  exact a.name_mem

/-- The rule for a name with a number is the one by which the compiled test goes. -/
lemma Test.ofComparison_accepts_iff {index : ReferenceIndex} {item : Item} {key : String} {n : Int}
    {c : Comparator} :
    (Test.ofComparison index key ⟨c, n⟩).accepts item = true ↔
      NumberHolds index item key n c.sign.toList := by
  unfold Test.ofComparison
  split
  -- an attribute hides a class of the same name, and a class an enchant
  · rename_i a ha
    obtain rfl := Attribute.ofName?_eq_some ha
    rw [Test.accepts, Option.any_eq_true]
    constructor
    · rintro ⟨v, hv, hc⟩
      exact .measure (Attribute.value?_eq_some_iff.1 hv) (Comparison.accepts_iff.1 hc)
    · intro h
      cases h with
      | measure hv hc =>
        exact ⟨_, Attribute.value?_eq_some_iff.2 hv, Comparison.accepts_iff.2 hc⟩
      | classEnchant hn => exact absurd a.name_mem hn
      | enchant hn => exact absurd a.name_mem hn
  · rename_i ha
    have hn := Attribute.ofName?_eq_none ha
    have hclass : index.hasClass key = (index.classEnchants.find? key).isSome := rfl
    have hkeys : index.enchantsIn key = (index.classEnchants.find? key).getD .empty := rfl
    rw [hclass, hkeys]
    cases hf : index.classEnchants.find? key with
    | some keys =>
      simp only [Option.isSome_some, if_true, Option.getD_some, Test.accepts, List.any_eq_true,
        Bool.and_eq_true]
      constructor
      · rintro ⟨e, he, hk, hc⟩
        exact .classEnchant hn hf he (List.contains_iff_mem.1 hk) (Comparison.accepts_iff.1 hc)
      · intro h
        cases h with
        | measure hv => exact absurd hv.name_mem hn
        | classEnchant _ hf' he hk hc =>
          cases hf.symm.trans hf'
          exact ⟨_, he, List.contains_iff_mem.2 hk, Comparison.accepts_iff.2 hc⟩
        | enchant _ hf' => cases hf.symm.trans hf'
    | none =>
      simp only [Option.isSome_none, Bool.false_eq_true, if_false, Test.accepts, List.any_eq_true,
        Bool.and_eq_true, beq_iff_eq]
      constructor
      · rintro ⟨e, he, hk, hc⟩
        exact .enchant hn hf he hk (Comparison.accepts_iff.1 hc)
      · intro h
        cases h with
        | measure hv => exact absurd hv.name_mem hn
        | classEnchant _ hf' => cases hf.symm.trans hf'
        | enchant _ _ he hk hc => exact ⟨_, he, hk, Comparison.accepts_iff.2 hc⟩

lemma ItemType.ofName?_eq_some {name : String} {t : ItemType} (h : ofName? name = some t) :
    t.name = name := by
  simpa using List.find?_some h

lemma ItemType.name_mem (t : ItemType) : (t.name, t.id) ∈ typeNumbers := by cases t <;> decide

/-- A name stands for at most one type. -/
lemma ItemType.eq_id {t : ItemType} {id : Int} (h : (t.name, id) ∈ typeNumbers) : id = t.id := by
  cases t <;> simpa [typeNumbers, ItemType.name, ItemType.id] using h

lemma ItemType.ofName?_eq_none {name : String} (h : ofName? name = none) (id : Int) :
    (name, id) ∉ typeNumbers := by
  intro hm
  have hname : name ∈ all.map ItemType.name := List.mem_map_of_mem (f := Prod.fst) hm
  obtain ⟨t, ht, rfl⟩ := List.mem_map.1 hname
  have := List.find?_eq_none.1 h t ht
  simp at this

/-- The rule for a name alone is the one by which the compiled test goes. -/
lemma Test.ofName_accepts_iff {item : Item} {name : String} :
    (Test.ofName name).accepts item = true ↔ NameHolds item name := by
  unfold Test.ofName
  split
  · rename_i t ht
    obtain rfl := ItemType.ofName?_eq_some ht
    rw [Test.accepts, beq_iff_eq]
    constructor
    · intro h
      exact .itemType t.name_mem h
    · intro h
      cases h with
      | itemType hm he => rw [he, ItemType.eq_id hm]
      | flag hm => exact absurd t.name_mem (hm _)
  · rename_i ht
    have hn := ItemType.ofName?_eq_none ht
    rw [Test.accepts]
    constructor
    · intro h
      exact .flag hn (List.contains_iff_mem.1 h)
    · intro h
      cases h with
      | itemType hm => exact absurd hm (hn _)
      | flag _ hf => exact List.contains_iff_mem.2 hf

/-- What a compiled test is, by the text it was compiled from. -/
lemma Test.compile_cases {index : ReferenceIndex} {text : List Char} {t : Test}
    (h : Test.compile index text = .ok t) :
    (∃ name, text = "uuid".toList ++ name ∧ t = .owner (String.ofList name)) ∨
    (¬ "uuid".toList <+: text ∧ ∃ key n c, Numbered text key n c.sign.toList ∧
      t = .ofComparison index (String.ofList key) ⟨c, n⟩) ∨
    (¬ "uuid".toList <+: text ∧ (∀ key n sign, ¬ Numbered text key n sign) ∧
      t = .ofName (String.ofList text)) := by
  unfold Test.compile at h
  split at h
  · rename_i name
    cases h
    exact .inl ⟨name, rfl, rfl⟩
  · rename_i hu
    have hu : ¬ "uuid".toList <+: text := by
      rintro ⟨name, rfl⟩
      exact hu name rfl
    split at h
    · rename_i s hs
      obtain ⟨n, hn, h⟩ := Except.bind_eq_ok.1 h
      cases h
      have hs := NumericSuffix.split?_sound hs
      rw [show s.number = n from (signedInteger_ok hn).symm] at hs
      exact .inr (.inl ⟨hu, s.key, n, s.comparator, hs, rfl⟩)
    · rename_i hs
      cases h
      exact .inr (.inr ⟨hu, NumericSuffix.not_numbered_of_split?_eq_none hs, rfl⟩)

/-- A compiled test accepts an item exactly when its text holds of the item. -/
lemma Test.accepts_iff_holds {index : ReferenceIndex} {item : Item} {text : List Char} {t : Test}
    (h : Test.compile index text = .ok t) : t.accepts item = true ↔ TestHolds index item text := by
  obtain ⟨name, rfl, rfl⟩ | ⟨hu, key, n, c, hn, rfl⟩ | ⟨hu, hn, rfl⟩ := Test.compile_cases h
  · rw [Test.accepts, beq_iff_eq]
    constructor
    · exact .owner
    · intro h
      -- the cases need a variable for the text
      generalize e : "uuid".toList ++ name = text at h
      cases h with
      | owner ho => rw [ho, List.append_cancel_left e]
      | number hu => exact absurd ⟨name, e⟩ hu
      | name hu => exact absurd ⟨name, e⟩ hu
  · rw [Test.ofComparison_accepts_iff]
    constructor
    · exact .number hu hn
    · intro h
      cases h with
      | owner => exact absurd (List.prefix_append _ _) hu
      | number _ hn' hh =>
        obtain ⟨rfl, rfl, rfl⟩ := hn.unique hn'
        exact hh
      | name _ hn' => exact absurd hn (hn' _ _ _)
  · rw [Test.ofName_accepts_iff]
    constructor
    · exact .name hu hn
    · intro h
      cases h with
      | owner => exact absurd (List.prefix_append _ _) hu
      | number _ hn' => exact absurd hn' (hn _ _ _)
      | name _ _ hh => exact hh

/-! ## Clauses and queries -/

/-- Reading the exclamation marks tells whether their number is odd, and what stands behind them. -/
lemma readNegations_eq (text : List Char) :
    readNegations text =
      (decide (Odd (text.takeWhile (· = '!')).length), text.dropWhile (· = '!')) := by
  induction text with
  | nil => rfl
  | cons c rest ih =>
    by_cases hc : c = '!'
    · subst hc
      rw [readNegations, ih]
      simp [Nat.odd_add_one, -Nat.not_odd_iff_even]
    · rw [readNegations]
      · simp [hc]
      · rintro _ ⟨⟩
        exact hc rfl

lemma readNegations_of_head? {text : List Char} (h : text.head? ≠ some '!') :
    readNegations text = (false, text) := by
  cases text with
  | nil => rfl
  | cons d text =>
    rw [readNegations]
    rintro _ ⟨⟩
    exact h rfl

lemma Clause.compile_eq (index : ReferenceIndex) (text : List Char) :
    compile index text =
      (Test.compile index (readNegations text).2).map fun t => ⟨(readNegations text).1, t⟩ := rfl

/-- A text that is not empty is compiled segment by segment. -/
lemma Query.compile_eq {index : ReferenceIndex} {source : String} (h : source ≠ "") :
    compile index source =
      (((Text.lower source).toList.splitOn ',').mapM (Clause.compile index)).map (mk source) := by
  rw [compile, if_neg (mt String.isEmpty_iff.1 h)]
  rfl

/-- A compiled clause accepts an item exactly when its segment holds of the item. -/
lemma Clause.accepts_iff_holds {index : ReferenceIndex} {item : Item} {segment : List Char}
    {c : Clause} (h : Clause.compile index segment = .ok c) :
    c.accepts item = true ↔ SegmentHolds index item segment := by
  unfold Clause.compile at h
  rw [readNegations_eq] at h
  obtain ⟨t, ht, h⟩ := Except.bind_eq_ok.1 h
  cases h
  rw [Clause.accepts, SegmentHolds, ← Test.accepts_iff_holds ht, bne_iff_ne, xor_iff_not_iff, ne_eq,
    Bool.eq_iff_iff, decide_eq_true_iff]

/-- Compiled clauses all accept an item exactly when all their segments hold of the item. -/
lemma Clause.all_accept_iff_hold {index : ReferenceIndex} {item : Item}
    {segments : List (List Char)} {clauses : List Clause}
    (h : List.Forall₂ (fun s c => Clause.compile index s = .ok c) segments clauses) :
    (∀ c ∈ clauses, c.accepts item = true) ↔ ∀ s ∈ segments, SegmentHolds index item s := by
  induction h with
  | nil => simp
  | cons hc _ ih => rw [List.forall_mem_cons, List.forall_mem_cons, ih, accepts_iff_holds hc]

/-- A compiled query accepts an item exactly when its text is empty or all its segments in lower
case hold of the item. -/
theorem accepts_iff_segments_hold {index : ReferenceIndex} {source : String} {query : Query}
    {item : Item} (h : Query.compile index source = .ok query) :
    query.accepts item = true ↔
      source = "" ∨
        ∀ segment ∈ (Text.lower source).toList.splitOn ',', SegmentHolds index item segment := by
  unfold Query.compile at h
  split at h
  · rename_i he
    cases h
    simp [Query.accepts, String.isEmpty_iff.1 he]
  · rename_i he
    have hne : source ≠ "" := fun e => he (String.isEmpty_iff.2 e)
    obtain ⟨clauses, hcs, h⟩ := Except.bind_eq_ok.1 h
    cases h
    rw [Query.accepts, List.all_eq_true, or_iff_right hne]
    exact Clause.all_accept_iff_hold (Except.mapM_eq_ok_iff.1 hcs)

/-- A negated class and an attribute, of an item that has no enchant of the class. -/
theorem accepts_iff_segments_hold_negated_class :
    let index := ReferenceIndex.ofClasses [("Damage", ["sharp", "mirror"])]
    let source := "!DAMAGE3+,Tokens5-"
    let item : Item := {
      id := "1", enchants := [⟨"sharp", 2⟩, ⟨"speed", 3⟩], flags := .empty, typeId := 283
      lives := none, maxLives := none, tokens := some 5, nonce := none, owner := "bob"
      lastSeen := .null, typeName := .null }
    let query : Query := ⟨source, [
      ⟨true, .classEnchant "damage" (.ofList ["sharp", "mirror"]) ⟨.atLeast, 3⟩⟩,
      ⟨false, .measure .tokens ⟨.atMost, 5⟩⟩]⟩
    Query.compile index source = .ok query ∧ query.accepts item = true ∧
      ∀ segment ∈ (Text.lower source).toList.splitOn ',', SegmentHolds index item segment := by
  intro index source item query
  have hq : Query.compile index source = .ok query := by decide +kernel
  have ha : query.accepts item = true := by decide
  exact ⟨hq, ha, ((accepts_iff_segments_hold hq).1 ha).resolve_left (by decide)⟩

end FeedWatch
