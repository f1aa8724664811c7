import FeedWatch.Proofs.Query.Splits
import FeedWatch.Proofs.Reference.Index

/-!
# Queries about classes

A class is asked for by its name with a number and a sign behind it.  The index has the lower-case
form of the name alone, while a query is lowered as a whole; the two agree because a number and a
sign have no case, so a word that ends before them ends where it would at the end of the text.
Main statement: such a query compiles, and accepts an item exactly when the reference document lists
a class of that name, in whatever case, at an enchant that the item has at such a level
(`Query.accepts_iff_lists`).
-/

namespace FeedWatch

variable {digits : List Char} {c : Comparator}

/-! ## Compiling -/

/-- A name is lowered by itself when a number and a sign stand behind it. -/
lemma lower_numbered (h : IsDigits digits) (name : String) :
    (Text.lower (name ++ String.ofList digits ++ c.sign)).toList =
      (Text.lower name).toList ++ (digits ++ c.sign.toList) := by
  have hcaseless : ∀ d ∈ digits ++ c.sign.toList, Text.IsCaseless d :=
    fun d hd => Text.isCaseless_of_mem (mem_of_mem_behind h hd)
  rw [Text.lower, Text.lower, String.toList_ofList, String.toList_ofList, String.toList_append,
    String.toList_append, String.toList_ofList, List.append_assoc, Text.lowerFrom_append hcaseless]

/-- A name that a number is asked of as it stands: it is no list of clauses, no negation, no owner
and no attribute, and nothing at its end could belong to a number. -/
structure IsAsked (key : String) : Prop where
  comma : ',' ∉ key.toList
  negation : key.toList.head? ≠ some '!'
  owner : ¬ "uuid".toList <+: key.toList
  measure : key ∉ attributeNames
  last : ∀ d, key.toList.getLast? = some d → ¬ ('0' ≤ d ∧ d ≤ '9') ∧ d ≠ '-'

/-- The clause of a name with a number that can be read. -/
lemma Clause.compile_numbered {index : ReferenceIndex} {key : String} (hkey : IsAsked key)
    (h : IsDigits digits) (hlen : digits.length ≤ digitLimit) :
    Clause.compile index (key.toList ++ (digits ++ c.sign.toList)) =
      .ok ⟨false, .ofComparison index key ⟨c, decimalValue digits⟩⟩ := by
  have htail : ∀ d ∈ digits ++ c.sign.toList, d ∈ Text.numeralChars :=
    fun d hd => mem_of_mem_behind h hd
  have hsplits : NumericSuffix.Splits ⟨key.toList, false, digits, c⟩
      (key.toList ++ (digits ++ c.sign.toList)) := by
    refine ⟨by simp [NumericSuffix.minus], h, fun d hd => ?_, ?_⟩
    · exact (hkey.last d (by simpa [NumericSuffix.minus] using hd)).1
    · refine iff_of_false Bool.false_ne_true fun hlast => ?_
      exact (hkey.last '-' (by simpa [NumericSuffix.minus] using hlast)).2 rfl
  rw [compile_of_splits (head?_append_ne_bang hkey.negation htail)
    (not_owner_append hkey.owner htail) hsplits, if_neg (Nat.not_lt.2 hlen), String.ofList_toList]
  rfl

/-- A name with a number that can be read is a query of one clause. -/
lemma Query.compile_numbered {index : ReferenceIndex} {name : String}
    (hname : IsAsked (Text.lower name)) (h : IsDigits digits)
    (hlen : digits.length ≤ digitLimit) :
    Query.compile index (name ++ String.ofList digits ++ c.sign) =
      .ok ⟨name ++ String.ofList digits ++ c.sign,
        [⟨false, .ofComparison index (Text.lower name) ⟨c, decimalValue digits⟩⟩]⟩ := by
  have hempty : (name ++ String.ofList digits ++ c.sign).isEmpty = false := by
    rw [← Bool.not_eq_true, String.isEmpty_iff, ← String.toList_inj, String.toList_append,
      String.toList_append, String.toList_ofList]
    simp [h.1]
  have hcomma : ',' ∉ (Text.lower name).toList ++ (digits ++ c.sign.toList) := by
    rw [List.mem_append, not_or]
    refine ⟨hname.comma, fun hmem => ?_⟩
    exact absurd (mem_of_mem_behind h hmem) (by decide)
  rw [Query.compile, hempty, lower_numbered h, List.splitOn_eq_singleton hcomma, List.mapM_cons,
    Clause.compile_numbered hname h hlen]
  rfl

/-! ## Matching -/

/-- A query for a class that the document lists, in whatever case its name is written, with a number
of at most 4300 digits behind it and a sign or none, compiles, and it accepts an item exactly when
the item has an enchant at such a level at which the document lists a class of that name, in
whatever case. -/
theorem Query.accepts_iff_lists {doc : Json} {index : ReferenceIndex}
    (hdoc : ReferenceIndex.ofJson doc = .ok index) (htexts : ReferenceIndex.HasTexts doc)
    {name : String} (hlisted : ∃ enchant, ReferenceIndex.Lists doc enchant name)
    (hname : IsAsked (Text.lower name)) {digits : List Char} (hdigits : IsDigits digits)
    (hlen : digits.length ≤ 4300) (c : Comparator) :
    ∃ query, Query.compile index (name ++ String.ofList digits ++ c.sign) = .ok query ∧
      ∀ item : Item, query.accepts item = true ↔
        ∃ e ∈ item.enchants, Compares c.sign.toList e.level (decimalValue digits) ∧
          ∃ other, ReferenceIndex.Lists doc e.key other ∧ Text.lower other = Text.lower name := by
  refine ⟨_, Query.compile_numbered hname hdigits hlen, fun item => ?_⟩
  obtain ⟨enchant, hlists⟩ := hlisted
  have hclass : index.hasClass (Text.lower name) = true :=
    (ReferenceIndex.hasClass_iff hdoc htexts).2 ⟨enchant, name, hlists, rfl⟩
  have hattribute : Attribute.ofName? (Text.lower name) = none := by
    cases ha : Attribute.ofName? (Text.lower name) with
    | none => rfl
    | some a => exact absurd (Attribute.ofName?_eq_some ha ▸ a.name_mem) hname.measure
  have htest : Test.ofComparison index (Text.lower name) ⟨c, decimalValue digits⟩ =
      .classEnchant (Text.lower name) (index.enchantsIn (Text.lower name))
        ⟨c, decimalValue digits⟩ := by
    rw [Test.ofComparison, hattribute]
    exact if_pos hclass
  rw [htest, Query.accepts, List.all_cons, List.all_nil, Bool.and_true, Clause.accepts,
    Test.accepts, bne_iff_ne, ne_comm, Bool.ne_false_iff, List.any_eq_true]
  refine exists_congr fun e => and_congr_right fun _ => ?_
  rw [Bool.and_eq_true, and_comm, Comparison.accepts_iff]
  refine and_congr_right fun _ => ?_
  rw [← ReferenceIndex.mem_enchantsIn_iff hdoc htexts]
  exact List.contains_iff_mem

/-- A class whose name ends in a sigma is asked for in a number with zeros in front. -/
theorem Query.accepts_iff_lists_sigma :
    let doc : Json := .obj [("Pit", .obj [("Mystics", .obj [
      ("sharp", .obj [("Classes", .arr [.str "ΝΟΜΟΣ", .str "Νόμος"])]), ("mirror", .obj []),
      ("speed", .obj [("Classes", .arr [.str "νομος"])])])])]
    let item : Item := {
      id := "1", enchants := [⟨"mirror", 9⟩, ⟨"speed", 3⟩], flags := .empty, typeId := 283
      lives := none, maxLives := none, tokens := none, nonce := none, owner := ""
      lastSeen := .null, typeName := .null }
    ∃ index query, ReferenceIndex.ofJson doc = .ok index ∧
      Query.compile index "ΝΟΜΟΣ002+" = .ok query ∧ query.accepts item = true := by
  intro doc item
  obtain ⟨index, hdoc⟩ : ∃ index, ReferenceIndex.ofJson doc = .ok index := ⟨_, rfl⟩
  have htexts : ReferenceIndex.HasTexts doc := by
    intro pit entries enchant members v hpit hmystics hmem hlookup
    cases hpit
    cases hmystics
    simp only [List.mem_cons, Prod.mk.injEq, Json.obj.injEq, List.not_mem_nil, or_false] at hmem
    obtain ⟨-, rfl⟩ | ⟨-, rfl⟩ | ⟨-, rfl⟩ := hmem
    · cases hlookup
      exact ⟨["ΝΟΜΟΣ", "Νόμος"], rfl⟩
    · cases hlookup
    · cases hlookup
      exact ⟨["νομος"], rfl⟩
  have hlisted : ReferenceIndex.Lists doc "sharp" "ΝΟΜΟΣ" :=
    ⟨_, _, _, _, rfl, rfl, List.mem_cons_self, rfl, List.mem_cons_self⟩
  have hspeed : ReferenceIndex.Lists doc "speed" "νομος" :=
    ⟨_, _, _, _, rfl, rfl, .tail _ (.tail _ List.mem_cons_self), rfl, List.mem_cons_self⟩
  have hlower : Text.lower "ΝΟΜΟΣ" = "νομος" := by decide +kernel
  have hsame : Text.lower "νομος" = "νομος" := by decide +kernel
  have hasked : IsAsked (Text.lower "ΝΟΜΟΣ") := by
    rw [hlower]
    refine ⟨by decide, by decide, by decide, by decide, fun d hd => ?_⟩
    obtain rfl : 'ς' = d := Option.some.inj hd
    decide
  have hdigits : IsDigits ['0', '0', '2'] := ⟨by decide, List.all_iff_forall_prop.1 (by decide)⟩
  obtain ⟨query, hquery, haccepts⟩ := Query.accepts_iff_lists hdoc htexts ⟨"sharp", hlisted⟩ hasked
    hdigits (by decide) .atLeast
  refine ⟨index, query, hdoc, hquery, (haccepts item).2 ?_⟩
  exact ⟨⟨"speed", 3⟩, by decide, .atLeast (by decide), "νομος", hspeed, hsame.trans hlower.symm⟩

end FeedWatch
