import FeedWatch.Proofs.Query.Meaning
import FeedWatch.Proofs.Text.Lower

/-!
# Clauses with a number at their end

A clause compares a number exactly if its text ends in a digit, or in a digit with one sign behind
it.  `NumericSuffix.Splits` says of such a text what its parts are, without telling how they are
found: the digits are all those that stand there, and a minus directly in front of them is theirs,
so a minus farther in front belongs to the name and one behind them is a sign.  Main statements: a
text is split in exactly one way if it ends in a number and in no way otherwise
(`NumericSuffix.splits_iff`, `endsInNumber_iff`), the clause of a text compares what its parts say,
and a number that is written behind a name, with a sign or none behind it, is read back
(`Clause.compile_splits`).
-/

namespace FeedWatch

variable {text key digits : List Char} {s : NumericSuffix} {c : Comparator} {n : Int}

/-! ## The parts of a text -/

/-- A text that ends in a digit, or in a digit with one sign behind it. -/
def EndsInNumber (text : List Char) : Prop :=
  ∃ front d sign, ('0' ≤ d ∧ d ≤ '9') ∧ IsSign sign ∧ text = front ++ d :: sign

namespace NumericSuffix

/-- The minus in front of the digits, if it is there. -/
def minus (s : NumericSuffix) : List Char := if s.negative then ['-'] else []

/-- The parts of a text: a name, a minus or none, all the digits that stand there, and a sign or
none.  There is a minus exactly if one stands directly in front of the digits. -/
structure Splits (s : NumericSuffix) (text : List Char) : Prop where
  text_eq : text = s.key ++ s.minus ++ s.digits ++ s.comparator.sign.toList
  digits : IsDigits s.digits
  longest : ∀ d, (s.key ++ s.minus).getLast? = some d → ¬ ('0' ≤ d ∧ d ≤ '9')
  minus_iff : s.negative = true ↔ (s.key ++ s.minus).getLast? = some '-'

/-- The parts of a text are what it is taken apart into. -/
lemma splits_iff : s.Splits text ↔ split? text = some s := by
  constructor
  · rintro ⟨rfl, hdigits, hlongest, hminus⟩
    obtain ⟨key, negative, digits, c⟩ := s
    have hback : minusBackwards (key ++ minus ⟨key, negative, digits, c⟩).reverse =
        (negative, key.reverse) := by
      cases negative with
      | true => rw [minus, if_pos rfl, List.reverse_append]; rfl
      | false =>
        rw [minus, if_neg Bool.false_ne_true, List.append_nil] at hminus ⊢
        refine minusBackwards_of_head? fun hhead => ?_
        rw [List.head?_reverse] at hhead
        exact Bool.false_ne_true (hminus.2 hhead)
    rw [split?_append hdigits hlongest, hback, List.reverse_reverse]
  · intro h
    obtain ⟨front, rfl, hdigits, hlongest, hback⟩ := split?_eq_some h
    obtain ⟨hfront, hkey⟩ := minusBackwards_eq hback
    obtain rfl : front = s.key ++ s.minus := by
      have hminus : s.minus.reverse = s.minus := by
        rw [minus]
        split_ifs <;> rfl
      rw [← List.reverse_inj, hfront, List.reverse_append, hminus, minus]
    refine ⟨rfl, hdigits, hlongest, fun hnegative => ?_, fun hlast => ?_⟩
    · rw [minus, if_pos hnegative, List.getLast?_concat]
    · by_contra hnegative
      rw [Bool.not_eq_true] at hnegative
      rw [minus, hnegative, if_neg Bool.false_ne_true, List.append_nil, ← List.head?_reverse] at hlast
      exact hkey hnegative hlast

/-- A text is split in at most one way. -/
lemma Splits.unique {s' : NumericSuffix} (h : s.Splits text) (h' : s'.Splits text) : s = s' :=
  Option.some.inj ((splits_iff.1 h).symm.trans (splits_iff.1 h'))

end NumericSuffix

/-- The texts that end in a number are those that are taken apart. -/
lemma endsInNumber_iff : EndsInNumber text ↔ ∃ s, NumericSuffix.split? text = some s := by
  constructor
  · rintro ⟨front, d, sign, hd, hsign, rfl⟩
    obtain ⟨c, rfl⟩ := NumericSuffix.exists_comparator hsign
    have hback : NumericSuffix.comparatorBackwards (front ++ d :: c.sign.toList).reverse =
        (c, d :: front.reverse) := by
      rw [List.reverse_append, List.reverse_cons, NumericSuffix.reverse_sign, List.append_assoc,
        List.singleton_append]
      exact NumericSuffix.comparatorBackwards_append hd
    rw [NumericSuffix.split?, hback]
    simp [isAsciiDigit_iff.2 hd]
  · rintro ⟨s, h⟩
    obtain ⟨front, rfl, hdigits, -⟩ := NumericSuffix.split?_eq_some h
    have hlast := List.dropLast_append_getLast hdigits.1
    refine ⟨front ++ s.digits.dropLast, s.digits.getLast hdigits.1, s.comparator.sign.toList,
      hdigits.2 _ (List.getLast_mem hdigits.1), NumericSuffix.isSign_sign s.comparator, ?_⟩
    nth_rewrite 1 [← hlast]
    simp only [List.append_assoc, List.singleton_append]

/-! ## Written numbers -/

/-- A number is written in its digits, with a minus in front if it is negative. -/
lemma toList_toString (n : Int) :
    (toString n).toList = (if n < 0 then ['-'] else []) ++ Nat.toDigits 10 n.natAbs := by
  cases n with
  | ofNat n =>
    have hn : ¬ Int.ofNat n < 0 := Int.not_lt.2 (Int.natCast_nonneg n)
    rw [if_neg hn]
    exact String.toList_ofList
  | negSucc n =>
    rw [if_pos (Int.negSucc_lt_zero n)]
    exact (String.toList_append (s := "-")).trans (congrArg (['-'] ++ ·) String.toList_ofList)

lemma isDigits_toDigits_ten (n : Nat) : IsDigits (Nat.toDigits 10 n) := by
  refine ⟨Nat.toDigits_ne_nil, fun d hd => ?_⟩
  have hdigit := Nat.isDigit_of_mem_toDigits (by decide) (by decide) hd
  simpa [Char.isDigit, Char.le_def] using hdigit

lemma decimalValue_toDigits (n : Nat) : decimalValue (Nat.toDigits 10 n) = n := by
  rw [← digitsValue_eq]
  exact Nat.ofDigitChars_ten_toDigits

namespace NumericSuffix

/-- The parts of a text that is written of a name, a number and a sign. -/
def written (key : List Char) (n : Int) (c : Comparator) : NumericSuffix :=
  ⟨key, decide (n < 0), Nat.toDigits 10 n.natAbs, c⟩

lemma number_written : (written key n c).number = n := by
  rw [number, written, decimalValue_toDigits]
  split_ifs with hn
  · have := of_decide_eq_true hn
    omega
  · have := of_decide_eq_false (Bool.not_eq_true _ ▸ hn)
    omega

/-- A number that is written behind a name can be found there, unless it is no negative one and the
name ends in what could belong to it. -/
lemma splits_written
    (hlast : 0 ≤ n → ∀ d, key.getLast? = some d → ¬ ('0' ≤ d ∧ d ≤ '9') ∧ d ≠ '-') :
    (written key n c).Splits (key ++ (toString n).toList ++ c.sign.toList) := by
  have hminus : (written key n c).minus = if n < 0 then ['-'] else [] := by
    simp only [minus, written, decide_eq_true_eq]
  refine ⟨?_, isDigits_toDigits_ten n.natAbs, ?_, ?_⟩
  · rw [toList_toString, hminus, ← List.append_assoc key]
    rfl
  · rw [hminus]
    split_ifs with hn
    · intro d hd
      rw [List.getLast?_concat] at hd
      cases hd
      decide
    · rw [List.append_nil]
      exact fun d hd => (hlast (Int.not_lt.1 hn) d hd).1
  · rw [hminus]
    split_ifs with hn
    · exact ⟨fun _ => List.getLast?_concat, fun _ => decide_eq_true hn⟩
    · rw [List.append_nil]
      exact ⟨fun h => absurd (of_decide_eq_true h) hn,
        fun h => absurd rfl (hlast (Int.not_lt.1 hn) '-' h).2⟩

end NumericSuffix

/-! ## Clauses -/

/-- The comparison that a test makes, if it compares a number. -/
def Test.comparison? : Test → Option Comparison
  | measure _ c => some c
  | classEnchant _ _ c => some c
  | enchant _ c => some c
  | _ => none

variable {index : ReferenceIndex}

lemma Test.comparison?_ofComparison (index : ReferenceIndex) (key : String) (c : Comparison) :
    (ofComparison index key c).comparison? = some c := by
  unfold ofComparison
  split
  · rfl
  · split_ifs <;> rfl

/-- A test with a comparison asks about the name that the comparison stands behind. -/
lemma Test.key_ofComparison (index : ReferenceIndex) (key : String) (c : Comparison) :
    (ofComparison index key c).key = key := by
  unfold ofComparison
  split
  next ha => exact Attribute.ofName?_eq_some ha
  · split_ifs <;> rfl

lemma Test.comparison?_ofName (name : String) : (ofName name).comparison? = none := by
  unfold ofName
  split <;> rfl

lemma Test.key_ofName (name : String) : (ofName name).key = name := by
  unfold ofName
  split
  next ht => exact ItemType.ofName?_eq_some ht
  · rfl

/-- A text in front of which stands no owner is compiled by its number, or else as a name. -/
lemma Test.compile_eq (huuid : ¬ "uuid".toList <+: text) :
    compile index text = match NumericSuffix.split? text with
      | some s => (signedInteger s.negative s.digits).map fun n =>
          ofComparison index (String.ofList s.key) ⟨s.comparator, n⟩
      | none => .ok (ofName (String.ofList text)) := by
  rw [compile.eq_def]
  split
  next name => exact absurd ⟨name, rfl⟩ huuid
  · rfl

lemma NumericSuffix.signedInteger_eq (s : NumericSuffix) : signedInteger s.negative s.digits =
    if digitLimit < s.digits.length then .error ⟨s.digits.length⟩ else .ok s.number := by
  rw [signedInteger, number, digitsValue_eq]

/-! ### What stands behind a name -/

lemma mem_of_mem_sign {d : Char} (h : d ∈ c.sign.toList) : d ∈ Text.numeralChars := by
  cases c with
  | atLeast => rw [List.mem_singleton.1 h]; decide
  | atMost => rw [List.mem_singleton.1 h]; decide
  | equal => cases h

lemma mem_of_mem_behind (h : IsDigits digits) {d : Char} (hd : d ∈ digits ++ c.sign.toList) :
    d ∈ Text.numeralChars := by
  obtain hd | hd := List.mem_append.1 hd
  · exact Text.mem_numeralChars_of_digit (h.2 d hd)
  · exact mem_of_mem_sign hd

lemma mem_of_mem_written {d : Char} (hd : d ∈ (toString n).toList ++ c.sign.toList) :
    d ∈ Text.numeralChars := by
  rw [toList_toString, List.append_assoc] at hd
  obtain hd | hd := List.mem_append.1 hd
  · split_ifs at hd
    · rw [List.mem_singleton.1 hd]
      decide
    · cases hd
  · exact mem_of_mem_behind (isDigits_toDigits_ten n.natAbs) hd

/-- What has no case behind a name does not make an owner of it. -/
lemma not_owner_append {key tail : List Char} (h : ¬ "uuid".toList <+: key)
    (htail : ∀ d ∈ tail, d ∈ Text.numeralChars) : ¬ "uuid".toList <+: key ++ tail := by
  intro howner
  obtain hkey | ⟨rest, hrest⟩ := List.prefix_or_prefix_of_prefix howner (List.prefix_append key tail)
  · exact h hkey
  · cases rest with
    | nil =>
      rw [List.append_nil] at hrest
      exact h (hrest ▸ List.prefix_rfl)
    | cons d rest =>
      -- the first letter behind the name would have to be a letter of the word
      have hletter : d ∈ "uuid".toList := by
        rw [← hrest]
        exact List.mem_append_right _ List.mem_cons_self
      have hbehind : d ∈ tail := by
        rw [← hrest] at howner
        exact ((List.prefix_append_right_inj key).1 howner).mem List.mem_cons_self
      have hnone : ∀ d ∈ "uuid".toList, d ∉ Text.numeralChars :=
        List.all_iff_forall_prop.1 (by decide)
      exact hnone d hletter (htail d hbehind)

/-- Nor does it make a negation of it. -/
lemma head?_append_ne_bang {key tail : List Char} (h : key.head? ≠ some '!')
    (htail : ∀ d ∈ tail, d ∈ Text.numeralChars) : (key ++ tail).head? ≠ some '!' := by
  cases key with
  | nil =>
    intro hbang
    exact absurd (htail '!' (List.mem_of_mem_head? hbang)) (by decide)
  | cons d key => exact h

/-! ### What a clause compares -/

/-- `clause.Asks key comparison?`: a clause asks about a name, with a comparison or with none, and
is not negated. -/
structure Clause.Asks (clause : Clause) (key : List Char) (comparison? : Option Comparison) :
    Prop where
  negated : clause.negated = false
  key : clause.test.key = String.ofList key
  comparison : clause.test.comparison? = comparison?

namespace Clause

/-- Without exclamation marks a clause is its test. -/
lemma compile_eq_test (hbang : text.head? ≠ some '!') :
    compile index text = (Test.compile index text).map fun t => ⟨false, t⟩ := by
  rw [compile_eq, readNegations_of_head? hbang]

section

variable (hbang : text.head? ≠ some '!') (huuid : ¬ "uuid".toList <+: text)
include hbang huuid

/-- A text that is split is compiled to a comparison of its name with its number, unless the number
has too many digits. -/
lemma compile_of_splits (hs : s.Splits text) :
    compile index text =
      if digitLimit < s.digits.length then .error ⟨s.digits.length⟩
      else .ok ⟨false, .ofComparison index (String.ofList s.key) ⟨s.comparator, s.number⟩⟩ := by
  rw [compile_eq_test hbang, Test.compile_eq huuid, NumericSuffix.splits_iff.1 hs]
  dsimp only
  rw [NumericSuffix.signedInteger_eq]
  split_ifs <;> rfl

variable (index) in
lemma compile_of_splits_le (hs : s.Splits text) (hlength : s.digits.length ≤ digitLimit) :
    ∃ clause, compile index text = .ok clause ∧
      clause.Asks s.key (some ⟨s.comparator, s.number⟩) := by
  rw [compile_of_splits hbang huuid hs, if_neg (Nat.not_lt.2 hlength)]
  exact ⟨_, rfl, rfl, Test.key_ofComparison index _ _, Test.comparison?_ofComparison index _ _⟩

/-- A text that does not end in a number is compiled to a test of its name alone. -/
lemma compile_of_not_endsInNumber (h : ¬ EndsInNumber text) :
    ∃ clause, compile index text = .ok clause ∧ clause.Asks text none := by
  have hsplit : NumericSuffix.split? text = none := by
    rw [Option.eq_none_iff_forall_ne_some]
    exact fun s hs => h (endsInNumber_iff.2 ⟨s, hs⟩)
  rw [compile_eq_test hbang, Test.compile_eq huuid, hsplit]
  exact ⟨_, rfl, rfl, Test.key_ofName (String.ofList text), Test.comparison?_ofName _⟩

end

/-- A clause text in front of which stand neither an exclamation mark nor an owner compares a number
exactly if it ends in one.  It is then split in exactly one way, and the clause compares what the
name stands for with the number by the sign; only a number of more than 4300 digits is refused.  So
a name that neither ends in a digit nor in a minus, or any name if the number is negative, is read
back with the number and the sign that are written behind it. -/
theorem compile_splits (index : ReferenceIndex) :
    (∀ text : List Char, text.head? ≠ some '!' → ¬ "uuid".toList <+: text →
      (EndsInNumber text →
        ∃ s : NumericSuffix, s.Splits text ∧ (∀ s' : NumericSuffix, s'.Splits text → s' = s) ∧
          (s.digits.length ≤ 4300 → ∃ clause, compile index text = .ok clause ∧
            clause.Asks s.key (some ⟨s.comparator, s.number⟩)) ∧
          (4300 < s.digits.length → compile index text = .error ⟨s.digits.length⟩)) ∧
      (¬ EndsInNumber text →
        (∀ s : NumericSuffix, ¬ s.Splits text) ∧
        ∃ clause, compile index text = .ok clause ∧ clause.Asks text none)) ∧
    (∀ (key : List Char) (n : Int) (c : Comparator),
      key.head? ≠ some '!' → ¬ "uuid".toList <+: key →
      (0 ≤ n → ∀ d, key.getLast? = some d → ¬ ('0' ≤ d ∧ d ≤ '9') ∧ d ≠ '-') →
      (Nat.toDigits 10 n.natAbs).length ≤ 4300 →
      ∃ clause, compile index (key ++ (toString n).toList ++ c.sign.toList) = .ok clause ∧
        clause.Asks key (some ⟨c, n⟩)) := by
  constructor
  · intro text hbang huuid
    refine ⟨fun hends => ?_, fun hends => ⟨fun s hs => ?_, ?_⟩⟩
    · obtain ⟨s, hsplit⟩ := endsInNumber_iff.1 hends
      have hs := NumericSuffix.splits_iff.2 hsplit
      refine ⟨s, hs, fun s' hs' => hs'.unique hs, compile_of_splits_le index hbang huuid hs, ?_⟩
      intro hlength
      rw [compile_of_splits hbang huuid hs]
      exact if_pos hlength
    · exact hends (endsInNumber_iff.2 ⟨s, NumericSuffix.splits_iff.1 hs⟩)
    · exact compile_of_not_endsInNumber hbang huuid hends
  · intro key n c hbang huuid hlast hlength
    have hs := NumericSuffix.splits_written (c := c) hlast
    have htail : ∀ d ∈ (toString n).toList ++ c.sign.toList, d ∈ Text.numeralChars :=
      fun d hd => mem_of_mem_written hd
    rw [List.append_assoc] at hs ⊢
    have hbang' := head?_append_ne_bang hbang htail
    have huuid' := not_owner_append huuid htail
    have hcompiled := compile_of_splits_le index hbang' huuid' hs hlength
    rwa [NumericSuffix.number_written] at hcompiled

/-- A minus in front of a negative number belongs to the name, and one behind it is the sign. -/
theorem compile_splits_minus : ∃ clause,
    compile .empty ("k-".toList ++ (toString (-5 : Int)).toList ++ ['-']) = .ok clause ∧
      clause.Asks "k-".toList (some ⟨.atMost, -5⟩) :=
  (compile_splits .empty).2 "k-".toList (-5) .atMost (by decide) (by decide) (by decide) (by decide)

end Clause

end FeedWatch
