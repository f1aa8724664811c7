import FeedWatch.Proofs.Query.Meaning
import FeedWatch.Proofs.Text.Lower
import Mathlib.Data.List.TakeWhile

/-!
# Queries that do not compile

A query compiles unless one of its segments asks for a number that is too long to be read.
`EndsInLong` and `IsTooLong` say so of a text and of a segment, without telling how the number is
found.  Main statements: a query has a compiled form exactly when no segment is too long
(`Query.exists_compile_iff`), and it is refused with the digits of the first segment that is
(`Query.compile_eq_error_iff`).  The index has no part in it.
-/

namespace FeedWatch

/-- A text that ends in a run of `n` digits, more than can be read, with at most a sign behind
them. -/
inductive EndsInLong : List Char → Nat → Prop where
  | mk {front digits sign} :
    IsDigits digits →
    IsSign sign →
    (∀ c, front.getLast? = some c → ¬ ('0' ≤ c ∧ c ≤ '9')) →
    digitLimit < digits.length →
    EndsInLong (front ++ digits ++ sign) digits.length

/-- A segment whose test is no owner, and ends in a number of `n` digits, more than can be read. -/
def IsTooLong (segment : List Char) (n : Nat) : Prop :=
  ¬ "uuid".toList <+: segment.dropWhile (· = '!') ∧ EndsInLong (segment.dropWhile (· = '!')) n

/-- All numbers of a query text can be read. -/
def IsReadable (source : String) : Prop :=
  ∀ segment ∈ (Text.lower source).toList.splitOn ',', ∀ n, ¬ IsTooLong segment n

/-- The first number of a query text that cannot be read has `n` digits. -/
def FirstTooLong (source : String) (n : Nat) : Prop :=
  ∃ before segment after, (Text.lower source).toList.splitOn ',' = before ++ segment :: after ∧
    (∀ s ∈ before, ∀ m, ¬ IsTooLong s m) ∧ IsTooLong segment n

variable {index : ReferenceIndex} {e : TooManyDigits}

/-! ## Tests -/

lemma signedInteger_eq_error {negative : Bool} {digits : List Char} :
    signedInteger negative digits = .error e ↔
      digitLimit < digits.length ∧ digits.length = e.digits := by
  rw [signedInteger]
  split_ifs with h
  · constructor
    · rintro ⟨⟩
      exact ⟨h, rfl⟩
    · rintro ⟨-, he⟩
      rw [he]
  · exact ⟨nofun, fun hlong => absurd hlong.1 h⟩

/-- A long run of digits is what is taken apart at the end of a text. -/
lemma endsInLong_iff {text : List Char} {n : Nat} : EndsInLong text n ↔
    ∃ s, NumericSuffix.split? text = some s ∧ digitLimit < s.digits.length ∧
      s.digits.length = n := by
  constructor
  · rintro ⟨hdigits, hsign, hlast, hlong⟩
    obtain ⟨c, rfl⟩ := NumericSuffix.exists_comparator hsign
    exact ⟨_, NumericSuffix.split?_append hdigits hlast, hlong, rfl⟩
  · rintro ⟨s, hs, hlong, rfl⟩
    obtain ⟨front, rfl, hdigits, hlast, -⟩ := NumericSuffix.split?_eq_some hs
    exact .mk hdigits (NumericSuffix.isSign_sign s.comparator) hlast hlong

/-- A test is refused exactly for a number at its end that is too long. -/
lemma Test.compile_eq_error_iff {text : List Char} :
    Test.compile index text = .error e ↔ ¬ "uuid".toList <+: text ∧ EndsInLong text e.digits := by
  rw [Test.compile.eq_def]
  split
  next name => exact ⟨nofun, fun h => absurd ⟨name, rfl⟩ h.1⟩
  next hu =>
    have hu : ¬ "uuid".toList <+: text := by
      rintro ⟨name, rfl⟩
      exact hu name rfl
    rw [and_iff_right hu, endsInLong_iff]
    cases hs : NumericSuffix.split? text with
    | none => exact ⟨nofun, nofun⟩
    | some s =>
      have hread : ∀ f : Int → Test,
          (signedInteger s.negative s.digits >>= fun n => pure (f n)) = .error e ↔
            digitLimit < s.digits.length ∧ s.digits.length = e.digits := by
        intro f
        rw [Except.bind_pure_eq_error, signedInteger_eq_error]
      refine (hread _).trans ⟨fun h => ⟨s, rfl, h⟩, ?_⟩
      rintro ⟨s, ⟨⟩, h⟩
      exact h

/-! ## Segments and queries -/

lemma Clause.compile_eq_error_iff {segment : List Char} :
    Clause.compile index segment = .error e ↔ IsTooLong segment e.digits := by
  rw [Clause.compile_eq, Except.map_eq_error, Test.compile_eq_error_iff, readNegations_eq,
    IsTooLong]

lemma Clause.exists_compile_iff {segment : List Char} :
    (∃ c, Clause.compile index segment = .ok c) ↔ ∀ n, ¬ IsTooLong segment n := by
  constructor
  · rintro ⟨c, hc⟩ n hlong
    cases hc.symm.trans (compile_eq_error_iff (e := ⟨n⟩).2 hlong)
  · intro h
    cases hc : Clause.compile index segment with
    | ok c => exact ⟨c, rfl⟩
    | error e => exact absurd (compile_eq_error_iff.1 hc) (h e.digits)

/-- A segment without anything in it asks for no number. -/
lemma not_isTooLong_nil (n : Nat) : ¬ IsTooLong [] n := by
  rintro ⟨-, hlong⟩
  obtain ⟨s, hs, -⟩ := endsInLong_iff.1 hlong
  cases hs

/-- The empty text is one segment without anything in it. -/
lemma isReadable_empty : IsReadable "" := by
  intro segment hsegment
  rw [List.mem_singleton.1 hsegment]
  exact not_isTooLong_nil

lemma FirstTooLong.not_isReadable {source : String} {n : Nat} (h : FirstTooLong source n) :
    ¬ IsReadable source := by
  obtain ⟨before, segment, after, hsplit, -, hlong⟩ := h
  intro hreadable
  exact hreadable segment (hsplit ▸ List.mem_append_right _ List.mem_cons_self) n hlong

namespace Query

variable {source : String}

/-- A query compiles exactly when all its numbers can be read. -/
lemma exists_compile_iff : (∃ query, compile index source = .ok query) ↔ IsReadable source := by
  obtain rfl | hne := eq_or_ne source ""
  · exact ⟨fun _ => isReadable_empty, fun _ => ⟨_, rfl⟩⟩
  · have hclause : ∀ segment, (∀ n, ¬ IsTooLong segment n) ↔
        ∃ clause, Clause.compile index segment = .ok clause :=
      fun _ => Clause.exists_compile_iff.symm
    rw [compile_eq hne, IsReadable]
    simp only [Except.map_eq_ok, hclause, ← Except.exists_mapM_eq_ok_iff]
    exact ⟨fun ⟨_, clauses, h, _⟩ => ⟨clauses, h⟩, fun ⟨clauses, h⟩ => ⟨_, clauses, h, rfl⟩⟩

/-- A query is refused for the first of its numbers that cannot be read. -/
lemma compile_eq_error_iff : compile index source = .error e ↔ FirstTooLong source e.digits := by
  obtain rfl | hne := eq_or_ne source ""
  · exact ⟨nofun, fun h => absurd isReadable_empty h.not_isReadable⟩
  · rw [compile_eq hne, Except.map_eq_error, Except.mapM_eq_error_iff, FirstTooLong]
    simp only [Clause.exists_compile_iff, Clause.compile_eq_error_iff]

end Query

/-- A text that is nothing but a number of too many digits. -/
lemma firstTooLong_ofList {digits : List Char} (h : IsDigits digits)
    (hlong : digitLimit < digits.length) :
    FirstTooLong (String.ofList digits) digits.length := by
  have hnot : ∀ c : Char, ¬ ('0' ≤ c ∧ c ≤ '9') → c ∉ digits := fun c hc hmem => hc (h.2 c hmem)
  have hlower : (Text.lower (String.ofList digits)).toList = digits := by
    rw [Text.lower, String.toList_ofList, String.toList_ofList]
    exact Text.lowerFrom_eq_self fun d hd =>
      (Text.isCaseless_of_mem (Text.mem_numeralChars_of_digit (h.2 d hd))).lowered
  refine ⟨[], digits, [], ?_, List.forall_mem_nil _, ?_⟩
  · rw [hlower]
    exact List.splitOn_eq_singleton (hnot ',' (by decide))
  · have hmarks : digits.dropWhile (· = '!') = digits := by
      refine List.dropWhile_eq_self_iff.2 fun hne hmark => ?_
      exact hnot '!' (by decide) (of_decide_eq_true hmark ▸ List.getElem_mem hne)
    rw [IsTooLong, hmarks]
    constructor
    · intro huuid
      exact hnot 'u' (by decide) (huuid.subset (by decide))
    · have hends : EndsInLong ([] ++ digits ++ []) digits.length := by
        refine .mk h .none ?_ hlong
        rintro _ ⟨⟩
      rwa [List.nil_append, List.append_nil] at hends

/-- The digit one, as often as cannot be read. -/
lemma firstTooLong_replicate {n : Nat} (hlong : digitLimit < n) :
    FirstTooLong (String.ofList (List.replicate n '1')) n := by
  have hdigits : IsDigits (List.replicate n '1') := by
    refine ⟨fun hnil => ?_, fun c hc => ?_⟩
    · rw [List.replicate_eq_nil_iff] at hnil
      exact Nat.not_lt_zero _ (hnil ▸ hlong)
    · rw [List.eq_of_mem_replicate hc]
      decide
  have hfirst := firstTooLong_ofList hdigits (by rwa [List.length_replicate])
  rwa [List.length_replicate] at hfirst

end FeedWatch
