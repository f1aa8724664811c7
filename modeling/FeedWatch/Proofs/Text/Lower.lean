import FeedWatch.Text.Lower
import Mathlib.Data.Bool.AllAny
import Mathlib.Data.List.Basic
import Mathlib.Data.Nat.Bitwise
import Mathlib.Tactic.IntervalCases

/-!
# Lowered texts

A lowered text holds only characters that lowering leaves as they are, so lowering it again changes
nothing, wherever its words end (`lower_lower`).  Words end at a comma and at an exclamation mark,
so the texts on both sides are lowered by themselves (`lowerFrom_append_break`).  No character is
lowered to nothing, so only the empty text becomes empty (`lower_isEmpty`).
-/

namespace FeedWatch.Text

/-! ## Code points -/

/-- The code points of a run. -/
def CaseRun.codes (run : CaseRun) : List Nat :=
  (List.range ((run.hi - run.lo) / run.step + 1)).map fun k => run.lo + k * run.step

/-- A code point is a capital of the run when it is one of its code points. -/
lemma CaseRun.mem_codes {run : CaseRun} {n : Nat} (hlo : run.lo ≤ n)
    (hhi : n ≤ run.hi) (hmod : (n - run.lo) % run.step = 0) : n ∈ run.codes := by
  have hdiv : (n - run.lo) / run.step * run.step = n - run.lo :=
    Nat.div_mul_cancel (Nat.dvd_of_mod_eq_zero hmod)
  have hle : (n - run.lo) / run.step ≤ (run.hi - run.lo) / run.step :=
    Nat.div_le_div_right (Nat.sub_le_sub_right hhi _)
  refine List.mem_map.2 ⟨(n - run.lo) / run.step, List.mem_range.2 (Nat.lt_succ_of_le hle), ?_⟩
  rw [hdiv, Nat.add_sub_cancel' hlo]

/-- A code point without a lower-case form stays, and one with a lower-case form is in a run. -/
lemma lowerCode_cases (runs : List CaseRun) (n : Nat) :
    lowerCode n runs = n ∨
      ∃ run ∈ runs, n ∈ run.codes ∧ lowerCode n runs = (n + run.shift).toNat := by
  induction runs with
  | nil => exact .inl rfl
  | cons run rest ih =>
    rw [lowerCode]
    split_ifs with hhi hrun
    · rw [Bool.and_eq_true, decide_eq_true_eq, beq_iff_eq] at hrun
      have hmem := CaseRun.mem_codes hrun.1 hhi hrun.2
      exact .inr ⟨run, List.mem_cons_self, hmem, rfl⟩
    · exact .inl rfl
    · obtain hsame | ⟨run', hrun', h⟩ := ih
      · exact .inl hsame
      · exact .inr ⟨run', List.mem_cons_of_mem _ hrun', h⟩

/-- The code points that are lowered to other ones by the runs. -/
def capitals : List Nat := lowerRuns.flatMap CaseRun.codes

/-- The code points that these are lowered to. -/
def smalls : List Nat :=
  lowerRuns.flatMap fun run => run.codes.map fun n : Nat => (n + run.shift).toNat

lemma lowerCode_eq_or_mem_smalls (n : Nat) :
    lowerCode n lowerRuns = n ∨ lowerCode n lowerRuns ∈ smalls := by
  obtain hsame | ⟨run, hrun, hmem, hlower⟩ := lowerCode_cases lowerRuns n
  · exact .inl hsame
  · rw [hlower]
    exact .inr (List.mem_flatMap.2 ⟨run, hrun, List.mem_map.2 ⟨n, hmem, rfl⟩⟩)

/-- A list of numbers as the bits of one number. -/
def bits (ns : List Nat) : Nat := ns.foldr (fun n set => 1 <<< n ||| set) 0

lemma testBit_bits (ns : List Nat) (n : Nat) : (bits ns).testBit n = decide (n ∈ ns) := by
  induction ns with
  | nil => rw [bits, List.foldr_nil, Nat.zero_testBit, decide_eq_false List.not_mem_nil]
  | cons k ns ih =>
    rw [bits, List.foldr_cons, Nat.testBit_or, ← bits, ih, Nat.one_shiftLeft, Nat.testBit_two_pow,
      ← Bool.decide_or]
    exact decide_eq_decide.2 ((or_congr_left eq_comm).trans List.mem_cons.symm)

lemma notMem_of_land_bits {ns ks : List Nat} (h : bits ns &&& bits ks = 0) {n : Nat}
    (hn : n ∈ ns) : n ∉ ks := by
  intro hk
  have hbit := congrArg (Nat.testBit · n) h
  simp only [Nat.testBit_and, testBit_bits, hn, hk, decide_true, Bool.and_true,
    Nat.zero_testBit] at hbit
  cases hbit

/-- No lower-case form is lowered in its turn. -/
lemma bits_smalls : bits smalls &&& bits (0x130 :: capitals) = 0 := by decide +kernel

/-! ## Characters -/

/-- A character that lowering leaves as it is. -/
structure IsLowered (c : Char) : Prop where
  ne_dotted : c.toNat ≠ 0x130
  ne_sigma : c ≠ 'Σ'
  same : lowerCode c.toNat lowerRuns = c.toNat

lemma isLowered_of_notMem {c : Char} (h : c.toNat ∉ 0x130 :: capitals) : IsLowered c := by
  rw [List.mem_cons, not_or] at h
  refine ⟨h.1, ?_, ?_⟩
  · rintro rfl
    revert h
    decide +kernel
  · obtain hsame | ⟨run, hrun, hmem, -⟩ := lowerCode_cases lowerRuns c.toNat
    · exact hsame
    · exact absurd (List.mem_flatMap.2 ⟨run, hrun, hmem⟩) h.2

/-- The character of a lower-case form is lowered. -/
lemma isLowered_of_mem_smalls {n : Nat} (h : n ∈ smalls) : IsLowered (Char.ofNat n) := by
  refine isLowered_of_notMem ?_
  by_cases hvalid : n.isValidChar
  · rw [Char.ofNat, dif_pos hvalid]
    exact notMem_of_land_bits bits_smalls h
  · rw [Char.ofNat, dif_neg hvalid]
    decide +kernel

lemma IsLowered.lowerChar_eq {c : Char} (h : IsLowered c) : lowerChar c = [c] := by
  rw [lowerChar, if_neg h.ne_dotted, h.same, Char.ofNat_toNat]

/-- The lower-case form of a character other than the capital sigma is lowered. -/
lemma isLowered_of_mem_lowerChar {c d : Char} (hc : c ≠ 'Σ') (hd : d ∈ lowerChar c) :
    IsLowered d := by
  rw [lowerChar] at hd
  split_ifs at hd with hdotted
  · rw [List.mem_cons, List.mem_singleton] at hd
    obtain rfl | rfl := hd
    · exact isLowered_of_notMem (by decide +kernel)
    · exact isLowered_of_notMem (by decide +kernel)
  · rw [List.mem_singleton.1 hd]
    obtain hsame | hsmall := lowerCode_eq_or_mem_smalls c.toNat
    · rw [hsame, Char.ofNat_toNat]
      exact ⟨hdotted, hc, hsame⟩
    · exact isLowered_of_mem_smalls hsmall

lemma lowerChar_ne_nil (c : Char) : lowerChar c ≠ [] := by
  rw [lowerChar]
  split_ifs
  · exact List.cons_ne_nil _ _
  · exact List.cons_ne_nil _ _

/-! ## Texts -/

lemma isLowered_of_mem_lowerFrom {before : Bool} {cs : List Char} :
    ∀ d ∈ lowerFrom before cs, IsLowered d := by
  induction cs generalizing before with
  | nil => nofun
  | cons c cs ih =>
    intro d hd
    rw [lowerFrom, List.mem_append] at hd
    obtain hd | hd := hd
    · split_ifs at hd with hsigma
      · rw [List.mem_singleton.1 hd]
        exact isLowered_of_notMem (by decide +kernel)
      · rw [List.mem_singleton.1 hd]
        exact isLowered_of_notMem (by decide +kernel)
      · exact isLowered_of_mem_lowerChar hsigma hd
    · exact ih d hd

/-- Only the capital sigma looks at what stands around it, so nothing else depends on that. -/
lemma lowerFrom_eq_self {before : Bool} {cs : List Char} (h : ∀ c ∈ cs, IsLowered c) :
    lowerFrom before cs = cs := by
  induction cs generalizing before with
  | nil => rfl
  | cons c cs ih =>
    rw [List.forall_mem_cons] at h
    rw [lowerFrom, ih h.2]
    rw [if_neg h.1.ne_sigma, h.1.lowerChar_eq, List.singleton_append]

/-- Lowering a lowered text changes nothing. -/
theorem lower_lower (s : String) : lower (lower s) = lower s := by
  rw [lower, lower, String.toList_ofList, lowerFrom_eq_self isLowered_of_mem_lowerFrom]

example : lower "ΟΔΥΣΣΕΥΣ, İ" = "οδυσσευς, i\u0307" := by decide +kernel

/-! ## What is written behind a text -/

/-- A character that lowering leaves as it is, and that is not cased. -/
structure IsCaseless (c : Char) : Prop where
  lowered : IsLowered c
  uncased : isCased c = false

/-- The characters of signed numerals. -/
def numeralChars : List Char := "0123456789+-".toList

lemma isCaseless_of_mem {c : Char} (h : c ∈ numeralChars) : IsCaseless c := by
  have hall : ∀ d ∈ numeralChars, d.toNat ∉ 0x130 :: capitals ∧ isCased d = false :=
    List.all_iff_forall_prop.1 (by decide +kernel)
  exact ⟨isLowered_of_notMem (hall c h).1, (hall c h).2⟩

lemma mem_numeralChars_of_digit {c : Char} (h : '0' ≤ c ∧ c ≤ '9') : c ∈ numeralChars := by
  have hcode : ∀ n, 48 ≤ n → n ≤ 57 → Char.ofNat n ∈ numeralChars := by
    intro n hlow hhigh
    interval_cases n <;> decide
  rw [← Char.ofNat_toNat c]
  exact hcode c.toNat h.1 h.2

lemma casedAhead_eq_false {tail : List Char} (h : ∀ c ∈ tail, IsCaseless c) :
    casedAhead tail = false := by
  induction tail with
  | nil => rfl
  | cons c tail ih =>
    rw [List.forall_mem_cons] at h
    rw [casedAhead]
    split_ifs
    · exact ih h.2
    · exact h.1.uncased

lemma casedAhead_append {cs tail : List Char} (h : casedAhead tail = false) :
    casedAhead (cs ++ tail) = casedAhead cs := by
  induction cs with
  | nil => exact h
  | cons c cs ih => rw [List.cons_append, casedAhead, casedAhead, ih]

/-- What stands behind a text makes no difference to it when its words end where they ended
before. -/
lemma exists_lowerFrom_append (before : Bool) {cs tail : List Char} (h : casedAhead tail = false) :
    ∃ behind, lowerFrom before (cs ++ tail) = lowerFrom before cs ++ lowerFrom behind tail := by
  induction cs generalizing before with
  | nil => exact ⟨before, rfl⟩
  | cons c cs ih =>
    obtain ⟨behind, hbehind⟩ := ih (if isCaseIgnorable c then before else isCased c)
    refine ⟨behind, ?_⟩
    rw [List.cons_append, lowerFrom, lowerFrom, casedAhead_append h, hbehind, List.append_assoc]

/-- Behind a text, what has no case makes no difference to it, and is not changed either. -/
lemma lowerFrom_append {before : Bool} {cs tail : List Char} (h : ∀ c ∈ tail, IsCaseless c) :
    lowerFrom before (cs ++ tail) = lowerFrom before cs ++ tail := by
  obtain ⟨behind, hbehind⟩ := @exists_lowerFrom_append before cs tail (casedAhead_eq_false h)
  rw [hbehind, lowerFrom_eq_self fun c hc => (h c hc).lowered]

/-! ## Breaks -/

/-- A character at which words end: it has no case, and casing does not look through it. -/
structure IsBreak (c : Char) : Prop where
  caseless : IsCaseless c
  seen : isCaseIgnorable c = false

lemma isBreak_comma : IsBreak ',' :=
  ⟨⟨isLowered_of_notMem (by decide +kernel), by decide +kernel⟩, by decide +kernel⟩

lemma isBreak_bang : IsBreak '!' :=
  ⟨⟨isLowered_of_notMem (by decide +kernel), by decide +kernel⟩, by decide +kernel⟩

section

variable {c : Char} (h : IsBreak c)
include h

/-- Behind a break a text is lowered as if it stood alone. -/
lemma lowerFrom_break {before : Bool} {cs : List Char} :
    lowerFrom before (c :: cs) = c :: lowerFrom false cs := by
  rw [lowerFrom, if_neg h.caseless.lowered.ne_sigma, h.caseless.lowered.lowerChar_eq, h.seen,
    h.caseless.uncased, if_neg Bool.false_ne_true, List.singleton_append]

/-- The texts on both sides of a break are lowered by themselves. -/
lemma lowerFrom_append_break {before : Bool} {cs ds : List Char} :
    lowerFrom before (cs ++ c :: ds) = lowerFrom before cs ++ c :: lowerFrom false ds := by
  have hahead : casedAhead (c :: ds) = false := by
    rw [casedAhead, h.seen, if_neg Bool.false_ne_true, h.caseless.uncased]
  obtain ⟨behind, hbehind⟩ := @exists_lowerFrom_append before cs (c :: ds) hahead
  rw [hbehind, lowerFrom_break h]

end

/-! ## What is in a lowered text -/

/-- The characters that lowering may bring into a text. -/
def smallChars : List Char := ['i', '\u0307', 'ς', 'σ'] ++ smalls.map Char.ofNat

lemma comma_notMem_smallChars : ',' ∉ smallChars := by
  have hall : smallChars.all (· != ',') = true := by decide +kernel
  exact fun h => absurd (List.all_eq_true.1 hall ',' h) (by decide)

lemma mem_lowerChar {c d : Char} (h : d ∈ lowerChar c) : d = c ∨ d ∈ smallChars := by
  rw [lowerChar] at h
  split_ifs at h with hdotted
  · exact .inr (List.mem_append_left _ (List.mem_append_left ['ς', 'σ'] h))
  · rw [List.mem_singleton.1 h]
    obtain hsame | hsmall := lowerCode_eq_or_mem_smalls c.toNat
    · exact .inl (by rw [hsame, Char.ofNat_toNat])
    · exact .inr (List.mem_append_right _ (List.mem_map_of_mem hsmall))

/-- What is in a lowered text was there before, or is a character that lowering brings. -/
lemma mem_lowerFrom {before : Bool} {cs : List Char} {d : Char} (h : d ∈ lowerFrom before cs) :
    d ∈ cs ∨ d ∈ smallChars := by
  induction cs generalizing before with
  | nil => exact .inl h
  | cons c cs ih =>
    rw [lowerFrom, List.mem_append] at h
    obtain h | h := h
    · have hsigmas : ∀ e ∈ ['ς', 'σ'], e ∈ smallChars := fun e he =>
        List.mem_append_left _ (List.mem_append_right ['i', '\u0307'] he)
      split_ifs at h
      · rw [List.mem_singleton.1 h]
        exact .inr (hsigmas 'ς' (by decide))
      · rw [List.mem_singleton.1 h]
        exact .inr (hsigmas 'σ' (by decide))
      · obtain rfl | hsmall := mem_lowerChar h
        · exact .inl List.mem_cons_self
        · exact .inr hsmall
    · exact (ih h).imp_left (List.mem_cons_of_mem c)

lemma comma_notMem_lowerFrom {before : Bool} {cs : List Char} (h : ',' ∉ cs) :
    ',' ∉ lowerFrom before cs := by
  intro hmem
  obtain hcs | hsmall := mem_lowerFrom hmem
  · exact h hcs
  · exact comma_notMem_smallChars hsmall

/-- Only the empty text is lowered to the empty text. -/
lemma lower_isEmpty (s : String) : (lower s).isEmpty = s.isEmpty := by
  rw [Bool.eq_iff_iff, String.isEmpty_iff, String.isEmpty_iff, lower, String.ofList_eq_empty_iff]
  cases hs : s.toList with
  | nil => exact ⟨fun _ => String.toList_eq_nil_iff.1 hs, fun _ => rfl⟩
  | cons c cs =>
    constructor
    · intro h
      rw [lowerFrom, List.append_eq_nil_iff] at h
      obtain ⟨h, -⟩ := h
      split_ifs at h
      exact absurd h (lowerChar_ne_nil c)
    · rintro rfl
      cases hs

end FeedWatch.Text
