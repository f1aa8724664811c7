import FeedWatch.Json.Bytes
import FeedWatch.Proofs.Json.RoundTrip
import Mathlib.Data.List.TakeWhile

/-!
# Numerals that are too long

Reading a JSON text fails at a fault of the text, or at an integer with more digits than can be
read.  The latter is no fault of the text, so it matters where it comes from.  A step of the reader
is faithful if what it leaves is an end of the text it began with, and if an integer of which it
says that it is too long stands there with all its digits.  Main statement: so does the integer at
which reading a whole text fails (`read_tooLong`, `readBytes_tooLong`).  Such an integer alone is a
text on which reading fails so (`read_of_digits`).
-/

namespace FeedWatch

/-- The digits of an integer that is too long stand in a text, one after the other. -/
def TooManyDigits.StandsIn (e : TooManyDigits) (s : List Char) : Prop :=
  digitLimit < e.digits ∧
    ∃ digits, digits <:+: s ∧ (∀ c ∈ digits, Text.isAsciiDigit c = true) ∧ digits.length = e.digits

lemma TooManyDigits.StandsIn.mono {e : TooManyDigits} {s t : List Char} (h : e.StandsIn s)
    (hst : s <:+ t) : e.StandsIn t := by
  obtain ⟨hlong, digits, hdigits, hall, hlength⟩ := h
  exact ⟨hlong, digits, hdigits.trans hst.isInfix, hall, hlength⟩

namespace Json

/-- A step leaves an end of its text, or fails at a fault or at an integer of the text. -/
inductive Faithful {α : Type} {s : List Char} : Step α s → Prop
  | ok {a : α} {rest : Shorter s} (h : rest.1 <:+ s) : Faithful (.ok (a, rest))
  | fault {f : Fault} {left : Nat} : Faithful (.error (.fault f left))
  | tooLong {e : TooManyDigits} (h : e.StandsIn s) : Faithful (.error (.tooLong e))

variable {α β : Type} {s t : List Char} {e : Failure}

namespace Faithful

variable {r : Step α s}

/-- The rest of a step is an end of every text that the step's own is an end of. -/
lemma suffix {a : α} {rest : List Char} {hlt : rest.length < s.length} (h : Faithful r)
    (hr : r = .ok (a, ⟨rest, hlt⟩)) (hst : s <:+ t) : rest <:+ t := by
  subst hr
  cases h with
  | ok hrest => exact hrest.trans hst

/-- A step that fails makes the step fail that it is a part of. -/
lemma error (h : Faithful r) (hr : r = .error e) (hst : s <:+ t) :
    Faithful (.error e : Step β t) := by
  subst hr
  cases h with
  | fault => exact .fault
  | tooLong hlong => exact .tooLong (hlong.mono hst)

end Faithful

lemma suffix_of_drop (n : Nat) (h : s.drop n = t) : t <:+ s := h ▸ List.drop_suffix n s

lemma skipGap_suffix (s : List Char) : skipGap s <:+ s := List.dropWhile_suffix isGap

lemma suffix_of_skipGap {c : Char} {rest : List Char} (h : skipGap s = c :: rest) : rest <:+ s :=
  (List.suffix_cons c rest).trans (h ▸ skipGap_suffix s)

/-! ## Texts -/

lemma joinPair_suffix {high : Nat} {c : Char} {rest : { rest : List Char // rest.length ≤ s.length }}
    (h : joinPair high s = .ok (c, rest)) : rest.1 <:+ s := by
  rw [joinPair.eq_def] at h
  split at h
  · split_ifs at h
    · split at h
      · cases h
      · split_ifs at h
        · obtain ⟨-, rfl⟩ := Prod.mk.inj (Except.ok.inj h)
          exact suffix_of_drop 6 rfl
        · cases h
          exact List.suffix_rfl
    · cases h
      exact List.suffix_rfl
  · cases h
    exact List.suffix_rfl

lemma joinPair_fault {high : Nat} (h : joinPair high s = .error e) :
    ∃ f left, e = .fault f left := by
  rw [joinPair.eq_def] at h
  split at h
  · split_ifs at h
    split at h
    · cases h
      exact ⟨_, _, rfl⟩
    · split_ifs at h
  · cases h

lemma escape_faithful (opened : Nat) (s : List Char) : Faithful (escape opened s) := by
  rw [escape.eq_def]
  split
  · exact .fault
  · split_ifs
    · split
      · split
        · exact .fault
        · split
          next hjoin =>
            obtain ⟨f, left, rfl⟩ := joinPair_fault hjoin
            exact .fault
          next hjoin => exact .ok ((joinPair_suffix hjoin).trans (suffix_of_drop 5 rfl))
      · exact .fault
    · split
      · exact .ok (List.suffix_cons _ _)
      · exact .fault

lemma textBody_faithful (opened : Nat) (s : List Char) : Faithful (textBody opened s) := by
  induction hn : s.length using Nat.strongRecOn generalizing s with
  | ind n ih =>
    subst hn
    rw [textBody.eq_def]
    split
    · exact .fault
    next c rest =>
      have hrest : rest <:+ c :: rest := List.suffix_cons c rest
      split_ifs
      · exact .ok hrest
      · split
        next he => exact (escape_faithful opened rest).error he hrest
        next d rest₁ h₁ he =>
          have hrest₁ := (escape_faithful opened rest).suffix he hrest
          have hbody := ih rest₁.length (by simp only [List.length_cons]; omega) rest₁ rfl
          split
          next hb => exact hbody.error hb hrest₁
          next hb => exact .ok (hbody.suffix hb hrest₁)
      · exact .fault
      · have hbody := ih rest.length (by simp only [List.length_cons]; omega) rest rfl
        split
        next hb => exact hbody.error hb hrest
        next hb => exact .ok (hbody.suffix hb hrest)

/-! ## Numbers -/

lemma spanDigits_suffix (s : List Char) : (spanDigits s).2.1 <:+ s :=
  List.dropWhile_suffix Text.isAsciiDigit

/-- Whole digits are digits, and stand in front of what they leave. -/
lemma wholeDigits_eq_some {whole : List Char} {rest : Shorter s}
    (h : wholeDigits s = some (whole, rest)) :
    whole ++ rest.1 = s ∧ ∀ c ∈ whole, Text.isAsciiDigit c = true := by
  rw [wholeDigits.eq_def] at h
  split at h
  · cases h
  next c tail =>
    split_ifs at h with hzero hdigit
    · cases h
      refine ⟨by rw [hzero]; rfl, List.forall_mem_singleton.2 (by decide)⟩
    · cases h
      refine ⟨congrArg (c :: ·) List.takeWhile_append_dropWhile, List.forall_mem_cons.2 ⟨hdigit, ?_⟩⟩
      exact fun d hd => List.mem_takeWhile_imp hd

lemma decimalPlaces_suffix (s : List Char) : (decimalPlaces s).2.1 <:+ s := by
  rw [decimalPlaces.eq_def]
  split
  next rest =>
    split
    · exact List.suffix_rfl
    next hspan => exact (hspan ▸ spanDigits_suffix rest).trans (List.suffix_cons _ _)
  · exact List.suffix_rfl

lemma powerOfTen_suffix (s : List Char) : (powerOfTen s).2.1 <:+ s := by
  rw [powerOfTen.eq_def]
  split
  · exact List.suffix_rfl
  · split_ifs
    · split
      next rest =>
        split
        · exact List.suffix_rfl
        next hspan => exact (hspan ▸ spanDigits_suffix rest).trans (suffix_of_drop 2 rfl)
      next rest =>
        split
        · exact List.suffix_rfl
        next hspan => exact (hspan ▸ spanDigits_suffix rest).trans (suffix_of_drop 2 rfl)
      next rest _ _ =>
        split
        · exact List.suffix_rfl
        next hspan => exact (hspan ▸ spanDigits_suffix _).trans (List.suffix_cons _ _)
    · exact List.suffix_rfl

/-- An integer is too long when its digits are. -/
lemma numberOf_error {negative : Bool} {whole : List Char} {places : Option (List Char)}
    {power : Option Int} (h : numberOf negative whole places power = .error e) :
    e = .tooLong ⟨whole.length⟩ ∧ digitLimit < whole.length := by
  rw [numberOf.eq_def] at h
  split at h
  · rw [signedInteger] at h
    split_ifs at h with hlong
    cases h
    exact ⟨rfl, hlong⟩
  · cases h

lemma unsigned_faithful (negative : Bool) (start : Nat) (s : List Char) :
    Faithful (unsigned negative start s) := by
  rw [unsigned]
  split
  · exact .fault
  next whole rest₁ h₁ hwhole =>
    obtain ⟨happend, hdigits⟩ := wholeDigits_eq_some hwhole
    have hrest₁ : rest₁ <:+ s := ⟨whole, happend⟩
    have hrest₃ : (powerOfTen (decimalPlaces rest₁).2.1).2.1 <:+ s :=
      ((powerOfTen_suffix _).trans (decimalPlaces_suffix rest₁)).trans hrest₁
    dsimp only
    split
    next hnumber =>
      obtain ⟨rfl, hlong⟩ := numberOf_error hnumber
      exact .tooLong ⟨hlong, whole, (List.prefix_append whole rest₁ |>.trans
        (happend ▸ List.prefix_rfl)).isInfix, hdigits, rfl⟩
    · exact .ok hrest₃

/-! ## Values -/

lemma word?_suffix {v : Json} {rest : Shorter s} (h : word? s = some (v, rest)) : rest.1 <:+ s := by
  rw [word?.eq_def] at h
  split at h
  · cases h
    exact suffix_of_drop 4 rfl
  · cases h
    exact suffix_of_drop 4 rfl
  · cases h
    exact suffix_of_drop 5 rfl
  · cases h
    exact suffix_of_drop 3 rfl
  · cases h
    exact suffix_of_drop 8 rfl
  · cases h
    exact suffix_of_drop 9 rfl
  · cases h

lemma scalar_faithful (s : List Char) : Faithful (scalar s) := by
  rw [scalar.eq_def]
  split
  next hword => exact .ok (word?_suffix hword)
  · split
    next rest _ _ =>
      have hnumber := unsigned_faithful true (rest.length + 1) rest
      split
      next hu => exact hnumber.error hu (List.suffix_cons _ _)
      next hu => exact .ok (hnumber.suffix hu (List.suffix_cons _ _))
    · exact unsigned_faithful false _ _

lemma key_faithful (s : List Char) : Faithful (key s) := by
  rw [key.eq_def]
  split
  · exact .fault
  next c rest =>
    split_ifs
    · have hbody := textBody_faithful (rest.length + 1) rest
      split
      next hb => exact hbody.error hb (List.suffix_cons c rest)
      next cs rest₁ h₁ hb =>
        have hrest₁ := hbody.suffix hb (List.suffix_cons c rest)
        split
        · exact .fault
        next d rest₂ hgap =>
          split_ifs
          · exact .ok ((suffix_of_skipGap hgap).trans hrest₁)
          · exact .fault
    · exact .fault

/-- Values, elements and members are read faithfully from all texts shorter than `n`. -/
def FaithfulBelow (n : Nat) : Prop :=
  ∀ s : List Char, s.length < n → Faithful (value s) ∧ Faithful (elements s) ∧ Faithful (fields s)

lemma FaithfulBelow.skipGap {n : Nat} (h : FaithfulBelow n) (hs : s.length < n) :
    Faithful (value (skipGap s)) ∧ Faithful (elements (skipGap s)) ∧ Faithful (fields (skipGap s)) :=
  h (Json.skipGap s) ((length_skipGap_le s).trans_lt hs)

lemma value_faithful_of (ih : FaithfulBelow s.length) : Faithful (value s) := by
  rw [value.eq_def]
  split
  · exact .fault
  next c rest =>
    have hrest : rest <:+ c :: rest := List.suffix_cons c rest
    have hgap : skipGap rest <:+ c :: rest := (skipGap_suffix rest).trans hrest
    obtain ⟨-, helements, hfields⟩ := ih.skipGap (Nat.lt_succ_self rest.length)
    dsimp only
    split_ifs
    · have hbody := textBody_faithful (rest.length + 1) rest
      split
      next hb => exact hbody.error hb hrest
      next hb => exact .ok (hbody.suffix hb hrest)
    · exact .ok ((List.tail_suffix _).trans hgap)
    · split
      next he => exact helements.error he hgap
      next he => exact .ok (helements.suffix he hgap)
    · exact .ok ((List.tail_suffix _).trans hgap)
    · split
      next hf => exact hfields.error hf hgap
      next hf => exact .ok (hfields.suffix hf hgap)
    · exact scalar_faithful (c :: rest)

lemma elements_faithful_of (ih : FaithfulBelow s.length) : Faithful (elements s) := by
  have hvalue := value_faithful_of ih
  rw [elements.eq_def]
  split
  next hv => exact hvalue.error hv List.suffix_rfl
  next v rest₁ h₁ hv =>
    have hrest₁ := hvalue.suffix hv List.suffix_rfl
    split
    · exact .fault
    next c rest₂ hgap =>
      have hrest₂ := (suffix_of_skipGap hgap).trans hrest₁
      have hmore := (ih.skipGap ((length_lt_of_skipGap hgap).trans h₁)).2.1
      dsimp only
      split_ifs
      · exact .ok hrest₂
      · split
        next he => exact hmore.error he ((skipGap_suffix rest₂).trans hrest₂)
        next he => exact .ok (hmore.suffix he ((skipGap_suffix rest₂).trans hrest₂))
      · exact .fault

lemma fields_faithful_of (ih : FaithfulBelow s.length) : Faithful (fields s) := by
  have hkey := key_faithful s
  rw [fields.eq_def]
  split
  next hk => exact hkey.error hk List.suffix_rfl
  next k rest₁ h₁ hk =>
    have hrest₁ := (skipGap_suffix rest₁).trans (hkey.suffix hk List.suffix_rfl)
    have hvalue := (ih.skipGap h₁).1
    split
    next hv => exact hvalue.error hv hrest₁
    next v rest₂ h₂ hv =>
      have hrest₂ := hvalue.suffix hv hrest₁
      split
      · exact .fault
      next c rest₃ hgap =>
        have hrest₃ := (suffix_of_skipGap hgap).trans hrest₂
        have hlength : rest₃.length < s.length := calc
          rest₃.length < rest₂.length := length_lt_of_skipGap hgap
          _ < (skipGap rest₁).length := h₂
          _ ≤ rest₁.length := length_skipGap_le rest₁
          _ < s.length := h₁
        have hmore := (ih.skipGap hlength).2.2
        dsimp only
        split_ifs
        · exact .ok hrest₃
        · split
          next hf => exact hmore.error hf ((skipGap_suffix rest₃).trans hrest₃)
          next hf => exact .ok (hmore.suffix hf ((skipGap_suffix rest₃).trans hrest₃))
        · exact .fault

/-- Values, elements and members are read faithfully: every part of a text is shorter than it. -/
lemma faithfulBelow (n : Nat) : FaithfulBelow n := by
  induction n with
  | zero => exact fun s hs => absurd hs (Nat.not_lt_zero _)
  | succ n ih =>
    intro s hs
    have hbelow : FaithfulBelow s.length := fun t ht => ih t (by omega)
    exact ⟨value_faithful_of hbelow, elements_faithful_of hbelow, fields_faithful_of hbelow⟩

lemma value_faithful (s : List Char) : Faithful (value s) := value_faithful_of (faithfulBelow _)

/-! ## Whole texts -/

lemma wholeValue_tooLong {e : TooManyDigits} (h : wholeValue s = .error (.tooLong e)) :
    e.StandsIn s := by
  rw [wholeValue] at h
  split at h
  next hv =>
    cases h
    cases ((value_faithful (skipGap s)).error hv (skipGap_suffix s) : Faithful (α := Json) _) with
    | tooLong hlong => exact hlong
  · split_ifs at h
    cases h

/-- The integer at which reading a text fails stands in the text. -/
lemma read_tooLong {text : String} {e : TooManyDigits} (h : read text = .error (.tooLong e)) :
    e.StandsIn text.toList := by
  rw [read] at h
  cases hd : document text.toList with
  | ok v =>
    rw [hd] at h
    cases h
  | error failure =>
    rw [hd] at h
    cases failure with
    | fault f left => cases h
    | tooLong e' =>
      cases h
      rw [document] at hd
      split_ifs at hd
      · cases hd
      · exact wholeValue_tooLong hd

/-- The integer at which reading bytes fails stands in the text that they are. -/
lemma readBytes_tooLong {bytes : ByteArray} {e : TooManyDigits}
    (h : readBytes bytes = .error (.text (.tooLong e))) :
    ∃ text, (Encoding.detect bytes.toList).decode? bytes.toList = some text ∧ e.StandsIn text := by
  rw [readBytes] at h
  split at h
  · cases h
  next text htext =>
    refine ⟨text, htext, ?_⟩
    cases hv : wholeValue text with
    | ok v =>
      rw [hv] at h
      cases h
    | error failure =>
      rw [hv] at h
      cases failure with
      | fault f left => cases h
      | tooLong e' =>
        cases h
        exact wholeValue_tooLong hv

/-! ## Such an integer -/

lemma unsigned_of_digits {negative : Bool} {start : Nat} {c : Char} {cs : List Char} (hc : c ≠ '0')
    (hdigits : ∀ d ∈ c :: cs, Text.isAsciiDigit d = true) (hlong : digitLimit < (c :: cs).length) :
    unsigned negative start (c :: cs) = .error (.tooLong ⟨(c :: cs).length⟩) := by
  have hend : EndsNumber [] := nofun
  have hspan := spanDigits_append (fun d hd => hdigits d (List.mem_cons_of_mem _ hd))
    hend.endsPlaces.endsDigits
  rw [List.append_nil] at hspan
  obtain ⟨_, hspan⟩ := hspan
  have hwhole : ∃ h, wholeDigits (c :: cs) = some (c :: cs, ⟨[], h⟩) := by
    refine ⟨Nat.zero_lt_succ _, ?_⟩
    simp only [wholeDigits, hc, if_false, hdigits c List.mem_cons_self, if_true, hspan]
  obtain ⟨_, hwhole⟩ := hwhole
  have hnumber : numberOf negative (c :: cs) none none = .error (.tooLong ⟨(c :: cs).length⟩) := by
    simp only [numberOf, signedInteger, if_pos hlong]
  unfold unsigned
  rw [hwhole]
  dsimp only
  rw [show decimalPlaces [] = (none, ⟨[], Nat.le_refl _⟩) from rfl]
  dsimp only
  rw [show powerOfTen [] = (none, ⟨[], Nat.le_refl _⟩) from rfl]
  simp only [hnumber]

/-- An integer of too many digits cannot be read. -/
lemma read_of_digits {c : Char} {cs : List Char} (hc : c ≠ '0')
    (hdigits : ∀ d ∈ c :: cs, Text.isAsciiDigit d = true) (hlong : digitLimit < (c :: cs).length) :
    read (String.ofList (c :: cs)) = .error (.tooLong ⟨(c :: cs).length⟩) := by
  have hdigit := hdigits c List.mem_cons_self
  have hne : ∀ d, Text.isAsciiDigit d = false → c ≠ d := by
    rintro d hd rfl
    exact Bool.false_ne_true (hd.symm.trans hdigit)
  have hgap : isGap c = false := by
    simp only [isGap, hne _ (by decide : Text.isAsciiDigit ' ' = false),
      hne _ (by decide : Text.isAsciiDigit '\t' = false),
      hne _ (by decide : Text.isAsciiDigit '\n' = false),
      hne _ (by decide : Text.isAsciiDigit '\r' = false), decide_false, Bool.or_self]
  have hscalar : scalar (c :: cs) = .error (.tooLong ⟨(c :: cs).length⟩) := by
    have hminus : (c :: cs).head? ≠ some '-' := fun h => hne '-' (by decide) (Option.some.inj h)
    rw [scalar_eq_unsigned (word?_digit rfl hdigit) hminus]
    exact unsigned_of_digits hc hdigits hlong
  have hvalue : value (c :: cs) = .error (.tooLong ⟨(c :: cs).length⟩) := by
    rw [value, if_neg (hne _ (by decide)), if_neg (hne _ (by decide)), if_neg (hne _ (by decide)),
      hscalar]
  have hmark : (c :: cs).head? ≠ some '\ufeff' := fun h =>
    hne '\ufeff' (by decide) (Option.some.inj h)
  have hwhole : wholeValue (c :: cs) = .error (.tooLong ⟨(c :: cs).length⟩) := by
    rw [← skipGap_cons (s := cs) hgap] at hvalue
    unfold wholeValue
    rw [hvalue]
    simp only [skipGap_cons hgap]
  rw [read, document, String.toList_ofList, if_neg hmark, hwhole]
  rfl

end Json

end FeedWatch
