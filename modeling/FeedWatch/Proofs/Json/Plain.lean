import FeedWatch.Proofs.Json.Text
import Mathlib.Data.List.Nodup

/-!
# Plain values

A plain value is one that a written text keeps as it is: it has no binary64 numbers, integers that
can be read, and objects without repeated keys.  A value that is fit for writing may have binary64
numbers too.  Main statements: the members of an object without repeated keys are what its settings
leave (`members_of_nodup`), and texts and integers are written in printable ASCII
(`isPrintableAscii_of_mem_textChars`, `isPrintableAscii_of_mem_intChars`).
-/

namespace FeedWatch.Json

/-- A value without binary64 numbers, whose integers can be read and whose keys are all
different. -/
inductive IsPlain : Json → Prop where
  | null : IsPlain .null
  | bool {b} : IsPlain (.bool b)
  | int {i : Int} : (Nat.toDigits 10 i.natAbs).length ≤ digitLimit → IsPlain (.int i)
  | str {s} : IsPlain (.str s)
  | arr {vs} : (∀ v ∈ vs, IsPlain v) → IsPlain (.arr vs)
  | obj {fs : List (String × Json)} :
    (fs.map (·.1)).Nodup →
    (∀ f ∈ fs, IsPlain f.2) →
    IsPlain (.obj fs)

/-- A value whose integers can be read and whose keys are all different. -/
inductive IsFit : Json → Prop where
  | null : IsFit .null
  | bool {b} : IsFit (.bool b)
  | int {i : Int} : (Nat.toDigits 10 i.natAbs).length ≤ digitLimit → IsFit (.int i)
  | real {x} : IsFit (.real x)
  | str {s} : IsFit (.str s)
  | arr {vs} : (∀ v ∈ vs, IsFit v) → IsFit (.arr vs)
  | obj {fs : List (String × Json)} :
    (fs.map (·.1)).Nodup →
    (∀ f ∈ fs, IsFit f.2) →
    IsFit (.obj fs)

lemma IsPlain.isFit {v : Json} (h : v.IsPlain) : v.IsFit := by
  induction h with
  | null => exact .null
  | bool => exact .bool
  | int hi => exact .int hi
  | str => exact .str
  | arr _ ih => exact .arr ih
  | obj hnodup _ ih => exact .obj hnodup ih

/-- An object of texts is plain. -/
lemma isPlain_texts (members : List (String × String)) (h : (members.map Prod.fst).Nodup) :
    (obj (members.map fun m => (m.1, str m.2))).IsPlain := by
  refine .obj ?_ (List.forall_mem_map.2 fun _ _ => .str)
  rw [List.map_map]
  exact h

lemma setMember_of_notMem {k : String} {v : Json} {fs : List (String × Json)}
    (h : k ∉ fs.map (·.1)) : setMember k v fs = fs ++ [(k, v)] := by
  induction fs with
  | nil => rfl
  | cons f fs ih =>
    obtain ⟨k', w⟩ := f
    rw [List.map_cons, List.mem_cons, not_or] at h
    rw [setMember, if_neg (Ne.symm h.1), ih h.2, List.cons_append]

/-- Settings without repeated keys are the members that they leave. -/
lemma members_of_nodup {fs : List (String × Json)} (h : (fs.map (·.1)).Nodup) : members fs = fs := by
  suffices hacc : ∀ acc : List (String × Json), ((acc ++ fs).map (·.1)).Nodup →
      fs.foldl (fun members f => setMember f.1 f.2 members) acc = acc ++ fs from
    hacc [] h
  clear h
  induction fs with
  | nil => intro acc _; rw [List.append_nil]; rfl
  | cons f fs ih =>
    intro acc h
    have hf : f.1 ∉ acc.map (·.1) := by
      rw [List.map_append, List.map_cons] at h
      exact fun hm => (List.nodup_append.1 h).2.2 _ hm _ List.mem_cons_self rfl
    rw [List.foldl_cons]
    simp only [setMember_of_notMem hf]
    rw [List.append_cons] at h
    rw [ih _ h, ← List.append_cons]

/-! ## Written characters -/

lemma isAsciiDigit_of_mem_toDigits {n : Nat} {c : Char} (h : c ∈ Nat.toDigits 10 n) :
    Text.isAsciiDigit c = true := by
  have := Nat.isDigit_of_mem_toDigits (by decide) (by decide) h
  simpa [Char.isDigit, Text.isAsciiDigit, Char.le_def] using this

/-- The characters that a written text may hold besides its spacing. -/
def IsPrintableAscii (c : Char) : Prop := 0x20 ≤ c.toNat ∧ c.toNat ≤ 0x7e

instance (c : Char) : Decidable (IsPrintableAscii c) := inferInstanceAs (Decidable (_ ∧ _))

lemma isPrintableAscii_of_all {s : List Char} (h : s.all (decide <| IsPrintableAscii ·) = true) :
    ∀ c ∈ s, IsPrintableAscii c :=
  fun c hc => of_decide_eq_true (List.all_eq_true.1 h c hc)

lemma isPrintableAscii_digitChar {d : Nat} (h : d < 16) : IsPrintableAscii d.digitChar := by
  interval_cases d <;> decide

lemma isPrintableAscii_of_mem_unitEscape {n : Nat} (hn : n < 0x10000) {c : Char}
    (h : c ∈ unitEscape n) : IsPrintableAscii c := by
  rw [unitEscape, hex_four hn] at h
  simp only [List.mem_cons, List.not_mem_nil, or_false] at h
  obtain rfl | rfl | rfl | rfl | rfl | rfl := h
  · decide
  · decide
  all_goals exact isPrintableAscii_digitChar (by omega)

/-- Every character is written in printable ASCII. -/
lemma isPrintableAscii_of_mem_escapedChar {c d : Char} (h : d ∈ escapedChar c) :
    IsPrintableAscii d := by
  have hrange := toNat_range c
  unfold escapedChar at h
  split_ifs at h with _ _ _ _ _ _ _ hplain hunit
  -- the escapes of two characters are finitely many
  any_goals exact isPrintableAscii_of_all rfl d h
  · obtain rfl := List.mem_singleton.1 h
    simpa [IsPrintableAscii] using hplain
  · exact isPrintableAscii_of_mem_unitEscape hunit h
  · rcases List.mem_append.1 h with h | h
    · exact isPrintableAscii_of_mem_unitEscape (by omega) h
    · exact isPrintableAscii_of_mem_unitEscape (by omega) h

lemma isPrintableAscii_of_mem_textChars {s : String} {c : Char} (h : c ∈ textChars s) :
    IsPrintableAscii c := by
  rw [textChars, List.mem_cons, List.mem_append, List.mem_singleton] at h
  rcases h with rfl | h | rfl
  · decide
  · obtain ⟨d, -, hd⟩ := List.mem_flatMap.1 h
    exact isPrintableAscii_of_mem_escapedChar hd
  · decide

lemma isPrintableAscii_of_isAsciiDigit {c : Char} (h : Text.isAsciiDigit c = true) :
    IsPrintableAscii c := by
  simp only [Text.isAsciiDigit, Bool.and_eq_true, decide_eq_true_eq, Char.le_def,
    UInt32.le_iff_toNat_le] at h
  have h₀ : 0x30 ≤ c.toNat := h.1
  have h₉ : c.toNat ≤ 0x39 := h.2
  exact ⟨by omega, by omega⟩

lemma isPrintableAscii_of_mem_intChars {i : Int} {c : Char} (h : c ∈ intChars i) :
    IsPrintableAscii c := by
  have hdigit : ∀ d ∈ Nat.toDigits 10 i.natAbs, IsPrintableAscii d := by
    exact fun d hd => isPrintableAscii_of_isAsciiDigit (isAsciiDigit_of_mem_toDigits hd)
  unfold intChars at h
  split at h
  · rcases List.mem_cons.1 h with rfl | h
    · decide
    · exact hdigit c h
  · exact hdigit c h

end FeedWatch.Json
