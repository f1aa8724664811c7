import FeedWatch.Proofs.Json.Reals

/-!
# Reading written values

The rules of the reader are stated one by one (`value_array`, `elements_more`, `fields_last` and so
on), and the writer is followed rule by rule.  Main statements: reading what is written of a value
gives the value that its text denotes and leaves what stands behind it (`value_chars`), and so does
reading a text that was written with one part a line (`read_reread`).  A plain value comes back as
it was, from such a text (`read_indented`) and from one line (`read_inline`).
-/

namespace FeedWatch.Json

/-- The spacing sets parts apart by gaps only. -/
structure Spacing.IsBlank (sp : Spacing) : Prop where
  line : ∀ depth, ∀ c ∈ sp.line depth, isGap c = true
  next : ∀ depth, ∀ c ∈ sp.next depth, isGap c = true

lemma indented_isBlank : Spacing.indented.IsBlank := by
  have h : ∀ depth, ∀ c ∈ '\n' :: List.replicate (2 * depth) ' ', isGap c = true := by
    intro depth c hc
    rcases List.mem_cons.1 hc with rfl | hc
    · rfl
    · rw [List.eq_of_mem_replicate hc]
      rfl
  exact ⟨h, h⟩

lemma inline_isBlank : Spacing.inline.IsBlank :=
  ⟨fun _ => nofun, fun _ => List.forall_mem_singleton.2 rfl⟩

/-! ## Gaps -/

lemma skipGap_append {gap s : List Char} (h : ∀ c ∈ gap, isGap c = true) :
    skipGap (gap ++ s) = skipGap s :=
  List.dropWhile_append_of_pos h

lemma skipGap_cons {c : Char} {s : List Char} (h : isGap c = false) : skipGap (c :: s) = c :: s := by
  rw [skipGap, List.dropWhile_cons, h]
  rfl

/-- A gap can stand behind a number if what is behind it can. -/
lemma endsNumber_gap {gap s : List Char} (h : ∀ c ∈ gap, isGap c = true) (hs : EndsNumber s) :
    EndsNumber (gap ++ s) := by
  cases gap with
  | nil => exact hs
  | cons g gap =>
    intro d hd
    obtain rfl : g = d := by simpa using hd
    have hg := h g List.mem_cons_self
    simp only [isGap, Bool.or_eq_true, decide_eq_true_eq] at hg
    obtain ((rfl | rfl) | rfl) | rfl := hg <;> decide

/-! ## Rules of the reader -/

lemma value_text {s cs rest : List Char}
    (h : Gives (textBody (s.length + 1)) s cs rest) :
    Gives value ('\x22' :: s) (.str (String.ofList cs)) rest := by
  obtain ⟨_, h⟩ := h
  rw [Gives, value, if_pos rfl, h]
  exact ⟨_, rfl⟩

lemma value_array_empty {s rest : List Char} (h : skipGap s = ']' :: rest) :
    Gives value ('[' :: s) (.arr []) rest := by
  have hlt := length_lt_of_skipGap h
  rw [Gives, value, if_neg (by decide), if_pos rfl, if_pos (by rw [h]; rfl)]
  exact ⟨by simp only [List.length_cons]; omega, by simp only [h, List.tail_cons]⟩

lemma value_array {s rest : List Char} {vs : List Json} (hne : (skipGap s).head? ≠ some ']')
    (h : Gives elements (skipGap s) vs rest) : Gives value ('[' :: s) (.arr vs) rest := by
  obtain ⟨_, h⟩ := h
  rw [Gives, value, if_neg (by decide), if_pos rfl, if_neg hne, h]
  exact ⟨_, rfl⟩

lemma value_object_empty {s rest : List Char} (h : skipGap s = '\x7d' :: rest) :
    Gives value ('\x7b' :: s) (.obj []) rest := by
  have hlt := length_lt_of_skipGap h
  rw [Gives, value, if_neg (by decide), if_neg (by decide), if_pos rfl, if_pos (by rw [h]; rfl)]
  exact ⟨by simp only [List.length_cons]; omega, by simp only [h, List.tail_cons]⟩

lemma value_object {s rest : List Char} {fs : List (String × Json)}
    (hne : (skipGap s).head? ≠ some '\x7d') (h : Gives fields (skipGap s) fs rest) :
    Gives value ('\x7b' :: s) (.obj (members fs)) rest := by
  obtain ⟨_, h⟩ := h
  rw [Gives, value, if_neg (by decide), if_neg (by decide), if_pos rfl, if_neg hne, h]
  exact ⟨_, rfl⟩

lemma value_scalar {c : Char} {s rest : List Char} {v : Json}
    (hc : c ≠ '\x22' ∧ c ≠ '[' ∧ c ≠ '\x7b') (h : Gives scalar (c :: s) v rest) :
    Gives value (c :: s) v rest := by
  obtain ⟨hlt, h⟩ := h
  refine ⟨hlt, ?_⟩
  rw [value, if_neg hc.1, if_neg hc.2.1, if_neg hc.2.2, h]

lemma elements_last {s rest₁ rest : List Char} {v : Json} (h : Gives value s v rest₁)
    (hclose : skipGap rest₁ = ']' :: rest) : Gives elements s [v] rest := by
  obtain ⟨h₁, h⟩ := h
  have hlt := length_lt_of_skipGap hclose
  refine ⟨by omega, ?_⟩
  rw [elements, h]
  simp only
  split
  · rename_i hnil
    cases hnil.symm.trans hclose
  · rename_i hcons
    cases hcons.symm.trans hclose
    rfl

lemma elements_more {s rest₁ rest₂ rest : List Char} {v : Json} {vs : List Json}
    (h : Gives value s v rest₁) (hnext : skipGap rest₁ = ',' :: rest₂)
    (hs : Gives elements (skipGap rest₂) vs rest) : Gives elements s (v :: vs) rest := by
  obtain ⟨h₁, h⟩ := h
  obtain ⟨h₂, hs⟩ := hs
  have hlt := length_lt_of_skipGap hnext
  have hle := length_skipGap_le rest₂
  refine ⟨by omega, ?_⟩
  rw [elements, h]
  simp only
  split
  · rename_i hnil
    cases hnil.symm.trans hnext
  · rename_i hcons
    cases hcons.symm.trans hnext
    simp only [hs]
    rfl

lemma key_text {s cs rest₁ rest : List Char} (h : Gives (textBody (s.length + 1)) s cs rest₁)
    (hcolon : skipGap rest₁ = ':' :: rest) : Gives key ('\x22' :: s) (String.ofList cs) rest := by
  obtain ⟨h₁, h⟩ := h
  have hlt := length_lt_of_skipGap hcolon
  refine ⟨by simp only [List.length_cons]; omega, ?_⟩
  rw [key, if_pos rfl, h]
  simp only
  split
  · rename_i hnil
    cases hnil.symm.trans hcolon
  · rename_i hcons
    cases hcons.symm.trans hcolon
    rfl

lemma fields_last {s rest₁ rest₂ rest : List Char} {k : String} {v : Json}
    (hk : Gives key s k rest₁) (hv : Gives value (skipGap rest₁) v rest₂)
    (hclose : skipGap rest₂ = '\x7d' :: rest) : Gives fields s [(k, v)] rest := by
  obtain ⟨h₁, hk⟩ := hk
  obtain ⟨h₂, hv⟩ := hv
  have hlt := length_lt_of_skipGap hclose
  have hle := length_skipGap_le rest₁
  refine ⟨by omega, ?_⟩
  rw [fields, hk]
  simp only [hv]
  split
  · rename_i hnil
    cases hnil.symm.trans hclose
  · rename_i hcons
    cases hcons.symm.trans hclose
    rfl

lemma fields_more {s rest₁ rest₂ rest₃ rest : List Char} {k : String} {v : Json}
    {fs : List (String × Json)} (hk : Gives key s k rest₁)
    (hv : Gives value (skipGap rest₁) v rest₂) (hnext : skipGap rest₂ = ',' :: rest₃)
    (hs : Gives fields (skipGap rest₃) fs rest) : Gives fields s ((k, v) :: fs) rest := by
  obtain ⟨h₁, hk⟩ := hk
  obtain ⟨h₂, hv⟩ := hv
  obtain ⟨h₃, hs⟩ := hs
  have hlt := length_lt_of_skipGap hnext
  have hle₁ := length_skipGap_le rest₁
  have hle₃ := length_skipGap_le rest₃
  refine ⟨by omega, ?_⟩
  rw [fields, hk]
  simp only [hv]
  split
  · rename_i hnil
    cases hnil.symm.trans hnext
  · rename_i hcons
    cases hcons.symm.trans hnext
    simp only [hs]
    rfl

/-! ## Written characters -/

/-- What holds of printable ASCII characters and of the spacing holds of all written characters. -/
lemma forall_mem_chars {P : Char → Prop} {sp : Spacing} (hp : ∀ c, IsPrintableAscii c → P c)
    (hline : ∀ depth, ∀ c ∈ sp.line depth, P c) (hnext : ∀ depth, ∀ c ∈ sp.next depth, P c)
    {v : Json} (hv : v.IsFit) (depth : Nat) : ∀ c ∈ chars sp depth v, P c := by
  have htext : ∀ s, ∀ c ∈ textChars s, P c :=
    fun s c hc => hp c (isPrintableAscii_of_mem_textChars hc)
  have hword : ∀ s : List Char, s.all (decide <| IsPrintableAscii ·) = true → ∀ c ∈ s, P c :=
    fun s hs c hc => hp c (isPrintableAscii_of_all hs c hc)
  induction hv generalizing depth with
  | null => exact hword "null".toList (by decide)
  | @bool b => cases b with
    | true => exact hword "true".toList (by decide)
    | false => exact hword "false".toList (by decide)
  | int => exact fun c hc => hp c (isPrintableAscii_of_mem_intChars hc)
  | real => exact fun c hc => hp c (isPrintableAscii_of_mem_realChars hc)
  | @str s => exact htext s
  | @arr vs _ ih =>
    have helements : ∀ ws : List Json, (∀ w ∈ ws, w ∈ vs) →
        ∀ c ∈ elementChars sp (depth + 1) ws, P c := by
      intro ws hws
      induction ws with
      | nil => nofun
      | cons w ws ihw =>
        have hw := ih w (hws w List.mem_cons_self) (depth + 1)
        have hrest := ihw fun u hu => hws u (List.mem_cons_of_mem _ hu)
        simp only [elementChars, List.forall_mem_cons, List.forall_mem_append]
        exact ⟨hp _ (by decide), ⟨hnext _, hw⟩, hrest⟩
    cases vs with
    | nil => exact hword ['[', ']'] (by decide)
    | cons v vs =>
      have hv := ih v List.mem_cons_self (depth + 1)
      have hvs := helements vs fun w hw => List.mem_cons_of_mem _ hw
      simp only [chars, List.forall_mem_cons, List.forall_mem_append, List.not_mem_nil,
        IsEmpty.forall_iff, implies_true, and_true]
      exact ⟨hp _ (by decide), ⟨hline _, hv⟩, hvs, hline _, hp _ (by decide)⟩
  | @obj fs _ _ ih =>
    have hmembers : ∀ gs : List (String × Json), (∀ g ∈ gs, g ∈ fs) →
        ∀ c ∈ memberChars sp (depth + 1) gs, P c := by
      intro gs hgs
      induction gs with
      | nil => nofun
      | cons g gs ihg =>
        obtain ⟨k, w⟩ := g
        have hw := ih (k, w) (hgs _ List.mem_cons_self) (depth + 1)
        have hrest := ihg fun u hu => hgs u (List.mem_cons_of_mem _ hu)
        simp only [memberChars, List.forall_mem_cons, List.forall_mem_append]
        exact ⟨hp _ (by decide), ⟨hnext _, htext k, hp _ (by decide), hp _ (by decide), hw⟩, hrest⟩
    cases fs with
    | nil => exact hword ['\x7b', '\x7d'] (by decide)
    | cons f fs =>
      obtain ⟨k, v⟩ := f
      have hv := ih (k, v) List.mem_cons_self (depth + 1)
      have hfs := hmembers fs fun w hw => List.mem_cons_of_mem _ hw
      simp only [chars, List.forall_mem_cons, List.forall_mem_append, List.not_mem_nil,
        IsEmpty.forall_iff, implies_true, and_true]
      exact ⟨hp _ (by decide), ⟨hline _, htext k, hp _ (by decide), hp _ (by decide), hv⟩, hfs,
        hline _, hp _ (by decide)⟩

/-! ## Values -/

mutual

/-- The value that is read of what is written of a value: its binary64 numbers are those that their
texts denote. -/
def reread : Json → Json
  | real x => real x.reread
  | arr vs => arr (rereadElements vs)
  | obj fs => obj (rereadMembers fs)
  | v => v

/-- The elements that are read of what is written of some elements. -/
def rereadElements : List Json → List Json
  | [] => []
  | v :: vs => reread v :: rereadElements vs

/-- The members that are read of what is written of some members. -/
def rereadMembers : List (String × Json) → List (String × Json)
  | [] => []
  | (k, v) :: fs => (k, reread v) :: rereadMembers fs

end

lemma rereadElements_eq (vs : List Json) : rereadElements vs = vs.map reread := by
  induction vs with
  | nil => rw [rereadElements, List.map_nil]
  | cons v vs ih => rw [rereadElements, ih, List.map_cons]

lemma map_fst_rereadMembers (fs : List (String × Json)) :
    (rereadMembers fs).map (·.1) = fs.map (·.1) := by
  induction fs with
  | nil => rw [rereadMembers]
  | cons f fs ih => rw [rereadMembers, List.map_cons, List.map_cons, ih]

lemma lookup_rereadMembers (key : String) (fs : List (String × Json)) :
    (rereadMembers fs).lookup key = (fs.lookup key).map reread := by
  induction fs with
  | nil => rw [rereadMembers]; rfl
  | cons f fs ih =>
    rw [rereadMembers, List.lookup_cons, List.lookup_cons, ih]
    cases key == f.1 <;> rfl

/-- A plain value is read as it was. -/
lemma reread_of_isPlain {v : Json} (h : v.IsPlain) : v.reread = v := by
  induction h with
  | null | bool | int | str => rw [reread] <;> exact nofun
  | @arr vs _ ih =>
    rw [reread, rereadElements_eq, List.map_congr_left ih, List.map_id']
  | @obj fs _ _ ih =>
    have hmembers : rereadMembers fs = fs := by
      clear * - ih
      induction fs with
      | nil => rw [rereadMembers]
      | cons f fs ihfs =>
        rw [List.forall_mem_cons] at ih
        rw [rereadMembers, ih.1, ihfs ih.2]
    rw [reread, hmembers]

/-- Reading what is written of a value, whatever may stand behind a number. -/
def Reads (sp : Spacing) (v : Json) : Prop :=
  ∀ depth rest, EndsNumber rest → Gives value (chars sp depth v ++ rest) v.reread rest

/-- A written value begins with no gap and closes nothing. -/
lemma head?_chars (sp : Spacing) (depth : Nat) {v : Json} (hv : v.IsFit) :
    ∃ c s, chars sp depth v = c :: s ∧ isGap c = false ∧ c ≠ ']' := by
  cases hv with
  | null => exact ⟨'n', _, rfl, rfl, by decide⟩
  | @bool b => cases b with
    | true => exact ⟨'t', _, rfl, rfl, by decide⟩
    | false => exact ⟨'f', _, rfl, rfl, by decide⟩
  | @int i =>
    obtain ⟨c, s, e, hc⟩ := intChars_cons i
    exact ⟨c, s, e, hc.not_isGap, hc.ne (by unfold BeginsNumber; decide)⟩
  | @real x =>
    obtain ⟨c, s, e, hc | rfl | rfl⟩ := realChars_cons x
    · exact ⟨c, s, e, hc.not_isGap, hc.ne (by unfold BeginsNumber; decide)⟩
    · exact ⟨'N', s, e, rfl, by decide⟩
    · exact ⟨'I', s, e, rfl, by decide⟩
  | str => exact ⟨'\x22', _, rfl, rfl, by decide⟩
  | @arr vs => cases vs with
    | nil => exact ⟨'[', _, rfl, rfl, by decide⟩
    | cons v vs => exact ⟨'[', _, rfl, rfl, by decide⟩
  | @obj fs => cases fs with
    | nil => exact ⟨'\x7b', _, rfl, rfl, by decide⟩
    | cons f fs => exact ⟨'\x7b', _, rfl, rfl, by decide⟩

/-- The gap before a written value is passed over. -/
lemma skipGap_chars {sp : Spacing} {depth : Nat} {v : Json} {gap s : List Char} (hv : v.IsFit)
    (hgap : ∀ c ∈ gap, isGap c = true) :
    skipGap (gap ++ (chars sp depth v ++ s)) = chars sp depth v ++ s := by
  obtain ⟨c, cs, e, hc, -⟩ := head?_chars sp depth hv
  rw [skipGap_append hgap, e, List.cons_append, skipGap_cons hc]

/-- The elements of a written array are read one by one, up to the closing bracket. -/
lemma elements_chars {sp : Spacing} (hsp : sp.IsBlank) (depth : Nat) {v : Json} {vs : List Json}
    {gap : List Char} (rest : List Char) (hgap : ∀ c ∈ gap, isGap c = true)
    (hvs : ∀ w ∈ v :: vs, w.IsFit ∧ Reads sp w) :
    Gives elements (chars sp depth v ++ (elementChars sp depth vs ++ (gap ++ ']' :: rest)))
      (rereadElements (v :: vs)) rest := by
  -- the first element is read, and then a comma or the bracket decides how it goes on
  induction vs generalizing v with
  | nil =>
    obtain ⟨-, hv⟩ := hvs v List.mem_cons_self
    rw [elementChars, List.nil_append, rereadElements, rereadElements]
    apply elements_last (hv depth _ (endsNumber_gap hgap ?_))
    · rw [skipGap_append hgap, skipGap_cons rfl]
    · rintro _ ⟨⟩
      decide
  | cons w ws ih =>
    obtain ⟨-, hv⟩ := hvs v List.mem_cons_self
    obtain ⟨hw, -⟩ := hvs w (List.mem_cons_of_mem _ List.mem_cons_self)
    rw [elementChars, rereadElements]
    simp only [List.cons_append, List.append_assoc]
    apply elements_more (hv depth _ ?_) (skipGap_cons rfl)
    · rw [skipGap_chars hw (hsp.next depth)]
      exact ih fun u hu => hvs u (List.mem_cons_of_mem _ hu)
    · rintro _ ⟨⟩
      decide

/-- A written key is read up to its colon. -/
lemma key_chars (k : String) (s : List Char) : Gives key (textChars k ++ ':' :: s) k s := by
  rw [textChars, List.cons_append, List.append_assoc]
  have h := key_text (textBody_escaped k.toList (':' :: s)) (skipGap_cons rfl)
  rwa [String.ofList_toList] at h

/-- The members of a written object are read one by one, up to the closing brace. -/
lemma fields_chars {sp : Spacing} (hsp : sp.IsBlank) (depth : Nat) {k : String} {v : Json}
    {fs : List (String × Json)} {gap : List Char} (rest : List Char)
    (hgap : ∀ c ∈ gap, isGap c = true) (hfs : ∀ f ∈ (k, v) :: fs, f.2.IsFit ∧ Reads sp f.2) :
    Gives fields (textChars k ++ ':' :: ' ' :: chars sp depth v ++
      (memberChars sp depth fs ++ (gap ++ '\x7d' :: rest))) (rereadMembers ((k, v) :: fs)) rest := by
  -- one blank stands behind every colon, whatever the spacing
  have hblank : ∀ c ∈ [' '], isGap c = true := List.forall_mem_singleton.2 rfl
  induction fs generalizing k v with
  | nil =>
    obtain ⟨hplain, hv⟩ := hfs (k, v) List.mem_cons_self
    rw [memberChars, List.nil_append, rereadMembers, rereadMembers]
    simp only [List.append_assoc, List.cons_append]
    apply fields_last (key_chars k _)
    · rw [← List.singleton_append, skipGap_chars hplain hblank]
      apply hv depth _ (endsNumber_gap hgap ?_)
      rintro _ ⟨⟩
      decide
    · rw [skipGap_append hgap, skipGap_cons rfl]
  | cons f fs ih =>
    obtain ⟨hplain, hv⟩ := hfs (k, v) List.mem_cons_self
    obtain ⟨k', w⟩ := f
    rw [memberChars, rereadMembers]
    simp only [List.append_assoc, List.cons_append]
    apply fields_more (key_chars k _)
    · rw [← List.singleton_append, skipGap_chars hplain hblank]
      apply hv depth
      rintro _ ⟨⟩
      decide
    · exact skipGap_cons rfl
    · rw [skipGap_append (hsp.next depth), textChars, List.cons_append, skipGap_cons rfl]
      have := ih fun u hu => hfs u (List.mem_cons_of_mem _ hu)
      simpa only [textChars, List.append_assoc, List.cons_append] using this

section Reads

variable {sp : Spacing}

/-- What stands behind a whole number must not go on as one. -/
lemma reads_int {i : Int} (hi : (Nat.toDigits 10 i.natAbs).length ≤ digitLimit) :
    Reads sp (.int i) := by
  intro depth rest hr
  obtain ⟨c, s, e, hc⟩ := intChars_cons i
  have h := scalar_int hi hr
  rw [chars]
  rw [e, List.cons_append] at h ⊢
  exact value_scalar ⟨hc.ne (by unfold BeginsNumber; decide),
    hc.ne (by unfold BeginsNumber; decide), hc.ne (by unfold BeginsNumber; decide)⟩ h

lemma reads_real {x : Binary64} : Reads sp (.real x) := by
  intro depth rest hr
  have h := scalar_real (x := x) hr
  obtain ⟨c, s, e, hc⟩ := realChars_cons x
  have hne : c ≠ '\x22' ∧ c ≠ '[' ∧ c ≠ '\x7b' := by
    obtain hc | rfl | rfl := hc
    · exact ⟨hc.ne (by unfold BeginsNumber; decide), hc.ne (by unfold BeginsNumber; decide),
        hc.ne (by unfold BeginsNumber; decide)⟩
    · decide
    · decide
  rw [chars, reread]
  rw [e, List.cons_append] at h ⊢
  exact value_scalar hne h

lemma reads_str {s : String} : Reads sp (.str s) := by
  intro depth rest _
  rw [chars, textChars, List.cons_append, List.append_assoc]
  have h := value_text (textBody_escaped s.toList rest)
  rwa [String.ofList_toList] at h

lemma reads_arr {vs : List Json} (hsp : sp.IsBlank) (hvs : ∀ v ∈ vs, v.IsFit)
    (hreads : ∀ v ∈ vs, Reads sp v) : Reads sp (.arr vs) := by
  intro depth rest _
  cases vs with
  | nil => exact value_array_empty (skipGap_cons rfl)
  | cons v vs =>
    obtain ⟨c, cs, e, -, hc⟩ := head?_chars sp (depth + 1) (hvs v List.mem_cons_self)
    rw [chars]
    simp only [List.cons_append, List.append_assoc, List.nil_append]
    have hskip : ∀ s, skipGap (sp.line (depth + 1) ++ (chars sp (depth + 1) v ++ s)) =
        chars sp (depth + 1) v ++ s :=
      fun s => skipGap_chars (hvs v List.mem_cons_self) (hsp.line (depth + 1))
    apply value_array
    · rw [hskip, e]
      simpa using hc
    · rw [hskip]
      exact elements_chars hsp (depth + 1) rest (hsp.line depth) fun w hw =>
        ⟨hvs w hw, hreads w hw⟩

lemma reads_obj {fs : List (String × Json)} (hsp : sp.IsBlank) (hnodup : (fs.map (·.1)).Nodup)
    (hfs : ∀ f ∈ fs, f.2.IsFit) (hreads : ∀ f ∈ fs, Reads sp f.2) : Reads sp (.obj fs) := by
  intro depth rest _
  cases fs with
  | nil => exact value_object_empty (skipGap_cons rfl)
  | cons f fs =>
    obtain ⟨k, v⟩ := f
    rw [chars]
    simp only [List.cons_append, List.append_assoc, List.nil_append]
    have hskip : ∀ s, skipGap (sp.line (depth + 1) ++ (textChars k ++ s)) = textChars k ++ s :=
      fun s => by rw [skipGap_append (hsp.line _), textChars, List.cons_append, skipGap_cons rfl]
    have hkeys : ((rereadMembers ((k, v) :: fs)).map (·.1)).Nodup := by
      rwa [map_fst_rereadMembers]
    rw [reread, ← members_of_nodup hkeys]
    apply value_object
    · rw [hskip]
      simp [textChars]
    · rw [hskip]
      have hfields := fields_chars hsp (depth + 1) rest (hsp.line depth) fun w hw =>
        ⟨hfs w hw, hreads w hw⟩
      simpa only [List.append_assoc, List.cons_append] using hfields

/-- Reading a written plain value gives the value and leaves what stands behind it. -/
lemma value_chars (hsp : sp.IsBlank) {v : Json} (hv : v.IsFit) : Reads sp v := by
  induction hv with
  | null => exact fun depth rest _ => value_scalar (by decide) ⟨_, rfl⟩
  | @bool b => cases b with
    | true => exact fun depth rest _ => value_scalar (by decide) ⟨_, rfl⟩
    | false => exact fun depth rest _ => value_scalar (by decide) ⟨_, rfl⟩
  | int hi => exact reads_int hi
  | real => exact reads_real
  | str => exact reads_str
  | arr hvs ih => exact reads_arr hsp hvs ih
  | obj hnodup hfs ih => exact reads_obj hsp hnodup hfs ih

end Reads

/-- The text of a written value is printable ASCII and line feeds. -/
lemma mem_indented {v : Json} (hv : v.IsFit) {c : Char} (h : c ∈ v.indented.toList) :
    IsPrintableAscii c ∨ c = '\n' := by
  rw [indented, String.toList_ofList] at h
  have hline : ∀ depth, ∀ d ∈ '\n' :: List.replicate (2 * depth) ' ',
      IsPrintableAscii d ∨ d = '\n' := by
    intro depth d hd
    rcases List.mem_cons.1 hd with rfl | hd
    · exact .inr rfl
    · rw [List.eq_of_mem_replicate hd]
      exact .inl (by decide)
  exact forall_mem_chars (fun _ => .inl) hline hline hv 0 c h

/-- What is written of a value on one line is printable ASCII. -/
lemma isPrintableAscii_of_mem_inline {v : Json} (hv : v.IsFit) :
    ∀ c ∈ v.inline.toList, IsPrintableAscii c := by
  rw [inline, String.toList_ofList]
  have hline : ∀ depth, ∀ c ∈ Spacing.inline.line depth, IsPrintableAscii c := fun _ => nofun
  have hnext : ∀ depth, ∀ c ∈ Spacing.inline.next depth, IsPrintableAscii c :=
    fun _ => List.forall_mem_singleton.2 (by decide)
  exact forall_mem_chars (fun _ => id) hline hnext hv 0

/-- A text that holds one value and only a gap behind it is read whole. -/
lemma wholeValue_of_gives {s gap : List Char} {v : Json} (hgap : ∀ c ∈ gap, isGap c = true)
    (h : Gives value (skipGap s) v gap) : wholeValue s = .ok v := by
  obtain ⟨_, h⟩ := h
  have hskip : skipGap gap = [] := List.dropWhile_eq_nil_iff.2 hgap
  simp only [wholeValue, h, hskip]
  rfl

/-- A written value with a gap behind it is read whole, however its parts are set apart. -/
lemma wholeValue_chars_append {sp : Spacing} (hsp : sp.IsBlank) {gap : List Char} {v : Json}
    (hv : v.IsFit) (hgap : ∀ c ∈ gap, isGap c = true) :
    wholeValue (chars sp 0 v ++ gap) = .ok v.reread := by
  have hend : EndsNumber gap := by
    rw [← List.append_nil gap]
    exact endsNumber_gap hgap nofun
  have hread : Gives value (chars sp 0 v ++ gap) v.reread gap := value_chars hsp hv 0 gap hend
  obtain ⟨c, s, e, hc, -⟩ := head?_chars sp 0 hv
  have hskip : skipGap (chars sp 0 v ++ gap) = chars sp 0 v ++ gap := by
    rw [e, List.cons_append, skipGap_cons hc]
  rw [← hskip] at hread
  exact wholeValue_of_gives hgap hread

lemma wholeValue_indented_append {gap : List Char} {v : Json} (hv : v.IsFit)
    (hgap : ∀ c ∈ gap, isGap c = true) : wholeValue (v.indented.toList ++ gap) = .ok v.reread := by
  rw [indented, String.toList_ofList, wholeValue_chars_append indented_isBlank hv hgap]

lemma wholeValue_indented {v : Json} (hv : v.IsFit) :
    wholeValue v.indented.toList = .ok v.reread := by
  rw [← List.append_nil v.indented.toList]
  exact wholeValue_indented_append hv nofun

/-- A text that was written with one part a line is read as the value that it denotes, and so is
one with a gap behind it. -/
lemma read_append {gap : String} {v : Json} (hv : v.IsFit)
    (hgap : ∀ c ∈ gap.toList, isGap c = true) : read (v.indented ++ gap) = .ok v.reread := by
  have hbom : (v.indented.toList ++ gap.toList).head? ≠ some '\ufeff' := by
    intro h
    obtain h | h := List.mem_append.1 (List.mem_of_head? h)
    · obtain h | h := mem_indented hv h
      · exact absurd h (by decide)
      · exact absurd h (by decide)
    · exact absurd (hgap _ h) (by decide)
  rw [read, document, String.toList_append, if_neg hbom, wholeValue_indented_append hv hgap]
  rfl

lemma read_reread {v : Json} (hv : v.IsFit) : read v.indented = .ok v.reread := by
  rw [← String.append_empty (s := v.indented)]
  exact read_append hv nofun

/-- A text that was written of a plain value is read back. -/
lemma read_indented {v : Json} (hv : v.IsPlain) : read v.indented = .ok v := by
  rw [read_reread hv.isFit, reread_of_isPlain hv]

/-- A line that was written of a plain value is read back. -/
lemma read_inline {v : Json} (hv : v.IsPlain) : read v.inline = .ok v := by
  have hbom : v.inline.toList.head? ≠ some '\ufeff' := by
    intro h
    exact absurd (isPrintableAscii_of_mem_inline hv.isFit _ (List.mem_of_head? h)) (by decide)
  have hwhole : wholeValue v.inline.toList = .ok v.reread := by
    rw [inline, String.toList_ofList, ← List.append_nil (chars .inline 0 v)]
    exact wholeValue_chars_append inline_isBlank hv.isFit nofun
  rw [read, document, if_neg hbom, hwhole, reread_of_isPlain hv]
  rfl

end FeedWatch.Json
