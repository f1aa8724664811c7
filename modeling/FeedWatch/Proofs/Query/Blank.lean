import FeedWatch.Proofs.Json.Access
import FeedWatch.Proofs.Json.Reals
import FeedWatch.Proofs.Names
import FeedWatch.Proofs.Query.Splits

/-!
# Blank clauses

A segment of a query with nothing between its commas asks for the flag whose name is the empty text.
Flags are named as the feed lists them, and it may list the empty text, so a blank clause does not
always fail.  Main statement: a query with a blank clause accepts an item exactly when the empty
text is listed among the flags of the item and all other segments hold of it
(`Query.accepts_blank_iff`).
-/

namespace FeedWatch

/-! ## Segments -/

/-- Each segment of a text is lowered as if it stood alone. -/
lemma Text.splitOn_lowerFrom (cs : List Char) :
    (lowerFrom false cs).splitOn ',' = (cs.splitOn ',').map (lowerFrom false) := by
  by_cases hcomma : ',' ∈ cs
  · obtain ⟨as, bs, hcs⟩ := List.append_of_mem hcomma
    have hlength : cs.length = as.length + (bs.length + 1) := by
      rw [hcs, List.length_append, List.length_cons]
    rw [hcs, lowerFrom_append_break isBreak_comma, List.splitOn_append_cons_self,
      List.splitOn_append_cons_self, List.map_append, splitOn_lowerFrom as, splitOn_lowerFrom bs]
  · rw [List.splitOn_eq_singleton (comma_notMem_lowerFrom hcomma), List.splitOn_eq_singleton hcomma,
      List.map_singleton]
termination_by cs.length

/-- A blank segment stays blank in lower case. -/
lemma nil_mem_splitOn_lower {source : String} (h : [] ∈ source.toList.splitOn ',') :
    [] ∈ (Text.lower source).toList.splitOn ',' := by
  rw [Text.lower, String.toList_ofList, Text.splitOn_lowerFrom]
  exact List.mem_map_of_mem (f := Text.lowerFrom false) h

variable {index : ReferenceIndex} {item : Item}

lemma segmentHolds_nil (index : ReferenceIndex) : SegmentHolds index item [] ↔ "" ∈ item.flags.toList := by
  have hcompile : Clause.compile index [] = .ok ⟨false, .flag ""⟩ := rfl
  rw [← Clause.accepts_iff_holds hcompile, Clause.accepts, Test.accepts]
  simp [NameSet.contains]

/-! ## Flags -/

/-- Only the empty text is shown as nothing. -/
lemma Json.shown_eq_empty_iff {v : Json} : v.shown = "" ↔ v = .str "" := by
  cases v with
  | str s => exact ⟨fun h => congrArg str h, fun h => str.inj h⟩
  | null => simp [shown, literal]
  | bool b => cases b <;> simp [shown, literal]
  | int n =>
    refine iff_of_false (fun h => ?_) nofun
    have hchars : (toString n).toList = [] := String.toList_eq_nil_iff.2 h
    rw [toList_toString, List.append_eq_nil_iff] at hchars
    exact Nat.toDigits_ne_nil hchars.2
  | real x =>
    refine iff_of_false (fun h => ?_) nofun
    have hchars : x.toText.toList = [] := String.toList_eq_nil_iff.2 h
    cases x with
    | nan => cases hchars
    | infinite negative => cases negative <;> cases hchars
    | finite negative m e =>
      obtain ⟨c, s, hcons, -⟩ := (Binary64.isReal_finite negative m e).exists_cons
      cases hcons.symm.trans hchars
  | arr vs => simp [shown, literal]
  | obj members => simp [shown, literal]

/-- Among the flags that a value lists for an item is the empty text. -/
def Item.ListsEmptyFlag (v : Json) : Prop :=
  ∃ flags, v.member? "flags" = .ok (some flags) ∧ flags.InSeries (.str "")

/-- The flags of an item are what its value lists, as it is shown. -/
lemma Item.flags_of_ofJson {v : Json} (h : Item.ofJson v = .ok item) :
    ∃ flags names, v.memberOrNull "flags" = .ok flags ∧ flags.seriesOrNone = .ok names ∧
      item.flags = .ofList (names.map Json.shown) := by
  simp only [ofJson, Except.bind_eq_ok] at h
  obtain ⟨kind, -, id, -, value, -, series, -, enchants, -, flags, hflags, names, hnames, h⟩ := h
  obtain ⟨typeValue, -, typeId, -, lives, -, maxLives, -, tokens, -, nonce, -, owner, -, h⟩ := h
  obtain ⟨lastSeen, -, typeName, -, h⟩ := h
  cases h
  exact ⟨flags, names, hflags, hnames, rfl⟩

lemma Item.empty_mem_flags_iff {v : Json} (h : Item.ofJson v = .ok item) :
    "" ∈ item.flags.toList ↔ ListsEmptyFlag v := by
  obtain ⟨flags, names, hflags, hnames, hitem⟩ := flags_of_ofJson h
  have hmem : "" ∈ item.flags.toList ↔ flags.InSeries (.str "") := by
    rw [hitem, NameSet.mem_ofList, List.mem_map, ← Json.mem_iff_of_seriesOrNone hnames]
    simp only [Json.shown_eq_empty_iff, exists_eq_right]
  obtain ⟨flags?, hmember, rfl⟩ := Except.map_eq_ok.1 hflags
  rw [hmem, ListsEmptyFlag, hmember]
  cases flags? with
  | none => exact ⟨fun hseries => absurd hseries.isFilled Bool.false_ne_true, nofun⟩
  | some flags =>
    refine ⟨fun hseries => ⟨flags, rfl, hseries⟩, fun ⟨_, hflags, hseries⟩ => ?_⟩
    cases hflags
    exact hseries

/-! ## Queries -/

namespace Query

/-- A query with a blank clause accepts an item exactly when the value that the item is read from
lists the empty text as a flag, and all segments that are not blank hold of the item. -/
theorem accepts_blank_iff {source : String} {query : Query} {v : Json}
    (hquery : compile index source = .ok query) (hcomma : ',' ∈ source.toList)
    (hblank : [] ∈ source.toList.splitOn ',') (hitem : Item.ofJson v = .ok item) :
    query.accepts item = true ↔ Item.ListsEmptyFlag v ∧
      ∀ segment ∈ (Text.lower source).toList.splitOn ',', segment ≠ [] →
        SegmentHolds index item segment := by
  have hne : source ≠ "" := by
    rintro rfl
    cases hcomma
  rw [compile_eq hne] at hquery
  obtain ⟨clauses, hclauses, rfl⟩ := Except.map_eq_ok.1 hquery
  rw [accepts, List.all_eq_true, Clause.all_accept_iff_hold (Except.mapM_eq_ok_iff.1 hclauses),
    ← Item.empty_mem_flags_iff hitem, ← segmentHolds_nil index]
  constructor
  · intro h
    exact ⟨h [] (nil_mem_splitOn_lower hblank), fun segment hsegment _ => h segment hsegment⟩
  · rintro ⟨hnil, hothers⟩ segment hsegment
    by_cases hempty : segment = []
    · rwa [hempty]
    · exact hothers segment hsegment hempty

/-- A comma behind a flag that the item has: without the empty text among its flags the item is not
accepted. -/
theorem accepts_blank_iff_trailing :
    let v : Json := .obj [("_id", .str "x"), ("flags", .arr [.str "rare"])]
    ∃ query item, compile .empty "rare," = .ok query ∧ Item.ofJson v = .ok item ∧
      "rare" ∈ item.flags.toList ∧ query.accepts item = false := by
  intro v
  have hquery : compile .empty "rare," =
      .ok ⟨"rare,", [⟨false, .flag "rare"⟩, ⟨false, .flag ""⟩]⟩ := by decide +kernel
  obtain ⟨item, hitem, hflag⟩ : ∃ item, Item.ofJson v = .ok item ∧ "rare" ∈ item.flags.toList :=
    ⟨_, rfl, by decide⟩
  refine ⟨_, item, hquery, hitem, hflag, ?_⟩
  rw [← Bool.not_eq_true, accepts_blank_iff hquery (by decide) (by decide) hitem]
  rintro ⟨⟨flags, hflags, hempty⟩, -⟩
  cases hflags
  cases hempty with
  | element hmem => exact absurd hmem (by simp)

/-- A lone comma accepts an item whose only flag is the empty text. -/
theorem accepts_empty_flag :
    ∃ query item, compile .empty "," = .ok query ∧ [] ∈ ",".toList.splitOn ',' ∧
      Item.ofJson (.obj [("_id", .str "x"), ("flags", .arr [.str ""])]) = .ok item ∧
      query.accepts item = true := by
  refine ⟨⟨",", [⟨false, .flag ""⟩, ⟨false, .flag ""⟩]⟩, _, ?_, ?_, rfl, ?_⟩
  · decide +kernel
  · decide
  · decide

end Query

end FeedWatch
