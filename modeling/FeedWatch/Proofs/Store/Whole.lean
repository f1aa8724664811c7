import FeedWatch.Proofs.Disk.Trees
import FeedWatch.Store

/-!
# Settings are written whole or not at all

The settings file is replaced as a whole, or nothing is left of the attempt but folders on the way
to it.  Main statement: however writing the settings ends and wherever it stops, either the file
holds what was written and every other place is as it was, but for missing folders on the way to the
file, or the file and all others are as they were (`Store.saveUnless_settles`).  A path that leaves
a missing folder again shows what those folders can do (`Store.saveUnless_leaves_folder`).
-/

namespace FeedWatch

namespace Disk

/-- A file was replaced: it has the new content, and every other place is as it was, but for folders
on the way to the file, if its folder was not there. -/
structure Replaced (p : Path) (content : ByteArray) (d d' : Disk) : Prop where
  content : d'.content? p = some content
  others : ∃ place, d'.locate p = .ok place ∧ ∀ q ≠ place, d'.at? q = d.at? q ∨
    d.find? p.parent ≠ some .folder ∧ Opened p.parent d d' q

/-- A file was not replaced: every place is as it was, but for folders on the way to the file, if
its folder was not there, and nothing has come or gone if it was.  The path leads to the content
that it led to, unless it leaves the folders again that have been made. -/
structure Spared (p : Path) (d d' : Disk) : Prop where
  others : ∀ q, d'.at? q = d.at? q ∨ d.find? p.parent ≠ some .folder ∧ Opened p.parent d d' q
  nodes : d.find? p.parent = some .folder → d'.nodes = d.nodes
  content : d'.content? p = d.content? p ∨ d.content? p = none ∧ Path.up ∈ p ∧
    d.find? p.parent ≠ some .folder ∧ d'.find? p.parent = some .folder

/-- A path at whose end, in a folder that is there, is a file or nothing. -/
def Writable (p : Path) (d : Disk) : Prop :=
  d.find? p.parent = some .folder ∧ ∃ place, d.locate p = .ok place ∧ d.at? place ≠ some .folder

variable {d d' dir : Disk} {p place : Path} {content : ByteArray} {result : Except DiskError Unit}

/-! ## What is found -/

lemma at?_congr (h : d'.nodes = d.nodes) (q : Path) : d'.at? q = d.at? q := by
  rw [at?, at?, h]

lemma content?_eq_some_iff :
    d.content? p = some content ↔ ∃ stamp, d.find? p = some (.file content stamp) := by
  rw [content?]
  split
  next c stamp hfind =>
    constructor
    · rintro ⟨⟩
      exact ⟨stamp, hfind⟩
    · rintro ⟨stamp', hfind'⟩
      cases hfind.symm.trans hfind'
      rfl
  next hnone =>
    constructor
    · rintro ⟨⟩
    · rintro ⟨stamp, hfind⟩
      exact absurd hfind (hnone _ _)

/-- A file that is found is found when there is more. -/
lemma Extends.content? (h : Extends d d') (hcontent : d.content? p = some content) :
    d'.content? p = some content := by
  obtain ⟨stamp, hfind⟩ := content?_eq_some_iff.1 hcontent
  exact content?_eq_some_iff.2 ⟨stamp, h.find? hfind⟩

/-- Contents are the same if no path leads to a new one. -/
lemma Extends.content?_eq (h : Extends d d')
    (hold : ∀ content, d'.content? p = some content → d.content? p = some content) :
    d'.content? p = d.content? p :=
  Option.ext fun content => ⟨hold content, h.content?⟩

/-- Without a folder there is no file in it. -/
lemma content?_of_no_folder (hparent : p.parent ≠ p) (h : d.find? p.parent ≠ some .folder) :
    d.content? p = none := by
  rw [Option.eq_none_iff_forall_ne_some]
  intro content hcontent
  obtain ⟨stamp, hfind⟩ := content?_eq_some_iff.1 hcontent
  obtain ⟨place, hloc, -⟩ := find?_eq_some_iff.1 hfind
  exact h (find?_parent_of_locate hloc hparent)

/-- Making folders lets no path without a step up come to a file. -/
lemma content?_of_opens (hd : d.IsTree) (hopens : Opens p.parent d d') (hup : Path.up ∉ p) :
    d'.content? p = d.content? p := by
  refine hopens.toExtends.content?_eq fun content hcontent => ?_
  obtain ⟨stamp, hfind⟩ := content?_eq_some_iff.1 hcontent
  obtain ⟨place, hloc, hat⟩ := find?_eq_some_iff.1 hfind
  have hat' : d.at? place = some (.file content stamp) := by
    obtain hsame | ⟨-, hfolder, -⟩ := hopens place
    · rw [← hsame, hat]
    · cases hat.symm.trans hfolder
  have hloc' := locate_of_rooted hup hloc (hd _ _ hat')
  exact content?_eq_some_iff.2 ⟨stamp, find?_eq_some_iff.2 ⟨place, hloc', hat'⟩⟩

lemma parent_ne_of_up (h : Path.up ∈ p) : p.parent ≠ p := by
  intro hparent
  rw [Path.parent] at hparent
  split_ifs at hparent with hroot
  · rw [Path.isRoot, Bool.or_eq_true, decide_eq_true_iff, decide_eq_true_iff] at hroot
    obtain rfl | rfl := hroot
    · exact absurd h (by decide)
    · exact absurd h (by decide)
  · have hne : p ≠ [] := List.ne_nil_of_mem h
    have hlength := congrArg List.length hparent
    rw [List.length_dropLast] at hlength
    have hpos := List.length_pos_iff.2 hne
    omega

/-! ## Replacements -/

/-- The disk that is left when no more than the folders on the way to a file was made. -/
lemma opens_of_nodes (h : d.withFolder p.parent = (dir, result)) (hnodes : d'.nodes = dir.nodes) :
    Opens p.parent d d' := by
  have hopens := opens_withFolder p.parent d
  rw [h] at hopens
  exact hopens.trans fun q => .inl (at?_congr hnodes q)

/-- Where no more than the folders on the way to a file was made, the file was not replaced. -/
lemma spared_of_nodes (hd : d.IsTree) (h : d.withFolder p.parent = (dir, result))
    (hnodes : d'.nodes = dir.nodes) : d'.IsTree ∧ Spared p d d' := by
  have hopens := opens_of_nodes h hnodes
  have hsame : d.find? p.parent = some .folder → d'.nodes = d.nodes := by
    intro hfolder
    rw [withFolder_of_find? hfolder] at h
    cases h
    exact hnodes
  refine ⟨hd.opens hopens, fun q => ?_, hsame, ?_⟩
  · by_cases hfolder : d.find? p.parent = some .folder
    · exact .inl (at?_congr (hsame hfolder) q)
    · exact (hopens q).imp_right fun hq => ⟨hfolder, hq⟩
  · by_cases hfolder : d.find? p.parent = some .folder
    · have hback : Extends d' d := fun q n hq => (at?_congr (hsame hfolder) q).symm.trans hq
      exact .inl (hopens.toExtends.content?_eq fun _ => hback.content?)
    by_cases hup : Path.up ∈ p
    · have hparent := parent_ne_of_up hup
      have hnone := content?_of_no_folder hparent hfolder
      by_cases hmade : d'.find? p.parent = some .folder
      · exact .inr ⟨hnone, hup, hfolder, hmade⟩
      · rw [hnone, content?_of_no_folder hparent hmade]
        exact .inl rfl
    · exact .inl (content?_of_opens hd hopens hup)

/-- Where the folder of a file was made and then the file was put, the file was replaced. -/
lemma replaced_of_nodes {stamp : Nat} (hd : d.IsTree) (h : d.withFolder p.parent = (dir, .ok ()))
    (hloc : dir.locate p = .ok place) (hfree : dir.at? place ≠ some .folder)
    (hnodes : d'.nodes = set place (.file content stamp) dir.nodes) :
    d'.IsTree ∧ Replaced p content d d' := by
  have hopens := opens_of_nodes h rfl
  have hat : ∀ q, d'.at? q = if q = place then some (.file content stamp) else dir.at? q := by
    intro q
    rw [at?, hnodes, lookup_set]
    split_ifs <;> rfl
  have hoff : AgreeOff place dir d' := by
    intro q hq
    rw [hat, if_neg]
    rintro rfl
    exact hq List.prefix_rfl
  have hne := ne_nil_of_free hloc (withFolder_ok h) hfree
  have hloc' := (locate_of_agreeOff hne hfree hoff hloc).1
  have hfile : d'.at? place = some (.file content stamp) := by rw [hat, if_pos rfl]
  have htree := hd.opens hopens
  refine ⟨htree.of_at? (rooted_of_locate htree.root hloc) hfree hat, ?_, place, hloc', ?_⟩
  · exact content?_eq_some_iff.2 ⟨stamp, find?_eq_some_iff.2 ⟨place, hloc', hfile⟩⟩
  · intro q hq
    rw [hat, if_neg hq]
    by_cases hfolder : d.find? p.parent = some .folder
    · rw [withFolder_of_find? hfolder] at h
      cases h
      exact .inl rfl
    · obtain hsame | ⟨hnone, hopened, r, hr, hlocr⟩ := hopens q
      · exact .inl hsame
      · have hopened' : d'.at? q = some .folder := by rw [hat, if_neg hq, hopened]
        have hlocr' := (locate_of_agreeOff hne hfree hoff hlocr).1
        exact .inr ⟨hfolder, hnone, hopened', r, hr, hlocr'⟩

end Disk

namespace Store

/-- Wherever writing settings stops, the settings file was replaced as a whole or is as it was.  If
it was replaced, it holds the written settings, and every other place is as before but for missing
folders on the way to the file, which were made.  Otherwise no file has come, gone or changed, and
nothing at all has come where the folder of the file was there.  Writing finishes where the path can
be written and nothing else goes wrong. -/
theorem saveUnless_settles (stop : Option Disk.Stage) (store : Store) (s : Settings) (d : Disk)
    (hd : d.IsTree) :
    ∃ d' result, store.saveUnless stop s d = (d', result) ∧ d'.IsTree ∧
      (result = .ok () ∧ Disk.Replaced store.path (fileContent s) d d' ∨
        ∃ e, result = .error e ∧ Disk.Spared store.path d d') ∧
      (stop = none → d.Writable store.path → result = .ok ()) := by
  cases h : store.saveUnless stop s d with
  | mk d' result =>
    have hfinishes : stop = none → d.Writable store.path → result = .ok () := by
      rintro rfl ⟨hfolder, place, hloc, hfree⟩
      obtain ⟨d₁, hdone, -⟩ :=
        Disk.replace_eq (fileContent s) (Disk.withFolder_of_find? hfolder) hloc hfree
      cases hdone.symm.trans h
      rfl
    suffices hsettled : d'.IsTree ∧
        (result = .ok () ∧ Disk.Replaced store.path (fileContent s) d d' ∨
          ∃ e, result = .error e ∧ Disk.Spared store.path d d') from
      ⟨d', result, rfl, hsettled.1, hsettled.2, hfinishes⟩
    obtain ⟨e, rfl, hdir⟩ | ⟨dir, hdir, hrest⟩ := Disk.replace_cases hd h
    · obtain ⟨htree, hspared⟩ := Disk.spared_of_nodes hd hdir rfl
      exact ⟨htree, .inr ⟨_, rfl, hspared⟩⟩
    obtain ⟨e, rfl, hnodes⟩ | ⟨place, stamp, rfl, hloc, hfree, hnodes⟩ := hrest
    · obtain ⟨htree, hspared⟩ := Disk.spared_of_nodes hd hdir hnodes
      exact ⟨htree, .inr ⟨e, rfl, hspared⟩⟩
    · obtain ⟨htree, hreplaced⟩ := Disk.replaced_of_nodes hd hdir hloc hfree hnodes
      exact ⟨htree, .inl ⟨rfl, hreplaced⟩⟩

/-- A disk with one file. -/
def beside : Disk := Disk.empty.putFile ["b.json"] "old".toUTF8

lemma beside_isTree : beside.IsTree := by
  refine Disk.empty_isTree.of_at? (Disk.rooted_nil.concat rfl) ?_
    (fun q => Disk.at?_putFile ["b.json"] q _ .empty)
  rintro ⟨⟩

/-- Writing to a new folder stops before the new file takes its place. -/
theorem saveUnless_settles_stopped :
    beside.IsTree ∧ ∃ d' e, saveUnless (some .swap) ⟨["a", "b.json"], "!"⟩ (.initial "!") beside =
      (d', .error e) ∧ d'.IsTree ∧ Disk.Spared ["a", "b.json"] beside d' := by
  obtain ⟨d', result, hsave, htree, ⟨rfl, -⟩ | ⟨e, rfl, hspared⟩, -⟩ :=
    saveUnless_settles (some .swap) ⟨["a", "b.json"], "!"⟩ (.initial "!") beside beside_isTree
  · cases hsave
  · exact ⟨beside_isTree, d', e, hsave, htree, hspared⟩

/-- Where the path of the settings file leaves a missing folder again, that folder is made beside
the file, and with it the path comes to lead to a file, also if writing stops then. -/
theorem saveUnless_leaves_folder :
    let store : Store := ⟨["a", "..", "b.json"], "!"⟩
    (∃ d', store.saveUnless none (.initial "!") beside = (d', .ok ()) ∧
      d'.locate store.path = .ok ["b.json"] ∧
      beside.names [] = ["b.json"] ∧ d'.names [] = ["b.json", "a"]) ∧
    ∃ d' e, store.saveUnless (some .swap) (.initial "!") beside = (d', .error e) ∧
      beside.content? store.path = none ∧ d'.content? store.path = some "old".toUTF8 := by
  refine ⟨⟨_, rfl, rfl, rfl, rfl⟩, _, _, rfl, rfl, rfl⟩

end Store

end FeedWatch
