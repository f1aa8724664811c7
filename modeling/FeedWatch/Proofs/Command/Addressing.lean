import FeedWatch.Proofs.Command.Edits
import FeedWatch.Proofs.Registry.Shared
import FeedWatch.Proofs.Text.Lower

/-!
# Filters can be addressed by the names that are shown

Edits take the names of filters in small letters.  A filter whose name is not in small letters could
never be named again, and one of two filters of the same name could not be named without the other.
Main statement: where there was no settings file at first, no sequence of edits leads there, so that
each name in a list of filters removes, changes and blocks the one filter that has it
(`Edit.addresses_of_shows`).  The invariant is one of the file, since every edit opens the registry
anew; that lowered texts are left alone by lowering is what keeps it when a filter is added.
-/

namespace FeedWatch

/-- Plain settings whose filters have names of their own, in small letters. -/
structure Settings.IsTidy (s : Settings) : Prop where
  plain : s.IsPlain
  nodup : (s.filters.map StoredFilter.name).Nodup
  lowered : ∀ f ∈ s.filters, Text.lower f.name = f.name

lemma Settings.isTidy_initial (marker : String) : (initial marker).IsTidy :=
  ⟨isPlain_initial marker, List.nodup_singleton _, List.forall_mem_singleton.2 (by decide)⟩

lemma Settings.contains_iff {s : Settings} {name : String} :
    s.contains name = true ↔ name ∈ s.filters.map StoredFilter.name := by
  rw [contains, List.any_eq_true, List.mem_map]
  exact exists_congr fun f => and_congr_right fun _ => beq_iff_eq

lemma StoredFilter.names_alertFirst (name : String) (alert : Json) (fs : List StoredFilter) :
    (alertFirst name alert fs).map StoredFilter.name = fs.map StoredFilter.name := by
  induction fs with
  | nil => rfl
  | cons f fs ih =>
    rw [alertFirst]
    split_ifs
    · rfl
    · rw [List.map_cons, ih, List.map_cons]

lemma StoredFilter.alertFirst_append {name : String} {l r : List StoredFilter} {f : StoredFilter}
    (hl : ∀ g ∈ l, g.name ≠ name) (hf : f.name = name) (alert : Json) :
    alertFirst name alert (l ++ f :: r) = l ++ { f with alert } :: r := by
  induction l with
  | nil => exact if_pos hf
  | cons g l ih =>
    rw [List.forall_mem_cons] at hl
    rw [List.cons_append, alertFirst, if_neg hl.1, ih hl.2, List.cons_append]

lemma StoredFilter.filter_append {name : String} {l r : List StoredFilter} {f : StoredFilter}
    (hother : ∀ g ∈ l ++ r, g.name ≠ name) (hf : f.name = name) :
    (l ++ f :: r).filter (·.name != name) = l ++ r := by
  rw [List.forall_mem_append] at hother
  have hkeep : ∀ fs : List StoredFilter, (∀ g ∈ fs, g.name ≠ name) →
      fs.filter (·.name != name) = fs :=
    fun fs hfs => List.filter_eq_self.2 fun g hg => bne_iff_ne.2 (hfs g hg)
  rw [List.filter_append, hkeep l hother.1, List.filter_cons_of_neg (by simp [hf]),
    hkeep r hother.2]

/-- A filter of tidy settings stands between filters of other names. -/
lemma Settings.IsTidy.split {s : Settings} (h : s.IsTidy) {f : StoredFilter}
    (hf : f ∈ s.filters) :
    ∃ l r, s.filters = l ++ f :: r ∧ ∀ g ∈ l ++ r, g.name ≠ f.name := by
  obtain ⟨l, r, hsplit⟩ := List.append_of_mem hf
  have hnodup := h.nodup
  rw [hsplit, List.map_append, List.map_cons, List.nodup_middle, List.nodup_cons,
    ← List.map_append] at hnodup
  refine ⟨l, r, hsplit, fun g hg hname => hnodup.1 ?_⟩
  exact hname ▸ List.mem_map_of_mem hg

/-- The filters stay tidy if their names do. -/
lemma Settings.IsTidy.of_names {s t : Settings} (h : s.IsTidy) (hplain : t.IsPlain)
    (hnames : t.filters.map StoredFilter.name = s.filters.map StoredFilter.name) : t.IsTidy := by
  have hlowered : ∀ n ∈ s.filters.map StoredFilter.name, Text.lower n = n :=
    List.forall_mem_map.2 h.lowered
  rw [← hnames] at hlowered
  exact ⟨hplain, hnames ▸ h.nodup, List.forall_mem_map.1 hlowered⟩

/-- A change that names a filter in small letters leaves tidy settings tidy. -/
lemma Change.effect_isTidy {index : ReferenceIndex} {c : Change} {s t : Settings} (hc : c.IsPlain)
    (hname : ∀ n, c = .add n → Text.lower n = n) (hs : s.IsTidy) (h : c.effect index s = some t) :
    t.IsTidy := by
  have hplain := effect_isPlain hc hs.plain h
  cases c with
  | add name =>
    rw [effect] at h
    split at h
    next hnew _ =>
      cases h
      have hfree : name ∉ s.filters.map StoredFilter.name := fun hmem =>
        Bool.false_ne_true (hnew.symm.trans (Settings.contains_iff.2 hmem))
      refine ⟨hplain, ?_, List.forall_mem_append.2 ⟨hs.lowered, ?_⟩⟩
      · rw [List.map_append]
        exact List.nodup_append_comm.1 (List.nodup_cons.2 ⟨hfree, hs.nodup⟩)
      · exact List.forall_mem_singleton.2 (hname name rfl)
    next => cases h
  | remove name =>
    cases h
    refine ⟨hplain, hs.nodup.sublist (List.filter_sublist.map _), fun f hf => ?_⟩
    exact hs.lowered f (List.mem_filter.1 hf).1
  | setAlert name text =>
    rw [effect] at h
    split_ifs at h
    cases h
    exact hs.of_names hplain (StoredFilter.names_alertFirst name _ _)
  | setGlobalAlert text =>
    cases h
    exact hs.of_names hplain rfl
  | setWebhook w =>
    cases h
    exact hs.of_names hplain rfl
  | enable =>
    rw [effect] at h
    split_ifs at h
    cases h
    exact hs.of_names hplain rfl
  | disable =>
    cases h
    exact hs.of_names hplain rfl

/-! ## The settings file -/

namespace Store

variable {store : Store} {s : Settings} {d : Disk}

/-- There is no settings file, or it keeps tidy settings. -/
def KeepsTidy (store : Store) (d : Disk) : Prop :=
  d.Vacant store.path ∨ ∃ s : Settings, s.IsTidy ∧ store.Keeps s d

lemma KeepsTidy.load (h : store.KeepsTidy d) (hload : store.load d = .ok s) : s.IsTidy := by
  obtain hvacant | ⟨t, ht, hkeeps⟩ := h
  · rw [load_of_vacant hvacant hload]
    exact Settings.isTidy_initial _
  · rw [hkeeps.load ht.plain store.marker] at hload
    cases hload
    exact ht

lemma KeepsTidy.save (h : store.KeepsTidy d) (hs : s.IsTidy) :
    store.KeepsTidy (store.save s d).1 := by
  obtain hvacant | ⟨t, ht, hkeeps⟩ := h
  · exact (vacant_or_keeps none s hvacant).imp_right fun hkeeps => ⟨s, hs, hkeeps⟩
  · obtain hkeeps' | hkeeps' := hkeeps.saveUnless none s
    · exact .inr ⟨t, ht, hkeeps'⟩
    · exact .inr ⟨s, hs, hkeeps'⟩

end Store

namespace Command.Edit

variable {α : Type} {store : Store} {s : Settings} {d : Disk}

/-! ## Edits keep the file tidy -/

/-- An edit keeps the file tidy if its work on a tidy registry does. -/
lemma work_keepsTidy {act : Session → Session.Outcome α}
    {tell : Registry → α → List (String × Json)} (h : store.KeepsTidy d)
    (hact : ∀ session, session.store = store → session.registry.current.IsTidy →
      store.KeepsTidy session.disk → store.KeepsTidy (act session).1.disk) :
    store.KeepsTidy (work store d act tell).1 := by
  rw [work]
  cases hopen : Session.openOn store .empty d 0 with
  | mk disk result =>
    have hdisk : store.KeepsTidy disk := by
      obtain rfl | ⟨t, ht, rfl⟩ := Session.openOn_disk hopen
      · exact h
      · exact h.save (h.load ht)
    cases result with
    | error e => exact hdisk
    | ok session =>
      obtain ⟨t, hload, rfl, -, hstore, -, rfl, -⟩ := Session.openOn_ok hopen
      exact hact session hstore (h.load hload) hdisk

/-- A change keeps the file tidy, whether it is refused, written, or cannot be written. -/
lemma change_keepsTidy {act : Session → Session.Outcome α} {c : Change}
    (hact : ∀ session, (act session).map id (·.map fun _ => ()) = c.run session)
    (hc : c.IsPlain) (hname : ∀ n, c = .add n → Text.lower n = n) (session : Session)
    (hstore : session.store = store) (hs : session.registry.current.IsTidy)
    (h : store.KeepsTidy session.disk) : store.KeepsTidy (act session).1.disk := by
  have hrun : (act session).1 = (c.run session).1 := congrArg Prod.fst (hact session)
  rw [hrun]
  obtain ⟨-, hsame⟩ | ⟨t, heffect, -, -, hdisk⟩ := c.run_cases session
  · rw [hsame]
    exact h
  · rw [hdisk, hstore]
    exact h.save (Change.effect_isTidy hc hname hs heffect)

/-- Every edit keeps the file tidy. -/
lemma perform_keepsTidy (h : store.KeepsTidy d) {e : Edit} (he : e.IsPlain) :
    store.KeepsTidy (perform store d e).1 := by
  cases e with
  | enable =>
    exact work_keepsTidy h (change_keepsTidy (c := .enable) (fun _ => map_unit _) trivial
      (by rintro _ ⟨⟩))
  | disable =>
    exact work_keepsTidy h (change_keepsTidy (c := .disable) (fun _ => map_unit _) trivial
      (by rintro _ ⟨⟩))
  | setWebhook url location =>
    rw [perform]
    split
    next => exact h
    next w hw =>
      have hplain : (Change.setWebhook w).IsPlain := by
        rw [Change.IsPlain, Webhook.ofUrl?_location hw]
        exact he
      exact work_keepsTidy h (change_keepsTidy (fun _ => map_unit _) hplain (by rintro _ ⟨⟩))
  | setAlert text =>
    exact work_keepsTidy h (change_keepsTidy (c := .setGlobalAlert text) (fun _ => map_unit _)
      trivial (by rintro _ ⟨⟩))
  | add name =>
    have hname : ∀ n, Change.add (Text.lower name) = .add n → Text.lower n = n := by
      rintro _ ⟨⟩
      exact Text.lower_lower name
    exact work_keepsTidy h (change_keepsTidy (c := .add (Text.lower name)) (fun _ => rfl) trivial
      hname)
  | remove name =>
    exact work_keepsTidy h (change_keepsTidy (c := .remove (Text.lower name)) (fun _ => rfl) trivial
      (by rintro _ ⟨⟩))
  | setFilterAlert name text =>
    exact work_keepsTidy h (change_keepsTidy (c := .setAlert (Text.lower name) text) (fun _ => rfl)
      trivial (by rintro _ ⟨⟩))
  | list page => exact work_keepsTidy h fun _ _ _ hdisk => hdisk

/-- So does every sequence of edits. -/
lemma foldl_perform_keepsTidy (h : store.KeepsTidy d) {edits : List Edit}
    (hedits : ∀ e ∈ edits, e.IsPlain) :
    store.KeepsTidy (edits.foldl (fun d e => (perform store d e).1) d) := by
  induction edits generalizing d with
  | nil => exact h
  | cons e edits ih =>
    rw [List.forall_mem_cons] at hedits
    exact ih (perform_keepsTidy h hedits.1) hedits.2

/-! ## Names that are shown -/

/-- A report shows a filter of a name in its list. -/
def Shows (name : String) (result : Except RegistryError (List (String × Json))) : Prop :=
  ∃ members shown alert, result = .ok members ∧ ("filters", .arr shown) ∈ members ∧
    StoredFilter.toJson ⟨name, alert⟩ ∈ shown

/-- Where a list shows a name, a registry can be opened, and it has a filter of that name. -/
lemma opens_of_shows (h : store.KeepsTidy d) {name : String} {page : Int}
    (hshows : Shows name (perform store d (.list page)).2) :
    ∃ s, Opens store s d ∧ ∃ f ∈ s.filters, f.name = name := by
  obtain ⟨members, shown, alert, hok, hmember, hmem⟩ := hshows
  rw [perform, work] at hok
  cases hopen : Session.openOn store .empty d 0 with
  | mk disk result =>
    rw [hopen] at hok
    cases result with
    | error e => cases hok
    | ok session =>
      obtain ⟨t, hload, hcurrent, -⟩ := Session.openOn_ok hopen
      refine ⟨t, ⟨hload, (h.load hload).plain, disk, session, hopen⟩, ?_⟩
      cases hok
      -- of the members only one is a list of filters
      have hshown : shown = (session.registry.page page).filters.map fun f => f.stored.toJson := by
        simpa [FilterPage.toMembers] using hmember
      rw [hshown] at hmem
      obtain ⟨f, hf, hjson⟩ := List.mem_map.1 hmem
      have hname : f.name = name ∧ f.alert = alert := by
        simpa [StoredFilter.toJson, Filter.stored] using Json.obj.inj hjson
      have hregistry : f ∈ session.registry.filters :=
        List.mem_of_mem_drop (List.mem_of_mem_take hf)
      refine ⟨f.stored, ?_, hname.1⟩
      rw [← hcurrent]
      exact List.mem_map_of_mem hregistry

/-- A list shows the names of the filters on its page. -/
lemma shows_of_mem (h : Opens store s d) {f : StoredFilter} {page : Int}
    (hf : f ∈ (s.filters.drop (((max page 1).toNat - 1) * pageSize)).take pageSize) :
    Shows f.name (perform store d (.list page)).2 := by
  obtain ⟨session, rfl, -, -, -, -, hwork⟩ :=
    work_eq h (fun session => (session, .ok (session.registry.page page))) fun r p =>
      [("enabled", .bool r.settings.enabled), ("alert", .str r.settings.alert)] ++ p.toMembers
  rw [perform, hwork]
  refine ⟨_, ((session.registry.page page).filters.map Filter.stored).map StoredFilter.toJson,
    f.alert, rfl, ?_, List.mem_map_of_mem ?_⟩
  · rw [List.map_map]
    simp [FilterPage.toMembers, Function.comp_def]
  · rw [Registry.current, ← List.map_drop, ← List.map_take] at hf
    exact hf

/-! ## Edits of a named filter -/

lemma saveAnd_ok {a b : α} {session : Session} (h : (session.saveAnd a).2 = .ok b) : b = a := by
  obtain ⟨_, -, rfl⟩ := Except.map_eq_ok.1 h
  rfl

/-- What removing filters reports, if it can be written. -/
lemma perform_remove (h : Opens store s d) {name : String} (hname : Text.lower name = name) :
    let kept := s.filters.filter (·.name != name)
    (perform store d (.remove name)).2 = .ok [("removed", .str name),
      ("count", .nat (s.filters.length - kept.length)), ("filter_count", .nat kept.length)] := by
  intro kept
  have hfollows := perform_follows h (e := .remove name) trivial
  obtain ⟨members, hok⟩ := hfollows.succeeds.2 rfl
  obtain ⟨session, rfl, -, -, -, -, hwork⟩ := work_eq h (Session.remove name) fun r count =>
    [("removed", .str name), ("count", .nat count), filterCount r]
  rw [perform, hname, hwork] at hok ⊢
  obtain ⟨count, hcount, rfl⟩ := Except.map_eq_ok.1 hok
  have hkept : kept.length = (session.registry.filters.filter (·.name != name)).length := by
    rw [← List.length_map (f := Filter.stored)]
    exact congrArg (fun r => r.filters.length) (Change.current_filter session.registry name).symm
  have hall : session.registry.current.filters.length = session.registry.filters.length :=
    List.length_map _
  rw [hcount, saveAnd_ok hcount, hkept, hall]
  rfl

/-- What adding a filter reports whose name is taken. -/
lemma perform_add_duplicate (h : Opens store s d) {name text : String}
    (htaken : s.contains name = true) (hname : Text.lower text = name) :
    (perform store d (.add text)).2 = .error (.duplicate name) := by
  obtain ⟨session, rfl, -, -, -, -, hwork⟩ := work_eq h (Session.add name) fun r _ =>
    [("added", .str name), filterCount r]
  rw [Change.contains_current] at htaken
  rw [perform, hname, hwork, Session.add, if_pos htaken]
  rfl

/-! ## Addresses -/

/-- A name addresses one filter on a disk: removing it takes that filter away and no other, setting
its alert changes that filter and no other, and whatever is added under that name is refused. -/
def Addresses (store : Store) (d : Disk) (name : String) : Prop :=
  ∃ s l f r, store.load d = .ok s ∧ s.filters = l ++ f :: r ∧ f.name = name ∧
    (∀ g ∈ l ++ r, g.name ≠ name) ∧
    (store.load (perform store d (.remove name)).1 = .ok { s with filters := l ++ r } ∧
      (perform store d (.remove name)).2 = .ok [("removed", .str name), ("count", .nat 1),
        ("filter_count", .nat (l ++ r).length)]) ∧
    (∀ text, store.load (perform store d (.setFilterAlert name text)).1 =
        .ok { s with filters := l ++ { f with alert := StoredFilter.alertOf text } :: r } ∧
      ∃ members, (perform store d (.setFilterAlert name text)).2 = .ok members) ∧
    ∀ text, Text.lower text = name →
      store.load (perform store d (.add text)).1 = .ok s ∧
        (perform store d (.add text)).2 = .error (.duplicate name)

/-- A name that a list shows addresses one filter of a tidy file. -/
lemma addresses_of_keepsTidy (h : store.KeepsTidy d) {name : String} {page : Int}
    (hshows : Shows name (perform store d (.list page)).2) : Addresses store d name := by
  obtain ⟨s, hopens, f, hf, rfl⟩ := opens_of_shows h hshows
  have htidy := h.load hopens.load
  have hlowered := htidy.lowered f hf
  obtain ⟨l, r, hsplit, hother⟩ := htidy.split hf
  have hcontains : s.contains f.name = true :=
    Settings.contains_iff.2 (List.mem_map_of_mem hf)
  have hkept := StoredFilter.filter_append hother rfl
  refine ⟨s, l, f, r, hopens.load, hsplit, rfl, hother, ⟨?_, ?_⟩, fun text => ⟨?_, ?_⟩,
    fun text htext => ⟨?_, perform_add_duplicate hopens hcontains htext⟩⟩
  · have hload := (perform_follows hopens (e := .remove f.name) trivial).opens.load
    rw [effect, hlowered, Change.effect, hsplit, hkept] at hload
    exact hload
  · have hcount : (l ++ f :: r).length - (l ++ r).length = 1 := by
      simp only [List.length_append, List.length_cons]
      omega
    have hreport := perform_remove hopens hlowered
    dsimp only at hreport
    rw [hsplit, hkept, hcount] at hreport
    exact hreport
  · have hload := (perform_follows hopens (e := .setFilterAlert f.name text) trivial).opens.load
    rw [effect, hlowered, Change.effect, if_pos hcontains, hsplit, StoredFilter.alertFirst_append
      (fun g hg => hother g (List.mem_append_left _ hg)) rfl] at hload
    exact hload
  · refine (perform_follows hopens (e := .setFilterAlert f.name text) trivial).succeeds.2 ?_
    rw [effect, hlowered, Change.effect, if_pos hcontains]
    rfl
  · have hload := (perform_follows hopens (e := .add text) trivial).opens.load
    rw [effect, htext, Change.effect, hcontains] at hload
    exact hload

/-- Where there was no settings file at first, the filters have names of their own after any edits,
and lowering leaves these names as they are; so each name that a list shows addresses one filter.
This also if some edits are refused, and if the file cannot be written.  Edits that command lines
ask for are always plain (`isPlain_of_line`). -/
theorem addresses_of_shows (hvacant : d.Vacant store.path) {edits : List Edit}
    (hedits : ∀ e ∈ edits, e.IsPlain) :
    let d' := edits.foldl (fun d e => (perform store d e).1) d
    (∀ s, store.load d' = .ok s →
      (s.filters.map StoredFilter.name).Nodup ∧ ∀ f ∈ s.filters, Text.lower f.name = f.name) ∧
    ∀ name page, Shows name (perform store d' (.list page)).2 → Addresses store d' name := by
  intro d'
  have hkeeps : store.KeepsTidy d' := foldl_perform_keepsTidy (.inl hvacant) hedits
  refine ⟨fun s hload => ?_, fun name page hshows => addresses_of_keepsTidy hkeeps hshows⟩
  have htidy := hkeeps.load hload
  exact ⟨htidy.nodup, htidy.lowered⟩

/-- A word in capitals that ends in a sigma, and a letter that is lowered to two, address the
filters that were added under them; a filter that was removed is shown no more. -/
theorem addresses_of_shows_scripts :
    let store : Store := ⟨["a.json"], "!"⟩
    let edits : List Edit := [.add "ΠΑΣ", .add "πασ", .add "πας", .add "İ", .remove "TOKENS0+"]
    let d := edits.foldl (fun d e => (perform store d e).1) .empty
    Disk.empty.Vacant store.path ∧ (∀ e ∈ edits, e.IsPlain) ∧
      (∀ s, store.load d = .ok s →
        (s.filters.map StoredFilter.name).Nodup ∧ ∀ f ∈ s.filters, Text.lower f.name = f.name) ∧
      ∀ name ∈ ["πας", "πασ", "i\u0307"], Shows name (perform store d (.list 1)).2 ∧
        Addresses store d name := by
  intro store edits d
  have hvacant : Disk.empty.Vacant ["a.json"] := Disk.vacant_of_folder rfl rfl
  have hedits : ∀ e ∈ edits, e.IsPlain := by
    intro e he
    cases e with
    | setWebhook url location =>
      simp only [edits, List.mem_cons, reduceCtorEq, List.not_mem_nil, or_false] at he
    | _ => trivial
  have hload : store.load .empty = .ok (Settings.initial "!") := by
    have hexists : Disk.empty.exists? ["a.json"] = .ok false := rfl
    rw [Store.load, hexists]
  have hopen : ∃ d' session, Session.openOn ⟨["a.json"], "!"⟩ .empty .empty 0 =
      (d', .ok session) := ⟨_, _, rfl⟩
  have hopens : Opens store (Settings.initial "!") .empty :=
    ⟨hload, Settings.isPlain_initial "!", hopen⟩
  have hafter := foldl_perform_opens hopens hedits
  obtain ⟨hnames, haddresses⟩ := @addresses_of_shows store _ hvacant edits hedits
  refine ⟨hvacant, hedits, hnames, fun name hname => ?_⟩
  have hshows : Shows name (perform store d (.list 1)).2 := by
    have hfold : edits.foldl after (Settings.initial "!") =
        { Settings.initial "!" with
          filters := [⟨"πας", .null⟩, ⟨"πασ", .null⟩, ⟨"i\u0307", .null⟩] } := by rfl
    rw [hfold] at hafter
    have hmem : (⟨name, .null⟩ : StoredFilter) ∈
        [⟨"πας", .null⟩, ⟨"πασ", .null⟩, ⟨"i\u0307", .null⟩] := by
      simpa using hname
    exact @shows_of_mem store _ d hafter ⟨name, .null⟩ 1 hmem
  exact ⟨hshows, haddresses name 1 hshows⟩

end Command.Edit

end FeedWatch
