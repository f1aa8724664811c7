import FeedWatch.Command.Check
import FeedWatch.Command.Edit
import FeedWatch.Proofs.Reference.Fetch
import FeedWatch.Proofs.Registry.Failure
import FeedWatch.Proofs.Registry.Unindexed
import FeedWatch.Proofs.Store.Reread
import FeedWatch.Proofs.Text.Lower
import FeedWatch.Proofs.Watcher.Agreement

/-!
# A check foretells what a watcher does

A check compiles a query as it was typed, over the reference that it consults.  A filter is added
under its name in small letters, over no reference, goes through the settings file, and is compiled
again by whoever opens a registry on the file.  Both come to the same: lowering a query twice is
lowering it once, and of a settings file the names of filters come back exactly.

Main statement: if a query is added, or is there already, a watcher that starts on the settings
file, or takes it over, with the reference that a check consults, accepts the item of a frame for
that filter exactly when the check of the item says that it matches, which is when every clause
passes (`Check.perform_agrees`).
-/

namespace FeedWatch

/-! ## Queries -/

/-- A query in small letters has the clauses of the query. -/
lemma Query.compile_lower (index : ReferenceIndex) (source : String) :
    (compile index (Text.lower source)).map clauses = (compile index source).map clauses := by
  rw [compile, compile, Text.lower_isEmpty, Text.lower_lower]
  cases source.isEmpty with
  | true => rfl
  | false =>
    cases ((Text.lower source).toList.splitOn ',').mapM (Clause.compile index) with
    | error e => rfl
    | ok cs => rfl

/-- Which names compile does not depend on the index. -/
lemma StoredFilter.Compiles.of_empty {f : StoredFilter} (h : f.Compiles .empty)
    (index : ReferenceIndex) : f.Compiles index := by
  obtain ⟨q, hq⟩ := h
  rw [← Query.compile_bare index] at hq
  obtain ⟨q', hq', -⟩ := Except.map_eq_ok.1 hq
  exact ⟨q', hq'⟩

/-! ## Adding a filter -/

namespace Command

namespace Edit

variable {store : Store} {s : Settings} {d d' : Disk}

/-- The settings file keeps settings that can be loaded and have a filter with a name. -/
def Lists (store : Store) (name : String) (d : Disk) : Prop :=
  ∃ settings, store.Keeps settings d ∧ settings.IsFit ∧
    (∀ f ∈ settings.filters, f.Compiles .empty) ∧ ∃ f ∈ settings.filters, f.name = name

/-- Opening a registry fails at nothing that a command foresees. -/
lemma refusal?_openOn {e : RegistryError} (h : Session.openOn store .empty d 0 = (d', .error e)) :
    refusal? e = none := by
  rw [Session.openOn] at h
  split at h
  · cases h
    rfl
  · split at h
    · cases h
      rfl
    · obtain ⟨-, hresult⟩ := Prod.ext_iff.1 h
      obtain ⟨-, cause, rfl⟩ := Session.save_error (Prod.ext rfl (Except.map_eq_error.1 hresult))
      rfl

/-- What a session has once it is open, as a file that lists its filters. -/
lemma lists_of_keeps {session : Session} {name : String}
    (hkeeps : store.Keeps session.registry.current d) (hfit : session.registry.current.IsFit)
    (hcompiled : session.registry.IsCompiled .empty)
    (hname : ∃ f ∈ session.registry.filters, f.name = name) : Lists store name d := by
  obtain ⟨f, hf, hname⟩ := hname
  exact ⟨_, hkeeps, hfit, hcompiled.compiles, f.stored, List.mem_map.2 ⟨f, hf, rfl⟩, hname⟩

/-- A compiled filter without an alert of its own is written with the others of a session. -/
lemma lists_of_saved {session s₁ s₂ : Session} {filter : Filter} (hsave : s₁.save = (s₂, .ok ()))
    (hfilters : s₁.registry.filters = session.registry.filters ++ [filter])
    (hsettings : s₁.registry.settings = session.registry.settings)
    (hfit : session.registry.current.IsFit) (hcompiled : session.registry.IsCompiled .empty)
    (hfilter : filter.IsCompiled .empty) (halert : filter.alert = .null) :
    Lists s₁.store filter.name s₂.disk := by
  have hwrote := Session.save_ok hsave
  have hfilters₂ : s₂.registry.filters = session.registry.filters ++ [filter] :=
    hwrote.filters.trans hfilters
  refine lists_of_keeps (hwrote.current ▸ hwrote.keeps) ?_ ?_ ⟨filter, ?_, rfl⟩
  · rw [hwrote.current, Registry.current, hfilters, hsettings]
    refine ⟨fun f hf => ?_, hfit.location⟩
    obtain ⟨g, hg, rfl⟩ := List.mem_map.1 hf
    obtain hg | hg := List.mem_append.1 hg
    · exact hfit.alert _ (List.mem_map.2 ⟨g, hg, rfl⟩)
    · rw [List.mem_singleton.1 hg, Filter.stored, halert]
      exact .null
  · rw [Registry.IsCompiled, hfilters₂, List.forall_mem_append]
    exact ⟨hcompiled, List.forall_mem_singleton.2 hfilter⟩
  · rw [hfilters₂]
    exact List.mem_append_right _ List.mem_cons_self

/-- A filter that is added, or was there before, is listed in the settings file. -/
lemma lists_add {name : String} {result : Except RegistryError (List (String × Json))}
    (h : perform store d (.add name) = (d', result))
    (hreturns : ∀ e, result = .error e → (refusal? e).isSome) :
    Lists store (Text.lower name) d' := by
  rw [perform, work] at h
  cases hopen : Session.openOn store .empty d 0 with
  | mk d₁ opened =>
    rw [hopen] at h
    cases opened with
    | error e =>
      cases h
      have hforeseen := hreturns e rfl
      rw [refusal?_openOn hopen] at hforeseen
      cases hforeseen
    | ok session =>
      obtain ⟨settings, hload, rfl, hcompiled, rfl, hindex, rfl, hkeeps⟩ := Session.openOn_ok hopen
      have hfit := Settings.isFit_of_load hload
      dsimp only at h
      rw [Session.add] at h
      split_ifs at h with hcontains
      · cases h
        obtain ⟨f, hf, hname⟩ := List.any_eq_true.1 hcontains
        exact lists_of_keeps hkeeps hfit hcompiled ⟨f, hf, beq_iff_eq.1 hname⟩
      · split at h
        · cases h
          cases hreturns _ rfl
        next filter hfilter =>
          obtain ⟨hstored, hfilter⟩ := Filter.compile_ok hfilter
          rw [Session.saveAnd] at h
          cases hsave : Session.save { session with
              registry := { session.registry with
                filters := session.registry.filters ++ [filter] }
              nextSerial := session.nextSerial + 1 } with
          | mk session' saved =>
            rw [hsave] at h
            cases h
            cases saved with
            | error e =>
              obtain ⟨-, cause, rfl⟩ := Session.save_error hsave
              cases hreturns _ rfl
            | ok _ =>
              have hlists := lists_of_saved hsave rfl rfl hfit hcompiled (hindex ▸ hfilter)
                (congrArg StoredFilter.alert hstored)
              rwa [show filter.name = _ from congrArg StoredFilter.name hstored] at hlists

/-! ## Loading the file -/

/-- A file that lists a filter is loaded as settings with a filter of that name, all of whose
filters compile over any reference. -/
lemma Lists.load {name : String} (h : Lists store name d) :
    ∃ settings, store.load d = .ok settings ∧ (∃ place, d.Settled store.path place) ∧
      (∀ index, ∀ f ∈ settings.filters, f.Compiles index) ∧
      ∃ f ∈ settings.filters, f.name = name := by
  obtain ⟨settings, hkeeps, hfit, hcompiles, f, hf, hname⟩ := h
  have hload : store.load d = .ok settings.reread := hkeeps.load_reread hfit store.marker
  obtain ⟨place, stamp, hset, -⟩ := hkeeps
  refine ⟨_, hload, ⟨place, hset⟩, fun index f hf => ?_,
    f.reread, List.mem_map.2 ⟨f, hf, rfl⟩, hname⟩
  obtain ⟨g, hg, rfl⟩ := List.mem_map.1 hf
  exact (hcompiles g hg).of_empty index

/-- What is kept of compiled filters has their names. -/
lemma exists_of_stored {filters : List Filter} {stored : List StoredFilter} {name : String}
    (hstored : filters.map Filter.stored = stored) (h : ∃ f ∈ stored, f.name = name) :
    ∃ f ∈ filters, f.name = name := by
  obtain ⟨f, hf, hname⟩ := h
  rw [← hstored] at hf
  obtain ⟨g, hg, rfl⟩ := List.mem_map.1 hf
  exact ⟨g, hg, hname⟩

/-- A registry can be opened on a file that lists a filter, and then has a filter of that name. -/
lemma Lists.openOn {name : String} (h : Lists store name d) (index : ReferenceIndex)
    (serial : Nat) : ∃ d' session, Session.openOn store index d serial = (d', .ok session) ∧
      session.registry.IsCompiled index ∧ ∃ f ∈ session.registry.filters, f.name = name := by
  obtain ⟨settings, hload, ⟨place, hset⟩, hcompiles, hname⟩ := h.load
  obtain ⟨d', session, hopen⟩ := Session.openOn_of_load hload hset (hcompiles index) serial
  obtain ⟨t, hload', hcurrent, hcompiled, -⟩ := Session.openOn_ok hopen
  obtain rfl : settings = t := Except.ok.inj (hload.symm.trans hload')
  exact ⟨d', session, hopen, hcompiled, exists_of_stored (congrArg Settings.filters hcurrent) hname⟩

/-- A registry can read a file again that lists a filter, and then has a filter of that name. -/
lemma Lists.reload {name : String} {session : Session}
    (h : Lists session.store name session.disk) : ∃ session', session.reload = (session', .ok ()) ∧
      session'.registry.IsCompiled session.index ∧
      ∃ f ∈ session'.registry.filters, f.name = name := by
  obtain ⟨settings, hload, -, hcompiles, hname⟩ := h.load
  obtain ⟨filters, hfilters⟩ :=
    @Filter.compileAll_of_compiles session.index session.nextSerial _ (hcompiles session.index)
  obtain ⟨hstored, hcompiled⟩ := Filter.compileAll_ok hfilters
  refine ⟨{ session with
      registry := ⟨settings, filters⟩, nextSerial := session.nextSerial + filters.length },
    ?_, hcompiled, exists_of_stored hstored hname⟩
  rw [Session.reload, hload]
  simp only [hfilters]

end Edit

end Command

/-! ## What a filter says -/

/-- A registry has a filter of a name, and every filter of that name accepts the item in a frame
exactly if the answer is yes. -/
def Registry.Answers (r : Registry) (name : String) (item : List (String × Json)) (answer : Bool) :
    Prop :=
  r.contains name = true ∧ ∀ f ∈ r.filters, f.name = name → ∀ payload members tags,
    Event.readPayload payload = .ok (.obj members) → members.lookup "tags" = some (.arr tags) →
    members.lookup "item" = some (.obj item) →
    ∃ event, Event.ofFrame payload = .ok event ∧ f.accepts event.item = answer

/-- Compiled filters under the lowered text of a query answer as the query does. -/
lemma Registry.answers_of_isCompiled {r : Registry} {index : ReferenceIndex} {source : String}
    {q : Query} {fields : List (String × Json)} {item : Item} (hcompiled : r.IsCompiled index)
    (hname : ∃ f ∈ r.filters, f.name = Text.lower source) (hq : Query.compile index source = .ok q)
    (hitem : Item.ofJson (.obj fields) = .ok item) :
    r.Answers (Text.lower source) fields (q.accepts item) := by
  obtain ⟨g, hg, hgname⟩ := hname
  refine ⟨List.any_eq_true.2 ⟨g, hg, beq_iff_eq.2 hgname⟩, ?_⟩
  intro f hf hfname payload members tags hread htags hmember
  refine ⟨⟨tags.map Json.shown, item⟩, ?_, ?_⟩
  · rw [Event.ofFrame, hread]
    simp only [Event.ofJson, htags, hmember, hitem]
  · have hclauses := Query.compile_lower index source
    rw [← hfname, hcompiled f hf, hq] at hclauses
    rw [Filter.accepts, Query.accepts, Query.accepts, Except.ok.inj hclauses]

/-! ## References -/

/-- The reference document that a check goes by: that of a file, or the one that is fetched. -/
def Command.Check.Consults (config : Except Config.Faults Config) (disk : Disk) (line : Http.Line)
    (c : Check) (v : Json) : Prop :=
  match c.reference.filter (· != "") with
  | some path => Document.read (.parse path) disk = .ok v
  | none => ∃ config', config = .ok config' ∧
      (line.exchange "GET" config'.referenceUrl none).2.Carries v

/-- The reference document that a watcher is started with: that of an index, or the one that it
fetches. -/
def Watcher.Consults (w : Watcher) (source : Option ReferenceIndex) (v : Json) : Prop :=
  match source with
  | some index => ReferenceIndex.ofJson v = .ok index
  | none => (w.engine.network.request "GET" (some w.setup.referenceUrl) none
      w.engine.micros).2.reply.Carries v

lemma Command.Check.readReference_of_consults {config : Except Config.Faults Config} {disk : Disk}
    {line : Http.Line} {c : Check} {v : Json} {index : ReferenceIndex}
    (h : c.Consults config disk line v) (hindex : ReferenceIndex.ofJson v = .ok index) :
    (c.readReference config disk line).2 = .ok index := by
  revert h
  rw [Consults, readReference.eq_def]
  cases c.reference.filter (· != "") with
  | some path =>
    intro h
    dsimp only at h ⊢
    rw [h]
    exact FeedWatch.Except.mapError_eq_ok.2 hindex
  | none =>
    rintro ⟨config', rfl, hreply⟩
    exact FeedWatch.Except.mapError_eq_ok.2 (ReferenceIndex.ofReply_eq_ok.2 ⟨v, hreply, hindex⟩)

/-- The reference of a watcher does not touch the settings file. -/
lemma Watcher.start_of_consults {w : Watcher} {source : Option ReferenceIndex} {v : Json}
    {index : ReferenceIndex} (h : w.Consults source v)
    (hindex : ReferenceIndex.ofJson v = .ok index) :
    ∃ w' : Watcher, w.start source = w'.startWith index ∧ w'.engine.disk = w.engine.disk ∧
      w'.engine.store = w.engine.store := by
  cases source with
  | some index' =>
    obtain rfl : index' = index := Except.ok.inj (h.symm.trans hindex)
    exact ⟨w, rfl, rfl, rfl⟩
  | none =>
    obtain ⟨hdisk, hstore⟩ := disk_fetchIndex w
    have hfetch : w.fetchIndex.2 = .ok index := ReferenceIndex.ofReply_eq_ok.2 ⟨v, h, hindex⟩
    refine ⟨w.fetchIndex.1, ?_, hdisk, hstore⟩
    rw [start, ← Prod.mk.eta (p := w.fetchIndex), hfetch]

/-- A watcher that opens a registry has it in its newest station. -/
lemma Watcher.startWith_ok {w : Watcher} {index : ReferenceIndex} {disk : Disk} {session : Session}
    (hopen : Session.openOn w.engine.store index w.engine.disk w.engine.nextSerial =
      (disk, .ok session)) :
    ∃ w' station, w.startWith index = (w', .ok ()) ∧ w'.station? = some station ∧
      station.registry = session.registry := by
  set p := Pipeline.start w.setup.pages (.service w.setup.playerTemplate false)
    (.webhook (.ofUrl (Engine.webhookUrl session.registry))) w.engine.network
  set e : Engine :=
    { w.engine.addStation session p with stamp := w.engine.store.stamp? session.disk }
  set e' := (e.startListener w.engine.stations.length).startRefresher w.engine.stations.length
  have hstart : w.startWith index = ({ w with engine := e' }, .ok ()) := startWith_of_openOn hopen
  -- starting the listener changes nothing at any desk
  have hdesks : e'.stations.map Station.desk = e.stations.map Station.desk :=
    congrArg Books.desks (Engine.books_startListener w.engine.stations.length e)
  have hlast : e.stations.getLast? = some ⟨session.index, session.registry, p, .initial⟩ :=
    List.getLast?_concat ..
  have hdesk : e'.stations.getLast?.map Station.desk = some
      (Station.desk ⟨session.index, session.registry, p, .initial⟩) := by
    rw [← List.getLast?_map, hdesks, List.getLast?_map, hlast, Option.map_some]
  obtain ⟨station, hstation, hregistry⟩ := Option.map_eq_some_iff.1 hdesk
  exact ⟨_, station, hstart, hstation, congrArg Desk.registry hregistry⟩

/-! ## Checks -/

namespace Command

/-- Whether a clause passes, as a report says it. -/
def Check.passes? (clause : Json) : Option Bool :=
  match clause.member "passes" with
  | .ok (.bool b) => some b
  | _ => none

section

variable {store : Store} {d d' disk : Disk} {config : Except Config.Faults Config}
variable {line : Http.Line} {c : Check} {v : Json} {index : ReferenceIndex} {item : Item}
variable {fields : List (String × Json)}
variable {result : Except RegistryError (List (String × Json))}

/-- A check of an accepted item says for every clause whether it passes, and as its answer whether
all do. -/
lemma Check.perform_ok {q : Query} (hread : Document.read (.parse c.item) disk = .ok (.obj fields))
    (hitem : Item.ofJson (.obj fields) = .ok item) (hreference : c.Consults config disk line v)
    (hindex : ReferenceIndex.ofJson v = .ok index) (hq : Query.compile index c.query = .ok q) :
    ∃ members clauses, (c.perform config disk line).2 = .ok members ∧
      members.lookup "matches" = some (.bool (q.accepts item)) ∧
      members.lookup "clauses" = some (.arr clauses) ∧
      clauses.map passes? = q.clauses.map fun clause => some (clause.accepts item) := by
  have hreadItem : c.readItem disk = .ok item := by
    rw [readItem, hread]
    exact FeedWatch.Except.mapError_eq_ok.2 hitem
  have hreadReference := readReference_of_consults hreference hindex
  have hmatches : (members c.query q item).lookup "matches" = some (.bool (q.accepts item)) := by
    simp [members, List.lookup_cons]
  have hclauses : (members c.query q item).lookup "clauses" =
      some (.arr (q.clauses.map (clauseJson item))) := by
    simp [members, List.lookup_cons]
  have hperform : (c.perform config disk line).2 = .ok (members c.query q item) := by
    cases hconsulted : c.readReference config disk line with
    | mk line' consulted =>
      rw [hconsulted] at hreadReference
      obtain rfl : consulted = .ok index := hreadReference
      unfold perform
      rw [hreadItem]
      dsimp only
      rw [hconsulted]
      dsimp only
      rw [hq, Except.mapError, Except.map]
  have hpasses : ∀ clause : Clause, passes? (clauseJson item clause) =
      some (clause.accepts item) := by
    intro clause
    simp [passes?, clauseJson, Json.member, List.lookup_cons]
  refine ⟨_, _, hperform, hmatches, hclauses, ?_⟩
  rw [List.map_map]
  exact List.map_congr_left fun clause _ => hpasses clause

/-- A check of an item, and a watcher with the same reference that starts on the settings file, or
takes it over, once the query has been added to it, or found there, say the same of the item. -/
theorem Check.perform_agrees {w : Watcher} {source : Option ReferenceIndex}
    (hread : Document.read (.parse c.item) disk = .ok (.obj fields))
    (hitem : Item.ofJson (.obj fields) = .ok item) (hreference : c.Consults config disk line v)
    (hindex : ReferenceIndex.ofJson v = .ok index)
    (hadd : Edit.perform store d (.add c.query) = (d', result))
    (hreturns : ∀ e, result = .error e → (refusal? e).isSome)
    (hstore : w.engine.store = store) (hdisk : w.engine.disk = d') (hsource : w.Consults source v) :
    ∃ members answer clauses, ∃ passes : List Bool,
      (c.perform config disk line).2 = .ok members ∧
      members.lookup "matches" = some (.bool answer) ∧
      members.lookup "clauses" = some (.arr clauses) ∧
      clauses.map passes? = passes.map some ∧
      answer = passes.all id ∧
      (∃ w' station, w.start source = (w', .ok ()) ∧ w'.station? = some station ∧
        station.registry.Answers (Text.lower c.query) fields answer) ∧
      ∀ session : Session, session.store = store → session.index = index → session.disk = d' →
        ∃ session', session.reload = (session', .ok ()) ∧
          session'.registry.Answers (Text.lower c.query) fields answer := by
  obtain ⟨v₀, hstart, hsame, hsame'⟩ := Watcher.start_of_consults hsource hindex
  have hlists := Edit.lists_add hadd hreturns
  have hlisted : Edit.Lists v₀.engine.store (Text.lower c.query) v₀.engine.disk := by
    rwa [hsame, hsame', hstore, hdisk]
  obtain ⟨d₁, session, hopen, hcompiled, hname⟩ := hlisted.openOn index v₀.engine.nextSerial
  obtain ⟨w', station, hstarted, hstation, hregistry⟩ := Watcher.startWith_ok hopen
  -- the query compiles over the reference of the check because its filter did
  obtain ⟨f, hf, hfname⟩ := hname
  have hq : ∃ q, Query.compile index c.query = .ok q := by
    have hclauses := Query.compile_lower index c.query
    rw [← hfname, hcompiled f hf] at hclauses
    obtain ⟨q, hq, -⟩ := FeedWatch.Except.map_eq_ok.1 hclauses.symm
    exact ⟨q, hq⟩
  obtain ⟨q, hq⟩ := hq
  obtain ⟨members, clauses, hperform, hmatches, hclauses, hpasses⟩ :=
    Check.perform_ok hread hitem hreference hindex hq
  refine ⟨members, _, clauses, q.clauses.map (·.accepts item), hperform, hmatches, hclauses, ?_, ?_,
    ⟨w', station, hstart.trans hstarted, hstation, ?_⟩, ?_⟩
  · rw [hpasses, List.map_map]
    rfl
  · rw [List.all_map]
    rfl
  · rw [hregistry]
    exact Registry.answers_of_isCompiled hcompiled ⟨f, hf, hfname⟩ hq hitem
  · rintro session rfl rfl rfl
    obtain ⟨session', hreload, hcompiled', hname'⟩ := hlists.reload
    exact ⟨session', hreload, Registry.answers_of_isCompiled hcompiled' hname' hq hitem⟩

end

namespace Sample

/-- A reference with one class. -/
def reference : Json := .obj [("Pit", .obj [("Mystics", .obj [
  ("perun", .obj [("Classes", .arr [.str "RARE"])])])])]

/-- An item with an enchant of that class. -/
def fields : List (String × Json) := [("_id", .str "x"),
  ("enchants", .arr [.obj [("key", .str "perun"), ("level", .int 3)]])]

/-- A disk with the item and the reference. -/
def disk : Disk :=
  (Disk.empty.putFile ["i.json"] (Json.obj fields).indented.toUTF8).putFile ["r.json"]
    reference.indented.toUTF8

/-- A query in capitals, with a sigma at the end of a word. -/
def check : Check := ⟨"RARE2+,!ΣΑΣ", "i.json", some "r.json"⟩

def store : Store := ⟨["a.json"], "!"⟩

/-- What adding the query leaves. -/
def added : Edit.Result := Edit.perform store .empty (.add check.query)

/-- A watcher at the settings file that the query was added to. -/
def watcher : Watcher :=
  .create { store, timing := .standard, pages := .standard
            playerTemplate := Owner.defaultTemplate, referenceUrl := "" } 0 added.1 (.ofRoutes [])
    (.ofScript [])

lemma read_item : Document.read (.parse check.item) disk = .ok (.obj fields) := by
  have henchant : Json.IsPlain (.obj [("key", .str "perun"), ("level", .int 3)]) :=
    .obj (by decide) (List.forall_mem_cons.2 ⟨.str, List.forall_mem_singleton.2 (.int (by decide))⟩)
  have hplain : Json.IsPlain (.obj fields) := .obj (by decide) (List.forall_mem_cons.2
    ⟨.str, List.forall_mem_singleton.2 (.arr (List.forall_mem_singleton.2 henchant))⟩)
  have hat : disk.at? ["i.json"] = some (.file (Json.obj fields).indented.toUTF8 1) := by
    rw [disk, Disk.at?_putFile, if_neg (by decide), Disk.at?_putFile, if_pos rfl]
    rfl
  exact Document.read_written hplain rfl hat

lemma read_reference : Document.read (.parse "r.json") disk = .ok reference := by
  have hclasses : Json.IsPlain (.obj [("Classes", .arr [.str "RARE"])]) :=
    .obj (by decide) (List.forall_mem_singleton.2 (.arr (List.forall_mem_singleton.2 .str)))
  have hmystics : Json.IsPlain (.obj [("perun", .obj [("Classes", .arr [.str "RARE"])])]) :=
    .obj (by decide) (List.forall_mem_singleton.2 hclasses)
  have hpit : Json.IsPlain (.obj [("Mystics", .obj [
      ("perun", .obj [("Classes", .arr [.str "RARE"])])])]) :=
    .obj (by decide) (List.forall_mem_singleton.2 hmystics)
  have hplain : reference.IsPlain := .obj (by decide) (List.forall_mem_singleton.2 hpit)
  have hat : disk.at? ["r.json"] = some (.file reference.indented.toUTF8 2) := by
    rw [disk, Disk.at?_putFile, if_pos rfl]
    rfl
  exact Document.read_written hplain rfl hat

end Sample

/-- A query of a class and a negated flag, in capitals, is checked, added and watched. -/
theorem Check.perform_agrees_sigma :
    ∃ item index result, Document.read (.parse Sample.check.item) Sample.disk =
        .ok (.obj Sample.fields) ∧
      Item.ofJson (.obj Sample.fields) = .ok item ∧
      Sample.check.Consults (.error []) Sample.disk ⟨.ofRoutes [], 0⟩ Sample.reference ∧
      ReferenceIndex.ofJson Sample.reference = .ok index ∧
      Edit.perform Sample.store .empty (.add Sample.check.query) = (Sample.added.1, .ok result) ∧
      ∃ members answer clauses, ∃ passes : List Bool,
        (Sample.check.perform (.error []) Sample.disk ⟨.ofRoutes [], 0⟩).2 = .ok members ∧
        members.lookup "matches" = some (.bool answer) ∧
        members.lookup "clauses" = some (.arr clauses) ∧
        clauses.map passes? = passes.map some ∧
        answer = passes.all id ∧
        (∃ w' station, Sample.watcher.start (some index) = (w', .ok ()) ∧
          w'.station? = some station ∧
          station.registry.Answers (Text.lower Sample.check.query) Sample.fields answer) ∧
        ∀ session : Session, session.store = Sample.store → session.index = index →
          session.disk = Sample.added.1 → ∃ session', session.reload = (session', .ok ()) ∧
            session'.registry.Answers (Text.lower Sample.check.query) Sample.fields answer := by
  have hitem : ∃ item, Item.ofJson (.obj Sample.fields) = .ok item := ⟨_, rfl⟩
  have hindex : ∃ index, ReferenceIndex.ofJson Sample.reference = .ok index := ⟨_, rfl⟩
  have hadded : ∃ result, Sample.added.2 = .ok result := by
    have hok : Sample.added.2.toBool = true := by decide +kernel
    cases hresult : Sample.added.2 with
    | ok result => exact ⟨result, rfl⟩
    | error e =>
      rw [hresult] at hok
      cases hok
  obtain ⟨item, hitem⟩ := hitem
  obtain ⟨index, hindex⟩ := hindex
  obtain ⟨result, hadded⟩ := hadded
  have hperform : Edit.perform Sample.store .empty (.add Sample.check.query) =
      (Sample.added.1, .ok result) := Prod.ext rfl hadded
  refine ⟨item, index, result, Sample.read_item, hitem, Sample.read_reference, hindex, hperform, ?_⟩
  exact Check.perform_agrees Sample.read_item hitem Sample.read_reference hindex hperform nofun rfl
    rfl hindex

end Command

end FeedWatch
