import FeedWatch.Proofs.Query.Meaning
import FeedWatch.Proofs.Registry.Change

/-!
# Registries without an index

The reference index decides which items a filter accepts, and nothing else: a registry can be
worked on with the empty index, and the file is the one that any other index would have led to.

A filter compiled with an index differs from the one compiled without in that its tests of a class
know the enchants of the class.  Forgetting them (`Session.bare`) turns every operation with an
index into the same operation without (`Operation.run_bare`).  Main statement: whatever is done with
a registry, its results, its errors and the disk after each step are those of any other index
(`Session.transcript_eq`).
-/

namespace FeedWatch

/-! ## Queries without an index -/

/-- Forgets the enchants of a class. -/
def Test.bare : Test → Test
  | classEnchant name _ c => enchant name c
  | t => t

def Clause.bare (c : Clause) : Clause := { c with test := c.test.bare }

def Query.bare (q : Query) : Query := { q with clauses := q.clauses.map Clause.bare }

lemma Test.bare_ofComparison (index : ReferenceIndex) (key : String) (c : Comparison) :
    (ofComparison index key c).bare = ofComparison .empty key c := by
  unfold ofComparison
  cases Attribute.ofName? key with
  | some a => rfl
  | none =>
    have hempty : ReferenceIndex.empty.hasClass key = false := rfl
    dsimp only
    rw [hempty]
    cases index.hasClass key with
    | true => rfl
    | false => rfl

lemma Test.bare_ofName (name : String) : (ofName name).bare = ofName name := by
  unfold ofName
  cases ItemType.ofName? name with
  | some t => rfl
  | none => rfl

lemma Test.compile_bare (index : ReferenceIndex) (text : List Char) :
    (compile index text).map bare = compile .empty text := by
  unfold compile
  split
  next => rfl
  next =>
    split
    next suffix _ =>
      cases signedInteger suffix.negative suffix.digits with
      | error e => rfl
      | ok target => exact congrArg Except.ok (bare_ofComparison index _ _)
    next => exact congrArg Except.ok (bare_ofName _)

lemma Clause.compile_bare (index : ReferenceIndex) (text : List Char) :
    (compile index text).map bare = compile .empty text := by
  rw [compile_eq, compile_eq, ← Test.compile_bare index]
  cases Test.compile index (readNegations text).2 with
  | error e => rfl
  | ok t => rfl

lemma Clause.mapM_compile_bare (index : ReferenceIndex) (texts : List (List Char)) :
    (texts.mapM (compile index)).map (List.map bare) = texts.mapM (compile .empty) := by
  induction texts with
  | nil => rfl
  | cons text texts ih =>
    rw [List.mapM_cons, List.mapM_cons, ← compile_bare index, ← ih]
    cases compile index text with
    | error e => rfl
    | ok c =>
      cases texts.mapM (compile index) with
      | error e => rfl
      | ok cs => rfl

/-- A query compiles with any index as it does without, but for the enchants of classes. -/
lemma Query.compile_bare (index : ReferenceIndex) (source : String) :
    (compile index source).map bare = compile .empty source := by
  unfold compile
  split_ifs
  · rfl
  · rw [← Clause.mapM_compile_bare index]
    cases ((Text.lower source).toList.splitOn ',').mapM (Clause.compile index) with
    | error e => rfl
    | ok clauses => rfl

/-! ## Registries without an index -/

def Filter.bare (f : Filter) : Filter := { f with query := f.query.bare }

def Registry.bare (r : Registry) : Registry := { r with filters := r.filters.map Filter.bare }

/-- The same session without an index. -/
def Session.bare (s : Session) : Session := { s with index := .empty, registry := s.registry.bare }

lemma Filter.compile_bare (index : ReferenceIndex) (serial : Nat) (f : StoredFilter) :
    (compile index serial f).map bare = compile .empty serial f := by
  unfold compile
  rw [← Query.compile_bare index]
  cases Query.compile index f.name with
  | error e => rfl
  | ok query => rfl

lemma Filter.compileAll_bare (index : ReferenceIndex) (serial : Nat) (fs : List StoredFilter) :
    (compileAll index serial fs).map (List.map bare) = compileAll .empty serial fs := by
  induction fs generalizing serial with
  | nil => rfl
  | cons f fs ih =>
    rw [compileAll, compileAll, ← compile_bare index, ← ih]
    cases compile index serial f with
    | error e => rfl
    | ok g =>
      cases compileAll index (serial + 1) fs with
      | error e => rfl
      | ok gs => rfl

namespace Registry

lemma current_bare (r : Registry) : r.bare.current = r.current := by
  simp only [current, bare, List.map_map]
  rfl

lemma contains_bare (r : Registry) (name : String) : r.bare.contains name = r.contains name :=
  List.any_map

lemma get?_bare (r : Registry) (name : String) : r.bare.get? name = (r.get? name).map Filter.bare :=
  List.find?_map

lemma ofSettings_bare (index : ReferenceIndex) (serial : Nat) (t : Settings) :
    (ofSettings index serial t).map bare = ofSettings .empty serial t := by
  unfold ofSettings
  rw [← Filter.compileAll_bare index]
  cases Filter.compileAll index serial t.filters with
  | error e => rfl
  | ok filters => rfl

end Registry

namespace Session

variable {α β : Type}

lemma save_bare (s : Session) : s.bare.save = (s.save).map bare id := by
  have hcurrent : s.bare.registry.current = s.registry.current := s.registry.current_bare
  unfold save
  rw [hcurrent]
  rfl

lemma saveAnd_bare (f : α → β) (s : Session) (a : α) :
    s.bare.saveAnd (f a) = (s.saveAnd a).map bare (Except.map f) := by
  unfold saveAnd
  rw [save_bare]
  cases s.save with
  | mk s' result =>
    cases result with
    | error e => rfl
    | ok u => rfl

lemma openOn_bare (store : Store) (index : ReferenceIndex) (disk : Disk) (serial : Nat) :
    openOn store .empty disk serial = (openOn store index disk serial).map id (Except.map bare) := by
  unfold openOn
  cases store.load disk with
  | error e => rfl
  | ok t =>
    dsimp only
    rw [← Registry.ofSettings_bare index]
    cases Registry.ofSettings index serial t with
    | error e => rfl
    | ok registry =>
      have hlength : registry.bare.filters.length = registry.filters.length := List.length_map _
      have hsave := save_bare
        { store, index, disk, registry, nextSerial := serial + registry.filters.length }
      simp only [Except.map, hlength]
      simp only [bare] at hsave
      rw [hsave]
      generalize save
        { store, index, disk, registry, nextSerial := serial + registry.filters.length } = outcome
      obtain ⟨s', result⟩ := outcome
      cases result with
      | error e => rfl
      | ok u => rfl

lemma load_bare (s : Session) : s.bare.load = (s.load).map bare id := by
  unfold load
  have hopen : openOn s.bare.store s.bare.index s.bare.disk s.bare.nextSerial =
      (openOn s.store s.index s.disk s.nextSerial).map id (Except.map bare) := openOn_bare ..
  rw [hopen]
  obtain ⟨disk, result⟩ := openOn s.store s.index s.disk s.nextSerial
  cases result with
  | error e => rfl
  | ok s' => rfl

lemma reload_bare (s : Session) : s.bare.reload = (s.reload).map bare id := by
  unfold reload
  have hload : s.bare.store.load s.bare.disk = s.store.load s.disk := rfl
  rw [hload]
  cases s.store.load s.disk with
  | error e => rfl
  | ok t =>
    have hfilters : Filter.compileAll s.bare.index s.bare.nextSerial t.filters =
        (Filter.compileAll s.index s.nextSerial t.filters).map (List.map Filter.bare) :=
      (Filter.compileAll_bare ..).symm
    dsimp only
    rw [hfilters]
    cases Filter.compileAll s.index s.nextSerial t.filters with
    | error e => rfl
    | ok filters =>
      simp only [Except.map, List.length_map]
      rfl

lemma change_bare (f : Settings → Settings) (s : Session) :
    s.bare.change f = (s.change f).map bare id := by
  unfold change
  exact save_bare { s with registry := { s.registry with settings := f s.registry.settings } }

lemma add_bare (name : String) (s : Session) :
    s.bare.add name = (s.add name).map bare (Except.map Filter.bare) := by
  unfold add
  have hcontains : s.bare.registry.contains name = s.registry.contains name :=
    s.registry.contains_bare name
  have hcompile : Filter.compile s.bare.index s.bare.nextSerial ⟨name, .null⟩ =
      (Filter.compile s.index s.nextSerial ⟨name, .null⟩).map Filter.bare :=
    (Filter.compile_bare ..).symm
  rw [hcontains, hcompile]
  cases s.registry.contains name with
  | true => rfl
  | false =>
    cases Filter.compile s.index s.nextSerial ⟨name, .null⟩ with
    | error e => rfl
    | ok f =>
      have hsave := saveAnd_bare Filter.bare { s with
        registry := { s.registry with filters := s.registry.filters ++ [f] }
        nextSerial := s.nextSerial + 1 } f
      simp only [bare, Registry.bare, List.map_append, List.map_singleton] at hsave
      exact hsave

lemma remove_bare (name : String) (s : Session) :
    s.bare.remove name = (s.remove name).map bare id := by
  unfold remove
  have hkept : s.bare.registry.filters.filter (·.name != name) =
      (s.registry.filters.filter (·.name != name)).map Filter.bare := List.filter_map
  have hlength : s.bare.registry.filters.length = s.registry.filters.length := List.length_map _
  simp only [hkept, hlength, List.length_map]
  have hsave := saveAnd_bare id { s with registry := { s.registry with
    filters := s.registry.filters.filter (·.name != name) } }
    (s.registry.filters.length - (s.registry.filters.filter (·.name != name)).length)
  rw [Except.map_id] at hsave
  exact hsave

lemma alertFirst_bare (name : String) (alert : Json) (fs : List Filter) :
    alertFirst name alert (fs.map Filter.bare) = (alertFirst name alert fs).map Filter.bare := by
  induction fs with
  | nil => rfl
  | cons f fs ih =>
    have hname : f.bare.name = f.name := rfl
    rw [List.map_cons, alertFirst, alertFirst, hname, ih]
    split_ifs
    · rfl
    · rfl

lemma setAlert_bare (name : String) (text : Option String) (s : Session) :
    s.bare.setAlert name text = (s.setAlert name text).map bare (Except.map Filter.bare) := by
  have hget : s.bare.registry.get? name = (s.registry.get? name).map Filter.bare :=
    s.registry.get?_bare name
  rw [Change.setAlert_eq, Change.setAlert_eq, hget]
  cases s.registry.get? name with
  | none => rfl
  | some f =>
    have hsave := saveAnd_bare Filter.bare { s with registry := { s.registry with
      filters := alertFirst name (StoredFilter.alertOf text) s.registry.filters } }
      { f with alert := StoredFilter.alertOf text }
    simp only [bare, Registry.bare, ← alertFirst_bare] at hsave
    exact hsave

lemma enable_bare (s : Session) : s.bare.enable = (s.enable).map bare id := by
  unfold enable
  have hwebhook : s.bare.registry.settings.webhook = s.registry.settings.webhook := rfl
  rw [hwebhook]
  split_ifs
  · rfl
  · exact change_bare _ s

end Session

/-! ## Everything that is done with a registry -/

/-- What is done with a registry. -/
inductive Operation
  | load
  | reload
  | add (name : String)
  | remove (name : String)
  | get (name : String)
  | setAlert (name : String) (text : Option String)
  | setGlobalAlert (text : String)
  | setWebhook (w : Webhook)
  | enable
  | disable
  | page (number : Int)
  | contains (name : String)
  | length

/-- What is seen of a filter: its name, its alert and the number of its clauses. -/
structure Filter.Outline where
  name : String
  alert : Json
  clauses : Nat

/-- What is seen of a filter. -/
def Filter.outline (f : Filter) : Outline := ⟨f.name, f.alert, f.query.clauses.length⟩

/-- What an operation answers. -/
inductive Answer
  | done
  | filter (f : Filter.Outline)
  | removed (count : Nat)
  | page (number : Int) (totalPages : Nat) (filters : List Filter.Outline)
  | contained (isThere : Bool)
  | length (count : Nat)

/-- Carries an operation out. -/
def Operation.run (s : Session) : Operation → Session.Outcome Answer
  | load => s.load.map id (·.map fun _ => .done)
  | reload => s.reload.map id (·.map fun _ => .done)
  | add name => (s.add name).map id (·.map fun f => .filter f.outline)
  | remove name => (s.remove name).map id (·.map .removed)
  | get name => (s, (s.get name).map fun f => .filter f.outline)
  | setAlert name text => (s.setAlert name text).map id (·.map fun f => .filter f.outline)
  | setGlobalAlert text => (s.setGlobalAlert text).map id (·.map fun _ => .done)
  | setWebhook w => (s.setWebhook w).map id (·.map fun _ => .done)
  | enable => s.enable.map id (·.map fun _ => .done)
  | disable => s.disable.map id (·.map fun _ => .done)
  | page number =>
    let p := s.registry.page number
    (s, .ok (.page p.page p.totalPages (p.filters.map Filter.outline)))
  | contains name => (s, .ok (.contained (s.registry.contains name)))
  | length => (s, .ok (.length s.registry.filters.length))

lemma Filter.outline_bare (f : Filter) : f.bare.outline = f.outline := by
  simp only [outline, bare, Query.bare, List.length_map]

lemma Filter.map_outline_bare (fs : List Filter) :
    (fs.map bare).map outline = fs.map outline := by
  rw [List.map_map]
  exact List.map_congr_left fun f _ => f.outline_bare

lemma Session.get_bare (name : String) (s : Session) :
    s.bare.get name = (s.get name).map Filter.bare := by
  have hget : s.bare.registry.get? name = (s.registry.get? name).map Filter.bare :=
    s.registry.get?_bare name
  unfold get
  rw [hget]
  cases s.registry.get? name with
  | none => rfl
  | some f => rfl

lemma Registry.page_bare (r : Registry) (number : Int) :
    r.bare.page number =
      { r.page number with filters := (r.page number).filters.map Filter.bare } := by
  simp only [page, bare, List.length_map, List.map_drop, List.map_take]

/-- What is answered with a filter is the same for the filter without an index. -/
lemma Answer.filter_bare (result : Except RegistryError Filter) :
    (result.map Filter.bare).map (fun f => Answer.filter f.outline) =
      result.map fun f => .filter f.outline := by
  cases result with
  | error e => rfl
  | ok f => exact congrArg (fun o => Except.ok (Answer.filter o)) f.outline_bare

namespace Operation

/-- An operation does without an index what it does with one. -/
lemma run_bare (op : Operation) (s : Session) :
    op.run s.bare = (op.run s).map Session.bare id := by
  cases op with
  | load =>
    rw [run, run, Session.load_bare]
    rfl
  | reload =>
    rw [run, run, Session.reload_bare]
    rfl
  | add name =>
    rw [run, run, Session.add_bare]
    exact Prod.ext rfl (Answer.filter_bare _)
  | remove name =>
    rw [run, run, Session.remove_bare]
    rfl
  | get name =>
    rw [run, run, Session.get_bare]
    exact Prod.ext rfl (Answer.filter_bare _)
  | setAlert name text =>
    rw [run, run, Session.setAlert_bare]
    exact Prod.ext rfl (Answer.filter_bare _)
  | setGlobalAlert text =>
    rw [run, run, Session.setGlobalAlert, Session.change_bare]
    rfl
  | setWebhook w =>
    rw [run, run, Session.setWebhook, Session.change_bare]
    rfl
  | enable =>
    rw [run, run, Session.enable_bare]
    rfl
  | disable =>
    rw [run, run, Session.disable, Session.change_bare]
    rfl
  | page number =>
    have hpage : s.bare.registry.page number =
        { s.registry.page number with
          filters := (s.registry.page number).filters.map Filter.bare } :=
      s.registry.page_bare number
    rw [run, run, hpage]
    simp only [Filter.map_outline_bare]
    rfl
  | contains name =>
    have hcontains : s.bare.registry.contains name = s.registry.contains name :=
      s.registry.contains_bare name
    rw [run, run, hcontains]
    rfl
  | length =>
    have hlength : s.bare.registry.filters.length = s.registry.filters.length := List.length_map _
    rw [run, run, hlength]
    rfl

end Operation

namespace Session

/-- What operations answer one after the other, each with the disk that it leaves. -/
def answers (s : Session) : List Operation → List (Except RegistryError Answer × Disk)
  | [] => []
  | op :: ops =>
    let (s, answer) := op.run s
    (answer, s.disk) :: s.answers ops

/-- What is seen from outside of a registry that is opened and worked with: the answers and errors,
and the disk after each step. -/
def transcript (store : Store) (index : ReferenceIndex) (disk : Disk) (serial : Nat)
    (ops : List Operation) : List (Except RegistryError Answer × Disk) :=
  match openOn store index disk serial with
  | (disk, .error e) => [(.error e, disk)]
  | (disk, .ok s) => (.ok .done, disk) :: s.answers ops

lemma answers_bare (ops : List Operation) (s : Session) : s.bare.answers ops = s.answers ops := by
  induction ops generalizing s with
  | nil => rfl
  | cons op ops ih =>
    rw [answers, answers, Operation.run_bare]
    exact congrArg _ (ih _)

/-- Whatever is opened and done is seen as it is without an index. -/
lemma transcript_bare (store : Store) (index : ReferenceIndex) (disk : Disk) (serial : Nat)
    (ops : List Operation) :
    transcript store index disk serial ops = transcript store .empty disk serial ops := by
  rw [transcript, transcript, openOn_bare store index]
  obtain ⟨disk', result⟩ := openOn store index disk serial
  cases result with
  | error e => rfl
  | ok s => exact congrArg _ (answers_bare ops s).symm

/-- Whatever settings file there is and whatever is done with a registry on it, the results, the
errors and the disk after each step do not depend on the index. -/
theorem transcript_eq (store : Store) (index index' : ReferenceIndex) (disk : Disk) (serial : Nat)
    (ops : List Operation) :
    transcript store index disk serial ops = transcript store index' disk serial ops := by
  rw [transcript_bare, transcript_bare store index']

end Session

end FeedWatch
