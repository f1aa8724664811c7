import FeedWatch.Proofs.Registry.Failure
import FeedWatch.Proofs.Registry.Reload

/-!
# Filters that are refused

The text of a filter makes an operation on a registry fail for one reason alone: a number in it is
too long to be read.  Main statement: the queries that compile, the filters that can be added, and
the settings files that a registry can be opened on or read again from are told by the texts of the
filters, whatever the index, and what is refused is refused for the first number that is too long
(`refused_iff_firstTooLong`).  A number of 4301 digits is such a text (`refused_long_number`).
-/

namespace FeedWatch

/-- The first filter that does not compile has a number of `n` digits, more than can be read. -/
def FirstRefused (filters : List StoredFilter) (n : Nat) : Prop :=
  ∃ before f after, filters = before ++ f :: after ∧ (∀ g ∈ before, IsReadable g.name) ∧
    FirstTooLong f.name n

namespace Filter

variable {index : ReferenceIndex} {serial : Nat} {fs : List StoredFilter} {e : TooManyDigits}

/-- The numbers that filters get have no part in whether they compile. -/
lemma compileAll_eq_error : compileAll index serial fs = .error e ↔
    fs.mapM (fun f => Query.compile index f.name) = .error e := by
  induction fs generalizing serial with
  | nil => exact ⟨nofun, nofun⟩
  | cons f fs ih =>
    rw [compileAll, List.mapM_cons, Except.bind_eq_error, Except.bind_eq_error, compile_eq]
    simp only [Except.bind_pure_eq_error, Except.map_eq_error, Except.map_eq_ok, ih]
    refine or_congr_right ?_
    constructor
    · rintro ⟨_, ⟨query, hquery, -⟩, h⟩
      exact ⟨query, hquery, h⟩
    · rintro ⟨query, hquery, h⟩
      exact ⟨_, ⟨query, hquery, rfl⟩, h⟩

lemma compileAll_eq_error_iff :
    compileAll index serial fs = .error e ↔ FirstRefused fs e.digits := by
  rw [compileAll_eq_error, Except.mapM_eq_error_iff, FirstRefused]
  simp only [Query.exists_compile_iff, Query.compile_eq_error_iff]

end Filter

namespace Session

variable {s : Session} {store : Store} {index : ReferenceIndex} {disk : Disk} {serial : Nat}
variable {e : TooManyDigits}

/-- Writing fails for no text of a filter. -/
lemma save_ne_tooLong : s.save.2 ≠ .error (.tooLong e) := by
  intro h
  obtain ⟨-, e', he⟩ := save_error (Prod.ext rfl h)
  cases he

lemma add_eq_tooLong_iff {name : String} : (s.add name).2 = .error (.tooLong e) ↔
    s.registry.contains name = false ∧ Query.compile s.index name = .error e := by
  rw [add]
  cases s.registry.contains name with
  | true =>
    constructor
    · rintro ⟨⟩
    · rintro ⟨⟨⟩, -⟩
  | false =>
    rw [Filter.compile_eq, and_iff_right rfl]
    cases Query.compile s.index name with
    | error e' =>
      constructor
      · rintro ⟨⟩
        rfl
      · rintro ⟨⟩
        rfl
    | ok query =>
      constructor
      · intro h
        exact absurd (Except.map_eq_error.1 h) save_ne_tooLong
      · rintro ⟨⟩

lemma openOn_eq_tooLong_iff : (openOn store index disk serial).2 = .error (.tooLong e) ↔
    ∃ t, store.load disk = .ok t ∧ Filter.compileAll index serial t.filters = .error e := by
  rw [openOn]
  cases store.load disk with
  | error e' =>
    constructor
    · rintro ⟨⟩
    · rintro ⟨_, ⟨⟩, -⟩
  | ok t =>
    simp only [Except.ok.injEq, exists_eq_left']
    cases hfilters : Filter.compileAll index serial t.filters with
    | error e' =>
      simp only [Registry.ofSettings, hfilters]
      constructor
      · rintro ⟨⟩
        rfl
      · rintro ⟨⟩
        rfl
    | ok filters =>
      simp only [Registry.ofSettings, hfilters]
      constructor
      · intro h
        exact absurd (Except.map_eq_error.1 h) save_ne_tooLong
      · rintro ⟨⟩

lemma reload_eq_tooLong_iff : s.reload.2 = .error (.tooLong e) ↔
    ∃ t, s.store.load s.disk = .ok t ∧
      Filter.compileAll s.index s.nextSerial t.filters = .error e := by
  rw [reload]
  cases s.store.load s.disk with
  | error e' =>
    constructor
    · rintro ⟨⟩
    · rintro ⟨_, ⟨⟩, -⟩
  | ok t =>
    simp only [Except.ok.injEq, exists_eq_left']
    cases Filter.compileAll s.index s.nextSerial t.filters with
    | error e' =>
      constructor
      · rintro ⟨⟩
        rfl
      · rintro ⟨⟩
        rfl
    | ok filters =>
      constructor
      · rintro ⟨⟩
      · rintro ⟨⟩

end Session

/-- What is refused for the text of a filter.  A query compiles exactly when all its numbers can be
read, and is refused otherwise for the first that cannot.  A filter that is not there yet is refused
by `add` for the same number; opening a registry and reading its settings again are refused for the
first filter that does not compile. -/
theorem refused_iff_firstTooLong (index : ReferenceIndex) (source : String) (store : Store)
    (disk : Disk) (serial : Nat) (s : Session) (n : Nat) :
    ((∃ query, Query.compile index source = .ok query) ↔ IsReadable source) ∧
      (Query.compile index source = .error ⟨n⟩ ↔ FirstTooLong source n) ∧
      ((s.add source).2 = .error (.tooLong ⟨n⟩) ↔
        s.registry.contains source = false ∧ FirstTooLong source n) ∧
      ((Session.openOn store index disk serial).2 = .error (.tooLong ⟨n⟩) ↔
        ∃ t, store.load disk = .ok t ∧ FirstRefused t.filters n) ∧
      (s.reload.2 = .error (.tooLong ⟨n⟩) ↔
        ∃ t, s.store.load s.disk = .ok t ∧ FirstRefused t.filters n) := by
  refine ⟨Query.exists_compile_iff, Query.compile_eq_error_iff, ?_, ?_, ?_⟩
  · rw [Session.add_eq_tooLong_iff, Query.compile_eq_error_iff]
  · simp only [Session.openOn_eq_tooLong_iff, Filter.compileAll_eq_error_iff]
  · simp only [Session.reload_eq_tooLong_iff, Filter.compileAll_eq_error_iff]

/-- A number of 4301 digits: the query does not compile, a registry without filters refuses it as a
filter, and no registry can be opened on a settings file with this filter. -/
theorem refused_long_number :
    let name := String.ofList (List.replicate 4301 '1')
    let s := Session.besideFile ⟨true, [], "!", none⟩ (.withLong true "!")
    Query.compile .empty name = .error ⟨4301⟩ ∧ (s.add name).2 = .error (.tooLong ⟨4301⟩) ∧
      (Session.openOn s.store .empty s.disk 0).2 = .error (.tooLong ⟨4301⟩) := by
  intro name s
  have hlong : FirstTooLong name 4301 := firstTooLong_replicate (by decide)
  have hrefused : FirstRefused [⟨name, .null⟩] 4301 :=
    ⟨[], _, [], rfl, List.forall_mem_nil _, hlong⟩
  have hcompile : Query.compile .empty name = .error ⟨4301⟩ := Query.compile_eq_error_iff.2 hlong
  refine ⟨hcompile, Session.add_eq_tooLong_iff.2 ⟨rfl, hcompile⟩, ?_⟩
  refine Session.openOn_eq_tooLong_iff.2 ⟨_, Session.load_besideFile Settings.isPlain_withLong, ?_⟩
  exact Filter.compileAll_eq_error_iff.2 hrefused

end FeedWatch
