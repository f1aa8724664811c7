import FeedWatch.Proofs.Engine.Runs
import FeedWatch.Proofs.Registry.Reload
import FeedWatch.Proofs.Registry.Sync
import FeedWatch.Proofs.Watcher.Books

/-!
# The watcher and the settings file

A watcher that has been started looks at the settings file from time to time, while others change
it.  Nothing is locked: the stamp of the file is taken first and the file is read after that, and
others may come in between.  What is recorded is the stamp that was taken, so what they do then is
found at the next look.

Main statement: the watcher never touches the disk, and after a look at a file that is there, in
which reading it did not fail, the registry is what the file is loaded as, and alerts go to its
webhook if the file was taken over (`Watched.agree`).  It rests on what others can do to a file
whose stamps never come back (`Store.Edit`), on the books of the engine, which only a look changes,
and on what a look does (`takeOver_cases`).
-/

namespace FeedWatch

open Relation

/-! ## Others -/

/-- What others do to the settings file, when the stamps that it had are known: they leave it as it
was, take it away, or give it a stamp that it never had. -/
inductive Store.Edit (store : Store) : List Nat × Disk → List Nat × Disk → Prop
  | elsewhere {seen : List Nat} {d d' : Disk} :
    store.stamp? d' = store.stamp? d →
    store.load d' = store.load d →
    Edit store (seen, d) (seen, d')
  | remove {seen : List Nat} {d d' : Disk} :
    store.stamp? d' = none →
    Edit store (seen, d) (seen, d')
  | write {seen : List Nat} {d d' : Disk} {n : Nat} :
    store.stamp? d' = some n →
    n ∉ seen →
    Edit store (seen, d) (n :: seen, d')

variable {store : Store} {seen seen' : List Nat} {d d' : Disk}

/-- A file with a stamp that it had before is the file of before. -/
lemma Store.Edit.back (h : ReflTransGen store.Edit (seen, d) (seen', d')) :
    seen ⊆ seen' ∧ ∀ n ∈ seen, store.stamp? d' = some n →
      store.stamp? d = some n ∧ store.load d' = store.load d := by
  generalize hx : (seen', d') = x at h
  induction h generalizing seen' d' with
  | refl =>
    cases hx
    exact ⟨fun _ => id, fun n _ hn => ⟨hn, rfl⟩⟩
  | @tail y _ _ hedit ih =>
    subst hx
    obtain ⟨seen₁, d₁⟩ := y
    obtain ⟨hsub, hback⟩ := ih rfl
    cases hedit with
    | elsewhere hstamp hload =>
      refine ⟨hsub, fun n hn h => ?_⟩
      obtain ⟨hstamp', hload'⟩ := hback n hn (hstamp ▸ h)
      exact ⟨hstamp', hload.trans hload'⟩
    | remove hnone =>
      refine ⟨hsub, fun n _ h => ?_⟩
      rw [hnone] at h
      cases h
    | write hwrite hfresh =>
      refine ⟨fun n hn => List.mem_cons_of_mem _ (hsub hn), fun n hn h => ?_⟩
      cases hwrite.symm.trans h
      exact absurd (hsub hn) hfresh

lemma Store.Edit.mem (h : ReflTransGen store.Edit (seen, d) (seen', d'))
    (hseen : ∀ n, store.stamp? d = some n → n ∈ seen) (n : Nat) (hn : store.stamp? d' = some n) :
    n ∈ seen' := by
  generalize hx : (seen', d') = x at h
  induction h generalizing seen' d' with
  | refl =>
    cases hx
    exact hseen n hn
  | @tail y _ _ hedit ih =>
    subst hx
    obtain ⟨seen₁, d₁⟩ := y
    cases hedit with
    | elsewhere hstamp hload => exact ih (hstamp ▸ hn) rfl
    | remove hnone =>
      rw [hnone] at hn
      cases hn
    | write hwrite hfresh =>
      cases hwrite.symm.trans hn
      exact List.mem_cons_self

/-! ## Looks at the file -/

namespace Engine

/-- Takes the settings file over at the newest station if it had a new stamp; whether it was taken
over. -/
def takeOver (stamp : Option Nat) (e : Engine) : Engine × Bool :=
  match e.newest?, e.stations.getLast? with
  | some k, some s =>
    if stamp.isNone || stamp == e.stamp then (e, false)
    else
      match (e.session s).reload with
      | (session, .error _) => (e.keep k session, false)
      | (session, .ok ()) =>
        ({ e.keep k session with stamp }.setWebhookUrl k (webhookUrl session.registry), true)
  | _, _ => (e, false)

/-- A look at the settings file, while others bring the disk to another state after the stamp was
taken and before the file is read. -/
def refreshAmid (disk : Disk) (e : Engine) : Engine × Bool :=
  takeOver (e.store.stamp? e.disk) { e with disk }

/-- A look at the settings file that nobody disturbs. -/
lemma refreshAmid_self (e : Engine) : e.refreshAmid e.disk = e.refresh := rfl

variable {e e' : Engine} {s : Station} {stamp : Option Nat}

/-- A look finds no new stamp, or the file is read and taken over, or reading it fails. -/
lemma takeOver_cases (hlast : e.stations.getLast? = some s) (stamp : Option Nat) :
    (e.takeOver stamp = (e, false) ∧ (stamp = none ∨ stamp = e.stamp)) ∨
      (stamp ≠ none ∧ stamp ≠ e.stamp) ∧
        ((∃ t err, (e.session s).reload = (t, .error err) ∧
          e.takeOver stamp = (e.keep (e.stations.length - 1) t, false)) ∨
        ∃ t, (e.session s).reload = (t, .ok ()) ∧
          e.takeOver stamp = ({ e.keep (e.stations.length - 1) t with stamp }.setWebhookUrl
            (e.stations.length - 1) (webhookUrl t.registry), true)) := by
  have hnewest := newest?_of_getLast? hlast
  simp only [takeOver, hnewest, hlast]
  split
  next hold => exact .inl ⟨rfl, by simpa using hold⟩
  next hnew =>
    simp only [Bool.or_eq_true, Option.isNone_iff_eq_none, beq_iff_eq, not_or] at hnew
    refine .inr ⟨hnew, ?_⟩
    split
    next t err hreload => exact .inl ⟨t, err, hreload, rfl⟩
    next t hreload => exact .inr ⟨t, hreload, rfl⟩

/-- Reading the settings again leaves the disk. -/
lemma disk_reload (s : Session) : s.reload.1.disk = s.disk := by
  rw [Session.reload]
  split
  · rfl
  · split
    · rfl
    · rfl

/-- A look leaves the disk. -/
lemma disk_takeOver (stamp : Option Nat) (e : Engine) :
    (e.takeOver stamp).1.disk = e.disk ∧ (e.takeOver stamp).1.store = e.store := by
  cases hlast : e.stations.getLast? with
  | none =>
    rw [takeOver, hlast]
    split
    next hs => cases hs
    next => exact ⟨rfl, rfl⟩
  | some s =>
    have hdisk := disk_reload (e.session s)
    obtain ⟨h, -⟩ | ⟨-, ⟨t, err, hreload, h⟩ | ⟨t, hreload, h⟩⟩ := takeOver_cases hlast stamp
    · rw [h]
      exact ⟨rfl, rfl⟩
    · rw [h]
      rw [hreload] at hdisk
      exact ⟨hdisk, rfl⟩
    · rw [h]
      rw [hreload] at hdisk
      exact ⟨hdisk, rfl⟩

lemma desks_setWebhookUrl (url : Option String) (hlast : e.stations.getLast? = some s) :
    ∃ s', (e.setWebhookUrl (e.stations.length - 1) url).stations.getLast? = some s' ∧
      s'.registry = s.registry ∧
      ∀ d, s.pipeline.sink = .webhook d → s'.pipeline.sink = .webhook { d with url } := by
  rw [List.getLast?_eq_getElem?] at hlast ⊢
  simp only [setWebhookUrl, alterStation, List.length_modify, List.getElem?_modify_eq, hlast]
  refine ⟨_, rfl, ?_, fun d hd => ?_⟩
  · cases hsink : s.pipeline.sink with
    | webhook d => simp only [hsink]
    | scripted _ => simp only [hsink]
  · simp only [hd]

end Engine

/-! ## In step with the file -/

/-- The stamp of the file, if it is there. -/
def Books.found (b : Books) : List Nat := (b.store.stamp? b.disk).toList

/-- The stamps of the file and of the last look are among those that the file had, the newest
station posts to a webhook, and its registry is what the file is loaded as if the file has the stamp
of the last look. -/
structure Books.InStep (seen : List Nat) (b : Books) : Prop where
  file : ∀ n, b.store.stamp? b.disk = some n → n ∈ seen
  known : ∀ n, b.stamp = some n → n ∈ seen
  desk : ∃ k, b.desks.getLast? = some k ∧ k.address ≠ none ∧
    ∀ n, b.store.stamp? b.disk = some n → b.stamp = some n →
      b.store.load b.disk = .ok k.registry.current

/-- What others do leaves the books in step. -/
lemma Books.InStep.edit {b : Books} {disk : Disk} (h : b.InStep seen)
    (hedits : ReflTransGen b.store.Edit (seen, b.disk) (seen', disk)) :
    InStep seen' { b with disk } := by
  obtain ⟨hsub, hback⟩ := Store.Edit.back hedits
  obtain ⟨k, hk, haddress, hload⟩ := h.desk
  refine ⟨Store.Edit.mem hedits h.file, fun n hn => hsub (h.known n hn), k, hk, haddress, ?_⟩
  intro n hn hstamp
  obtain ⟨hn', heq⟩ := hback n (h.known n hstamp) hn
  exact heq.trans (hload n hn' hstamp)

namespace Engine

variable {e e' : Engine} {s : Station}

/-- The newest station of books in step. -/
lemma station_of_inStep (h : e.books.InStep seen) : ∃ s d, e.stations.getLast? = some s ∧
    s.pipeline.sink = .webhook d ∧ ∀ n, e.store.stamp? e.disk = some n → e.stamp = some n →
      e.store.load e.disk = .ok s.registry.current := by
  obtain ⟨k, hk, haddress, hload⟩ := h.desk
  rw [books, List.getLast?_map] at hk
  obtain ⟨s, hs, rfl⟩ := Option.map_eq_some_iff.1 hk
  cases hsink : s.pipeline.sink with
  | scripted _ =>
    rw [Station.desk, hsink] at haddress
    exact absurd rfl haddress
  | webhook d => exact ⟨s, d, hs, hsink, hload⟩

lemma inStep_of_station {d : Delivery} (hfile : ∀ n, e.store.stamp? e.disk = some n → n ∈ seen)
    (hknown : ∀ n, e.stamp = some n → n ∈ seen) (hs : e.stations.getLast? = some s)
    (hsink : s.pipeline.sink = .webhook d)
    (hload : ∀ n, e.store.stamp? e.disk = some n → e.stamp = some n →
      e.store.load e.disk = .ok s.registry.current) : e.books.InStep seen := by
  refine ⟨hfile, hknown, s.desk, ?_, ?_, hload⟩
  · rw [books, List.getLast?_map, hs]
    rfl
  · rw [Station.desk, hsink]
    rintro ⟨⟩

/-- Books are in step when the file was just read. -/
lemma inStep_of_read {d : Delivery} (hs : e.stations.getLast? = some s)
    (hsink : s.pipeline.sink = .webhook d) (hload : e.store.load e.disk = .ok s.registry.current)
    (hstamp : e.stamp = e.store.stamp? e.disk) : e.books.InStep e.books.found := by
  refine inStep_of_station (fun n hn => Option.mem_toList.2 hn) (fun n hn => ?_) hs hsink
    fun _ _ _ => hload
  exact Option.mem_toList.2 (hstamp ▸ hn)

/-- A look, in whose midst others come, leaves the books in step. -/
lemma inStep_refreshAmid {disk : Disk} (h : e.books.InStep seen)
    (hedits : ReflTransGen e.store.Edit (seen, e.disk) (seen', disk)) :
    (e.refreshAmid disk).1.books.InStep seen' := by
  have hedited : books { e with disk } |>.InStep seen' := h.edit hedits
  obtain ⟨hsub, hback⟩ := Store.Edit.back hedits
  obtain ⟨s, d, hlast, hsink, hload⟩ := station_of_inStep hedited
  rw [refreshAmid]
  obtain ⟨hlook, -⟩ | ⟨⟨-, hnew⟩, ⟨t, err, hreload, hlook⟩ | ⟨t, hreload, hlook⟩⟩ :=
    takeOver_cases hlast (e.store.stamp? e.disk)
  · rw [hlook]
    exact hedited
  · -- the stamp of the last look is not that of the file, which never has it again
    have hdisk : t.disk = disk := by
      rw [← congrArg (·.1.disk) hreload]
      exact disk_reload _
    subst hdisk
    rw [hlook]
    refine inStep_of_station hedited.file hedited.known (getLast?_keep t hlast) hsink ?_
    intro n hn hstamp
    have hstamp' : e.stamp = some n := hstamp
    exact absurd ((hback n (h.known n hstamp') hn).1.trans hstamp'.symm) hnew
  · obtain ⟨hcurrent, -, -, -, hdisk⟩ := Life.reload_ok hreload
    dsimp only [session] at hcurrent hdisk
    subst hdisk
    obtain ⟨s', hs', hregistry, hsink'⟩ := desks_setWebhookUrl (webhookUrl t.registry)
      (e := { keep (e.stations.length - 1) t { e with disk := t.disk } with
        stamp := e.store.stamp? e.disk }) (getLast?_keep t hlast)
    rw [hlook]
    refine inStep_of_station hedited.file (fun n hn => hsub (h.file n hn)) ?_ (hsink' d hsink) ?_
    · simpa [keep, alterStation] using hs'
    · intro n _ _
      rw [hregistry]
      exact hcurrent

/-! ## Runs -/

/-- What the watcher does, and what happens to it from outside but for the disk: any call is made,
at any time, the schedule is another one, a task waits, the watcher is stopped or closes its
clients, and the feed and the network change. -/
inductive Own (e : Engine) : Engine → Prop
  | call (c : Call) : Own e (e.make c)
  | plan (schedule : Schedule) : Own e { e with schedule }
  | rest (i : TaskId) (work : Work) (delay : Binary64) : Own e (e.awaitTime i work delay)
  | sleep (delay : Binary64) : Own e { e.awaitTime outside .outside delay with isAwake := false }
  | stop : Own e ({ e with failure := none }.stopWatching)
  | closeClients : Own e (Watcher.closeClients e)
  | arrive (a : Arrival) : Own e (e.arrive a)
  | world (feed : Feed) (network : Http.Network) : Own e { e with feed, network }

/-- A run of a watcher that has been started, while others write the settings file; the stamps are
those that the file had meanwhile.  A look may be disturbed by others. -/
inductive Watched (e₀ : Engine) : List Nat → Engine → Prop
  | start : Watched e₀ e₀.books.found e₀
  | own {seen : List Nat} {e e' : Engine} :
    Watched e₀ seen e →
    Own e e' →
    Watched e₀ seen e'
  | edit {seen seen' : List Nat} {e : Engine} {disk : Disk} :
    Watched e₀ seen e →
    e.store.Edit (seen, e.disk) (seen', disk) →
    Watched e₀ seen' { e with disk }
  | look {seen seen' : List Nat} {e : Engine} {disk : Disk} :
    Watched e₀ seen e →
    ReflTransGen e.store.Edit (seen, e.disk) (seen', disk) →
    Watched e₀ seen' (e.refreshAmid disk).1

lemma Own.books (h : Own e e') : e'.books = e.books ∨ e'.books = e.refresh.1.books := by
  cases h with
  | call c => exact books_make c e
  | rest i work delay => exact .inl (books_awaitTime i work delay e)
  | sleep delay => exact .inl (books_awaitTime outside .outside delay e)
  | stop =>
    left
    rw [books_stopWatching]
    rfl
  | closeClients => exact .inl (books_closeClients e)
  | _ => exact .inl rfl

/-- The watcher never touches the disk. -/
lemma Own.disk (h : Own e e') : e'.disk = e.disk ∧ e'.store = e.store := by
  obtain hbooks | hbooks := h.books
  · exact ⟨congrArg Books.disk hbooks, congrArg Books.store hbooks⟩
  · obtain ⟨hdisk, hstore⟩ := disk_takeOver (e.store.stamp? e.disk) e
    exact ⟨(congrArg Books.disk hbooks).trans hdisk, (congrArg Books.store hbooks).trans hstore⟩

/-- Whatever happens leaves the books in step. -/
lemma Watched.inStep {e₀ : Engine} (hstart : e₀.books.InStep e₀.books.found)
    (h : Watched e₀ seen e) : e.books.InStep seen := by
  induction h with
  | start => exact hstart
  | own _ hown ih =>
    obtain hbooks | hbooks := hown.books
    · rw [hbooks]
      exact ih
    · rw [hbooks]
      exact inStep_refreshAmid ih .refl
  | edit _ hedit ih => exact ih.edit (.single hedit)
  | look _ hedits ih => exact inStep_refreshAmid ih hedits

end Engine

/-! ## The start -/

namespace Watcher

variable {w w' : Watcher} {index : ReferenceIndex}

lemma disk_scheduled {e e' : Engine} (h : ReflTransGen Engine.Scheduled e e') :
    e'.disk = e.disk ∧ e'.store = e.store := by
  induction h with
  | refl => exact ⟨rfl, rfl⟩
  | tail _ hstep ih =>
    obtain ⟨c, schedule, rfl⟩ := hstep.eq_make
    obtain ⟨hdisk, hstore⟩ := ih
    obtain ⟨hdisk', hstore'⟩ := Engine.Own.disk (.call c)
    exact ⟨hdisk'.trans hdisk, hstore'.trans hstore⟩

lemma disk_fetchIndex (w : Watcher) : w.fetchIndex.1.engine.disk = w.engine.disk ∧
    w.fetchIndex.1.engine.store = w.engine.store := by
  rw [fetchIndex]
  dsimp only
  split_ifs
  · exact ⟨rfl, rfl⟩
  · obtain ⟨hdisk, hstore⟩ := disk_scheduled (Engine.scheduled_run _)
    obtain ⟨hdisk', hstore'⟩ := Engine.Own.disk (.sleep _)
    exact ⟨hdisk.trans hdisk', hstore.trans hstore'⟩

/-- A watcher that has just been started is in step. -/
lemma inStep_startWith (hplain : ∀ t, w.engine.store.load w.engine.disk = .ok t → t.IsPlain)
    (h : w.startWith index = (w', .ok ())) :
    w'.engine.books.InStep w'.engine.books.found := by
  obtain ⟨disk, session, hopen, hstart⟩ | ⟨disk, failure, hstart⟩ := startWith_cases index w
  · cases hstart.symm.trans h
    have hsound := Life.sound_of_openOn hplain hopen
    have hload := hsound.holds.load
    set p := Pipeline.start w.setup.pages (.service w.setup.playerTemplate false)
      (.webhook (.ofUrl (Engine.webhookUrl session.registry))) w.engine.network
    have hlast : (w.engine.addStation session p).stations.getLast? =
        some ⟨session.index, session.registry, p, .initial⟩ := List.getLast?_concat ..
    have hbooks := Engine.books_startListener w.engine.stations.length
      { w.engine.addStation session p with stamp := w.engine.store.stamp? session.disk }
    have hinStep : Books.InStep _ (Engine.books
        { w.engine.addStation session p with stamp := w.engine.store.stamp? session.disk }) :=
      Engine.inStep_of_read hlast rfl hload rfl
    rw [← hbooks] at hinStep
    exact hinStep
  · cases hstart.symm.trans h

lemma inStep_start {index : Option ReferenceIndex}
    (hplain : ∀ t, w.engine.store.load w.engine.disk = .ok t → t.IsPlain)
    (h : w.start index = (w', .ok ())) : w'.engine.books.InStep w'.engine.books.found := by
  cases index with
  | some index => exact inStep_startWith hplain h
  | none =>
    obtain ⟨hdisk, hstore⟩ := disk_fetchIndex w
    rw [start] at h
    split at h
    next => cases h
    next v index hfetch =>
      rw [hfetch] at hdisk hstore
      rw [← hdisk, ← hstore] at hplain
      exact inStep_startWith hplain h

end Watcher

/-! ## Agreement -/

namespace Engine

/-- The registry of the newest station is what the settings file on a disk is loaded as. -/
def AgreesWith (e : Engine) (disk : Disk) : Prop :=
  ∃ s, e.stations.getLast? = some s ∧ e.store.load disk = .ok s.registry.current

/-- The newest station posts to the webhook of its settings. -/
def PostsToWebhook (e : Engine) : Prop :=
  ∃ s d, e.stations.getLast? = some s ∧ s.pipeline.sink = .webhook d ∧
    d.url = s.registry.settings.webhook.map Webhook.url

/-- A look finds a new stamp, and reading the file on the disk fails. -/
def FailsOn (e : Engine) (disk : Disk) : Prop :=
  (e.store.stamp? e.disk ≠ none ∧ e.store.stamp? e.disk ≠ e.stamp) ∧
    ∃ s t err, e.stations.getLast? = some s ∧ (session s { e with disk }).reload = (t, .error err)

variable {e e' : Engine}

/-- What a look leads to in books in step. -/
lemma agree_refreshAmid {disk : Disk} {taken : Bool} (h : e.books.InStep seen)
    (hlook : e.refreshAmid disk = (e', taken)) :
    (taken = true → e'.AgreesWith disk ∧ e'.PostsToWebhook) ∧
      (taken = false → e.store.stamp? e.disk ≠ none → ¬ e.FailsOn disk → e'.AgreesWith e.disk) := by
  obtain ⟨s, d, hlast, hsink, hload⟩ := station_of_inStep h
  obtain ⟨hlook', hold⟩ | ⟨hnew, ⟨t, err, hreload, hlook'⟩ | ⟨t, hreload, hlook'⟩⟩ :=
    takeOver_cases (e := { e with disk }) hlast (e.store.stamp? e.disk)
  · -- the stamp is that of the last look
    cases hlook'.symm.trans hlook
    refine ⟨by rintro ⟨⟩, fun _ hsome _ => ⟨s, hlast, ?_⟩⟩
    obtain ⟨n, hn⟩ := Option.ne_none_iff_exists'.1 hsome
    exact hload n hn ((hold.resolve_left hsome).symm.trans hn)
  · cases hlook'.symm.trans hlook
    exact ⟨by rintro ⟨⟩, fun _ _ hfails => absurd ⟨hnew, s, t, err, hlast, hreload⟩ hfails⟩
  · cases hlook'.symm.trans hlook
    obtain ⟨hcurrent, -⟩ := Life.reload_ok hreload
    obtain ⟨s', hs', hregistry, hsink'⟩ := desks_setWebhookUrl (webhookUrl t.registry)
      (e := { keep (e.stations.length - 1) t { e with disk } with
        stamp := e.store.stamp? e.disk }) (getLast?_keep t hlast)
    have hlast' : (setWebhookUrl (e.stations.length - 1) (webhookUrl t.registry)
        { keep (e.stations.length - 1) t { e with disk } with
          stamp := e.store.stamp? e.disk }).stations.getLast? = some s' := by
      simpa [keep, alterStation] using hs'
    refine ⟨fun _ => ⟨⟨s', hlast', ?_⟩, s', _, hlast', hsink' d hsink, ?_⟩, by rintro ⟨⟩⟩
    · rw [hregistry]
      exact hcurrent
    · rw [hregistry]
      rfl

/-- After a watcher was started, it never touches the disk, whatever happens.  Others may write the
settings file at any time, always with stamps that it never had.  After a look at a file that is
there, in which reading it did not fail, the registry is what the file is loaded as, and if the file
was taken over, alerts go to the webhook of its settings.  The same holds when others write in the
midst of a look: a file that is taken over is the one of the moment at which it is read, and one
that is not is that of the moment at which the stamp was taken. -/
theorem Watched.registry_agrees {w w' : Watcher} {index : Option ReferenceIndex}
    (hplain : ∀ t, w.engine.store.load w.engine.disk = .ok t → t.IsPlain)
    (hstart : w.start index = (w', .ok ())) (hrun : Watched w'.engine seen e) :
    (∀ e', Own e e' → e'.disk = e.disk) ∧
      (∀ e' taken, e.refresh = (e', taken) → e'.disk = e.disk ∧
        (e.store.stamp? e.disk ≠ none → ¬ e.FailsOn e.disk →
          e'.AgreesWith e'.disk ∧ (taken = true → e'.PostsToWebhook))) ∧
      ∀ disk e' taken, e.refreshAmid disk = (e', taken) → e'.disk = disk ∧
        (taken = true → e'.AgreesWith disk ∧ e'.PostsToWebhook) ∧
        (taken = false → e.store.stamp? e.disk ≠ none → ¬ e.FailsOn disk →
          e'.AgreesWith e.disk) := by
  have hinStep := hrun.inStep (Watcher.inStep_start hplain hstart)
  have hdisk : ∀ disk e' taken, e.refreshAmid disk = (e', taken) → e'.disk = disk := by
    intro disk e' taken hlook
    rw [← congrArg (·.1.disk) hlook]
    exact (disk_takeOver _ _).1
  refine ⟨fun e' hown => hown.disk.1, fun e' taken hlook => ?_, fun disk e' taken hlook => ?_⟩
  · rw [← refreshAmid_self] at hlook
    have hsame := hdisk _ _ _ hlook
    refine ⟨hsame, fun hthere hfails => ?_⟩
    obtain ⟨htaken, hleft⟩ := agree_refreshAmid hinStep hlook
    rw [hsame]
    cases taken with
    | true => exact ⟨(htaken rfl).1, fun _ => (htaken rfl).2⟩
    | false => exact ⟨hleft rfl hthere hfails, nofun⟩
  · exact ⟨hdisk _ _ _ hlook, agree_refreshAmid hinStep hlook⟩

/-- Settings that others write are loaded, and the file has a new stamp. -/
lemma load_putFile {place : Path} {d : Disk} {t : Settings} (hset : d.Settled store.path place)
    (ht : t.IsPlain) : store.load (d.putFile place (Store.fileContent t)) = .ok t ∧
      store.stamp? (d.putFile place (Store.fileContent t)) = some (d.lastStamp + 1) := by
  have hset' : (d.putFile place (Store.fileContent t)).Settled store.path place :=
    hset.mono .putFile
  have hat : (d.putFile place (Store.fileContent t)).at? place =
      some (.file (Store.fileContent t) (d.lastStamp + 1)) := by
    rw [Disk.at?_putFile, if_pos rfl]
  have hkeeps : store.Keeps t (d.putFile place (Store.fileContent t)) := ⟨place, _, hset', hat⟩
  refine ⟨hkeeps.load ht store.marker, ?_⟩
  rw [Store.stamp?, Disk.stamp?, Disk.find?_eq_some_iff.2 ⟨place, hset'.locate, hat⟩]

/-- A look takes over settings without filters that others wrote. -/
lemma refresh_of_written {t : Settings} {n : Nat} (h : e.books.InStep seen)
    (hload : e.store.load e.disk = .ok t) (ht : t.filters = [])
    (hstamp : e.store.stamp? e.disk = some n) (hnew : e.stamp ≠ some n) :
    ∃ e', e.refresh = (e', true) := by
  obtain ⟨s, -, hlast, -⟩ := station_of_inStep h
  rw [← refreshAmid_self, refreshAmid]
  obtain ⟨-, hold⟩ | ⟨-, ⟨u, err, hreload, -⟩ | ⟨u, -, hlook⟩⟩ :=
    takeOver_cases (e := e) hlast (e.store.stamp? e.disk)
  · rw [hstamp] at hold
    obtain hnone | hsame := hold
    · cases hnone
    · exact absurd hsame.symm hnew
  · rw [Session.reload, show (e.session s).store.load (e.session s).disk = .ok t from hload] at hreload
    simp [ht, Filter.compileAll] at hreload
  · exact ⟨_, hlook⟩

/-- A watcher is started without a settings file, others write one with a webhook, and the next look
takes it over. -/
theorem Watched.registry_agrees_taken_over :
    let store : Store := ⟨["a.json"], "!"⟩
    let theirs : Settings := ⟨true, [], "é", some ⟨"1", "t", .null⟩⟩
    let w := Watcher.create ⟨store, .standard, .standard, "", ""⟩ 0 .empty (.ofRoutes []) (.ofScript [])
    ∃ w' seen e e', w.start (some .empty) = (w', .ok ()) ∧ Watched w'.engine seen e ∧
      store.load e.disk = .ok theirs ∧ e.refresh = (e', true) ∧ e'.AgreesWith e'.disk ∧
      e'.PostsToWebhook := by
  intro store theirs w
  have hexists : Disk.empty.exists? ["a.json"] = .ok false := by decide
  have hload : store.load .empty = .ok (.initial "!") := by rw [Store.load, hexists]
  have hplain : ∀ t, store.load .empty = .ok t → t.IsPlain := by
    intro t ht
    cases hload.symm.trans ht
    exact Settings.isPlain_initial "!"
  have hsettled : ∀ m, Disk.Settled ["a.json"] ["a.json"] ⟨[], m⟩ := by
    intro m
    have hfree : Disk.at? ⟨[], m⟩ ["a.json"] = none := rfl
    exact Disk.settled_of_free rfl rfl (by rw [hfree]; rintro ⟨⟩)
  obtain ⟨disk, s, hopen⟩ := @Session.openOn_of_holds store .empty 0 .empty _
    ⟨hload, hplain _ hload, _, hsettled 0⟩ (List.forall_mem_singleton.2 ⟨_, rfl⟩)
  obtain ⟨w', hstart, hstore⟩ : ∃ w', w.start (some .empty) = (w', .ok ()) ∧
      w'.engine.store = store := by
    exact ⟨_, Watcher.startWith_of_openOn hopen, congrArg Books.store (books_startListener _ _)⟩
  have hopened := Watcher.inStep_start (w := w) hplain hstart
  -- the file of the others has the stamp after the one that the file had
  obtain ⟨m, hm⟩ : ∃ m, ∀ n ∈ w'.engine.books.found, n = m := by
    refine ⟨(store.stamp? w'.engine.disk).getD 0, fun n hn => ?_⟩
    have hn' : w'.engine.store.stamp? w'.engine.disk = some n := Option.mem_toList.1 hn
    rw [← hstore, hn']
    rfl
  obtain ⟨htheirs, hstamp⟩ := @load_putFile store ["a.json"] ⟨[], m⟩ theirs (hsettled m)
    ⟨List.forall_mem_nil _, by rintro w ⟨⟩; exact .null⟩
  generalize Disk.putFile ["a.json"] (Store.fileContent theirs) ⟨[], m⟩ = theirDisk at htheirs hstamp
  rw [← hstore] at htheirs hstamp
  have hfresh : m + 1 ∉ w'.engine.books.found := fun h => absurd (hm _ h) (Nat.succ_ne_self m)
  have hrun : Watched w'.engine _ { w'.engine with disk := theirDisk } :=
    .edit .start (.write hstamp hfresh)
  obtain ⟨e', hlook⟩ := refresh_of_written (hrun.inStep hopened) htheirs rfl hstamp fun h =>
    hfresh (hopened.known _ h)
  obtain ⟨-, -, hagrees⟩ := Watched.registry_agrees (w := w) hplain hstart hrun
  obtain ⟨hdisk, htaken, -⟩ := hagrees _ e' true hlook
  rw [← hstore]
  rw [← hdisk] at htaken
  exact ⟨w', _, _, e', hstart, hrun, htheirs, hlook, (htaken rfl).1, (htaken rfl).2⟩

end Engine

end FeedWatch
