import FeedWatch.Proofs.Json.RoundTrip
import FeedWatch.Proofs.Pipeline.Outcome
import Mathlib.Logic.Relation

/-!
# Every counted frame is accounted for

Any number of calls handle frames on one pipeline.  Between two steps each of them is over or waits,
and a step takes one call up to its next wait; meanwhile registries change, look-ups and deliveries
find whatever they find, and waiting calls are cancelled.  Main statement: at any time as many
frames are counted as there are outcomes counted, calls waiting and calls ended by an error; no
count ever goes down; and a heartbeat or a frame that comes while alerts are off counts as nothing
but a heartbeat (`Traffic.frames_eq`).
-/

namespace FeedWatch

/-- The number of calls without an outcome, one or none, that a step of a call leaves: it has none
while it waits, or if it ended in an error. -/
def Progress.unsettled : Progress → Nat
  | .done (.ok _) => 0
  | .done (.error _) | .wait _ _ => 1

namespace Stats

/-- The frames that were counted under a heading. -/
def settled (s : Stats) : Nat :=
  s.malformed + s.suppressed + s.unmatched + s.dispatched + s.deliveryErrors

/-- No count is lower than before. -/
structure Grows (s t : Stats) : Prop where
  frames : s.frames ≤ t.frames
  heartbeats : s.heartbeats ≤ t.heartbeats
  malformed : s.malformed ≤ t.malformed
  suppressed : s.suppressed ≤ t.suppressed
  unmatched : s.unmatched ≤ t.unmatched
  dispatched : s.dispatched ≤ t.dispatched
  deliveryErrors : s.deliveryErrors ≤ t.deliveryErrors

variable {registry : Registry} {payload : Payload} {progress : Progress} {s t u : Stats}

lemma Grows.refl (s : Stats) : s.Grows s := by
  constructor
  all_goals exact Nat.le_refl _

lemma Grows.trans (hst : s.Grows t) (htu : t.Grows u) : s.Grows u where
  frames := Nat.le_trans hst.frames htu.frames
  heartbeats := Nat.le_trans hst.heartbeats htu.heartbeats
  malformed := Nat.le_trans hst.malformed htu.malformed
  suppressed := Nat.le_trans hst.suppressed htu.suppressed
  unmatched := Nat.le_trans hst.unmatched htu.unmatched
  dispatched := Nat.le_trans hst.dispatched htu.dispatched
  deliveryErrors := Nat.le_trans hst.deliveryErrors htu.deliveryErrors

lemma Leads.grows (h : s.Leads t progress) : s.Grows t := by
  cases h
  all_goals
    constructor
    all_goals first | exact Nat.le_refl _ | exact Nat.le_succ _

/-- An event that was counted gets an outcome, unless its call is left without. -/
lemma Leads.settled_add (h : s.Leads t progress) :
    t.frames = s.frames ∧ t.settled + progress.unsettled = s.settled + 1 := by
  cases h with
  | waits | unfilled | interrupted => exact ⟨rfl, rfl⟩
  | suppressed | unmatched | dispatched | undelivered =>
    refine ⟨rfl, ?_⟩
    simp only [settled, Progress.unsettled]
    omega

/-- A frame that is counted gets an outcome, unless its call is left without. -/
lemma Admits.frames_add (h : s.Admits registry payload t progress) :
    t.frames + s.settled = s.frames + t.settled + progress.unsettled := by
  cases h with
  | heartbeat | ignored => rfl
  | malformed | unheld =>
    simp only [settled, Progress.unsettled]
    omega
  | event _ _ hleads =>
    obtain ⟨hframes, hsettled⟩ := hleads.settled_add
    simp only [settled] at hframes hsettled ⊢
    omega

lemma Admits.grows (h : s.Admits registry payload t progress) : s.Grows t := by
  have hframes : s.Grows { s with frames := s.frames + 1 } :=
    { Grows.refl s with frames := Nat.le_succ _ }
  cases h with
  | heartbeat => exact { Grows.refl s with heartbeats := Nat.le_succ _ }
  | ignored => exact .refl s
  | malformed => exact { hframes with malformed := Nat.le_succ _ }
  | unheld => exact hframes
  | event _ _ hleads => exact hframes.trans hleads.grows

end Stats

/-- Calls that handle frames on one pipeline: the waiting ones, and the number of those that counted
a frame and ended in an error. -/
structure Traffic where
  pipeline : Pipeline
  waiting : List Stage
  failed : Nat

namespace Traffic

/-- The traffic when a call has gone on to its next wait or its end. -/
def after (t : Traffic) : Pipeline × Progress → Traffic
  | (p, .wait _ stage) => { t with pipeline := p, waiting := t.waiting ++ [stage] }
  | (p, .done (.ok _)) => { t with pipeline := p }
  | (p, .done (.error _)) => { t with pipeline := p, failed := t.failed + 1 }

/-- The traffic without its waiting call at a place. -/
def without (t : Traffic) (n : Nat) : Traffic := { t with waiting := t.waiting.eraseIdx n }

/-- What can happen: a call begins with a frame, a waiting call goes on, or it is cancelled, each
with the registry and the time of the moment; and the world around the pipeline may become any other
one, which may hold another answer for any waiting call. -/
inductive Step : Traffic → Traffic → Prop where
  | receive {t} (registry : Registry) (epoch : Int) (now : Nat) (payload : Payload) :
    Step t (t.after (t.pipeline.receive registry epoch now payload))
  | resume {t n stage} (registry : Registry) (epoch : Int) (now : Nat) :
    t.waiting[n]? = some stage →
    Step t ((t.without n).after (t.pipeline.resume registry epoch now stage))
  | cancel {t n stage} :
    t.waiting[n]? = some stage →
    Step t { t.without n with failed := t.failed + 1 }
  | world {t : Traffic} {p : Pipeline} (answer : Stage → Stage) :
    p.stats = t.pipeline.stats →
    Step t { t with pipeline := p, waiting := t.waiting.map answer }

/-- The counted frames are those with an outcome, those that wait and those that failed. -/
def IsBalanced (t : Traffic) : Prop :=
  t.pipeline.stats.frames = t.pipeline.stats.settled + t.waiting.length + t.failed

variable {t t' : Traffic} {r : Pipeline × Progress}

lemma pipeline_after : (t.after r).pipeline = r.1 := by
  obtain ⟨p, progress⟩ := r
  cases progress with
  | wait delay stage => rfl
  | done result =>
    cases result with
    | ok a => rfl
    | error e => rfl

lemma unsettled_after : (t.after r).waiting.length + (t.after r).failed =
    t.waiting.length + t.failed + r.2.unsettled := by
  obtain ⟨p, progress⟩ := r
  cases progress with
  | wait delay stage =>
    simp only [after, Progress.unsettled, List.length_append, List.length_singleton]
    omega
  | done result =>
    cases result with
    | ok a => rfl
    | error e => rfl

lemma length_without {n : Nat} {stage : Stage} (h : t.waiting[n]? = some stage) :
    (t.without n).waiting.length + 1 = t.waiting.length := by
  obtain ⟨hn, -⟩ := List.getElem?_eq_some_iff.1 h
  rw [without, List.length_eraseIdx_of_lt hn]
  omega

/-- Whatever happens, no count goes down. -/
lemma Step.grows (h : Step t t') : t.pipeline.stats.Grows t'.pipeline.stats := by
  cases h with
  | receive registry epoch now payload =>
    rw [pipeline_after]
    exact (t.pipeline.admits_receive registry epoch now payload).grows
  | resume registry epoch now hstage =>
    rw [pipeline_after]
    exact Stats.Leads.grows (Pipeline.ledFrom_resume _)
  | cancel hstage => exact .refl _
  | world answer hstats =>
    rw [hstats]
    exact .refl _

/-- Whatever happens to balanced traffic leaves it balanced. -/
lemma Step.isBalanced (hstep : Step t t') (h : t.IsBalanced) : t'.IsBalanced := by
  rw [IsBalanced] at h ⊢
  cases hstep with
  | receive registry epoch now payload =>
    have hframes := (t.pipeline.admits_receive registry epoch now payload).frames_add
    have hafter := @unsettled_after t (t.pipeline.receive registry epoch now payload)
    rw [pipeline_after]
    omega
  | @resume n stage registry epoch now hstage =>
    -- the call that goes on was one of those that wait
    obtain ⟨hframes, hsettled⟩ := Stats.Leads.settled_add
      (@Pipeline.ledFrom_resume registry epoch now t.pipeline stage)
    have hafter := @unsettled_after (t.without n) (t.pipeline.resume registry epoch now stage)
    have hlength := length_without hstage
    have hfailed : (t.without n).failed = t.failed := rfl
    rw [pipeline_after]
    omega
  | @cancel n stage hstage =>
    have hlength := length_without hstage
    simp only [without] at hlength ⊢
    omega
  | world answer hstats => rw [hstats, List.length_map, h]

lemma grows_of_run (h : Relation.ReflTransGen Step t t') :
    t.pipeline.stats.Grows t'.pipeline.stats := by
  induction h with
  | refl => exact .refl _
  | tail _ hstep ih => exact ih.trans hstep.grows

lemma isBalanced_of_run (hrun : Relation.ReflTransGen Step t t') (h : t.IsBalanced) :
    t'.IsBalanced := by
  induction hrun with
  | refl => exact h
  | tail _ hstep ih => exact hstep.isBalanced ih

/-- The traffic before the first frame. -/
def start (p : Pipeline) : Traffic := { pipeline := p, waiting := [], failed := 0 }

/-- At any time, as many frames are counted as there are outcomes counted, calls that wait and calls
that failed; no count ever goes down; and a call whose frame is not taken is over at once and has
changed no count but that of heartbeats. -/
theorem frames_eq (pages : AlertPages) (resolver : Resolver) (sink : Sink) (network : Http.Network)
    (h : Relation.ReflTransGen Step (start (.start pages resolver sink network)) t) :
    t.pipeline.stats.frames = t.pipeline.stats.malformed + t.pipeline.stats.suppressed +
        t.pipeline.stats.unmatched + t.pipeline.stats.dispatched + t.pipeline.stats.deliveryErrors +
        t.waiting.length + t.failed ∧
      (∀ t', Relation.ReflTransGen Step t t' → t.pipeline.stats.Grows t'.pipeline.stats) ∧
      ∀ registry epoch now payload, ¬ registry.Takes payload →
        (t.pipeline.receive registry epoch now payload).2 = .done (.ok none) ∧
        ∃ heartbeats, (t.pipeline.receive registry epoch now payload).1.stats =
          { t.pipeline.stats with heartbeats } := by
  refine ⟨isBalanced_of_run h rfl, fun t' => grows_of_run, fun registry epoch now payload hnot => ?_⟩
  have hadmits := t.pipeline.admits_receive registry epoch now payload
  generalize (t.pipeline.receive registry epoch now payload).1.stats = counts at hadmits ⊢
  generalize (t.pipeline.receive registry epoch now payload).2 = progress at hadmits ⊢
  cases hadmits with
  | heartbeat => exact ⟨rfl, _, rfl⟩
  | ignored => exact ⟨rfl, _, rfl⟩
  | malformed htakes => exact absurd htakes hnot
  | unheld htakes => exact absurd htakes hnot
  | event htakes => exact absurd htakes hnot

/-- Two events whose owner is looked up for a while; the first call is cancelled meanwhile. -/
theorem frames_eq_two_lookups :
    let resolver : Resolver := .table [("u", ⟨5, none, false⟩)]
    ∃ t, Relation.ReflTransGen Step (start (.start .standard resolver (.scripted []) ⟨[], [], 0⟩)) t ∧
      t.waiting.length = 1 ∧ t.failed = 1 ∧ t.pipeline.stats.settled = 0 ∧
      t.pipeline.stats.frames = 2 := by
  intro resolver
  let p : Pipeline := .start .standard resolver (.scripted []) ⟨[], [], 0⟩
  let v : Json := .obj [("tags", .arr []), ("item", .obj [("_id", .str "x"), ("owner", .str "u")])]
  let payload : Payload := .text v.indented
  let registry : Registry := ⟨⟨true, [], "", none⟩, [⟨"a", ⟨"", []⟩, .null, 0⟩]⟩
  let e : Event := ⟨[], ⟨"x", [], .empty, 0, none, none, none, none, "u", .null, .null⟩⟩
  have hitem : Json.IsPlain (.obj [("_id", .str "x"), ("owner", .str "u")]) :=
    .obj (by decide) (List.forall_mem_cons.2 ⟨.str, List.forall_mem_singleton.2 .str⟩)
  have hplain : v.IsPlain :=
    .obj (by decide) (List.forall_mem_cons.2 ⟨.arr nofun, List.forall_mem_singleton.2 hitem⟩)
  have hread : Json.read v.indented = .ok v := Json.read_indented hplain
  have hevent : Event.ofFrame payload = .ok e := by
    simp only [payload, Event.ofFrame, Event.readPayload, hread]
    rfl
  have htakes : registry.Takes payload := ⟨by decide +kernel, rfl⟩
  have hreceive : ∀ t : Traffic,
      Step t (t.after ((t.pipeline.counted payload).handleEvent registry 0 0 e)) := by
    intro t
    rw [← Pipeline.receive_of_event htakes hevent]
    exact .receive registry 0 0 payload
  have hsteps : ∃ t₁ t₂ t, Step (start p) t₁ ∧ Step t₁ t₂ ∧ Step t₂ t ∧
      t.waiting.length = 1 ∧ t.failed = 1 ∧ t.pipeline.stats.settled = 0 :=
    ⟨_, _, _, hreceive _, hreceive _, .cancel (n := 0) rfl, rfl, rfl, rfl⟩
  obtain ⟨t₁, t₂, t, hfirst, hsecond, hcancel, hwaiting, hfailed, hsettled⟩ := hsteps
  have hrun : Relation.ReflTransGen Step (start p) t := .tail (.tail (.single hfirst) hsecond) hcancel
  obtain ⟨hframes, -⟩ := frames_eq _ _ _ _ hrun
  refine ⟨t, hrun, hwaiting, hfailed, hsettled, ?_⟩
  rw [Stats.settled] at hsettled
  omega

end Traffic

end FeedWatch
