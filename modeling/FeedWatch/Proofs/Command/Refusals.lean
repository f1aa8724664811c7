import FeedWatch.Program
import FeedWatch.Proofs.Except
import FeedWatch.Proofs.Document

/-!
# Checks of items that cannot be read

A check reads its item before anything else.  If the item's file cannot be read as a JSON value, the
check refuses the item.  If the value that it holds is no item, that is a failure of the command:
nothing is foreseen for it.

Main statement: either way the run prints one object, ends with the code of a failure and leaves the
world as it was, and an item is refused only if its file cannot be read
(`Program.run_check_item_unread`).
-/

namespace FeedWatch

/-! ## Reports -/

/-- An empty text is no value. -/
lemma Json.read_empty_ne (v : Json) : read "" ≠ .ok v := by
  have hvalue : wholeValue [] = .error (.fault .noValue 0) := by
    simp [wholeValue, skipGap, value]
  intro h
  rw [read, document, String.toList_empty, if_neg (by decide), hvalue] at h
  cases h

namespace Command.Report

variable {r : Report} {stamp kind message command : String}

/-- A report is one JSON value, and nothing else. -/
lemma read_text_reread (h : (r.toJson stamp).IsFit) :
    Json.read (r.text stamp) = .ok (r.toJson stamp).reread := by
  have hgap : ∀ c ∈ "\n".toList, Json.isGap c = true := by
    exact List.forall_mem_singleton.2 rfl
  rw [text, Json.read_append h hgap]

lemma read_text (h : (r.toJson stamp).IsPlain) :
    Json.read (r.text stamp) = .ok (r.toJson stamp) := by
  rw [read_text_reread h.isFit, Json.reread_of_isPlain h]

lemma isPlain_refused : ((refused kind message).toJson stamp).IsPlain := by
  have hkeys : ["error", "message", "query_timestamp"].Nodup := by decide
  exact Json.isPlain_texts [("error", kind), ("message", message), ("query_timestamp", stamp)] hkeys

lemma isPlain_failed : ((failed command message).toJson stamp).IsPlain := by
  have hkeys : ["error", "command", "message", "query_timestamp"].Nodup := by decide
  exact Json.isPlain_texts [("error", "command_error"), ("command", command), ("message", message),
    ("query_timestamp", stamp)] hkeys

end Command.Report

/-! ## The item of a check -/

namespace Command

variable {disk : Disk} {c : Check} {e : CheckError} {cause : DocumentError}
variable {config : Except Config.Faults Config} {line : Http.Line}

/-- There is no item if the document cannot be read or its value is none. -/
lemma Check.readItem_eq_error : c.readItem disk = .error e ↔
    (∃ cause, Document.read (.parse c.item) disk = .error cause ∧ .itemFile cause = e) ∨
      ∃ v, Document.read (.parse c.item) disk = .ok v ∧
        ∃ cause, Item.ofJson v = .error cause ∧ .item cause = e := by
  rw [readItem, FeedWatch.Except.bind_eq_error, FeedWatch.Except.mapError_eq_error]
  simp only [FeedWatch.Except.mapError_eq_ok, FeedWatch.Except.mapError_eq_error]

/-- Why there is no reference: its file cannot be read or holds none, the configuration does not say
where to fetch it, or it cannot be fetched. -/
lemma Check.readReference_eq_error (h : (c.readReference config disk line).2 = .error e) :
    (∃ cause, .referenceFile cause = e) ∨ (∃ cause, .reference (.malformed cause) = e) ∨
      (∃ faults, .config faults = e) ∨
        ∃ url cause, (ReferenceIndex.fetch true url line).2 = .error cause ∧ .reference cause = e := by
  rw [readReference.eq_def] at h
  split at h
  · obtain h | ⟨_, -, h⟩ := FeedWatch.Except.bind_eq_error.1 h
    · obtain ⟨cause, -, he⟩ := FeedWatch.Except.mapError_eq_error.1 h
      exact .inl ⟨cause, he⟩
    · obtain ⟨cause, -, he⟩ := FeedWatch.Except.mapError_eq_error.1 h
      exact .inr (.inl ⟨cause, he⟩)
  · split at h
    next faults => exact .inr (.inr (.inl ⟨faults, Except.error.inj h⟩))
    next config =>
      obtain ⟨cause, hfetch, he⟩ := FeedWatch.Except.mapError_eq_error.1 h
      exact .inr (.inr (.inr ⟨config.referenceUrl, cause, hfetch, he⟩))

/-- Why a query cannot be checked: there is no item or no reference, or it cannot be compiled. -/
lemma Check.perform_eq_error (h : (c.perform config disk line).2 = .error e) :
    c.readItem disk = .error e ∨ (c.readReference config disk line).2 = .error e ∨
      ∃ cause, .query cause = e := by
  unfold perform at h
  split at h
  next hitem =>
    cases h
    exact .inl hitem
  · split at h
    next hreference =>
      cases h
      exact .inr (.inl (congrArg Prod.snd hreference))
    · obtain ⟨cause, -, he⟩ :=
        FeedWatch.Except.mapError_eq_error.1 (FeedWatch.Except.map_eq_error.1 h)
      exact .inr (.inr ⟨cause, he⟩)

lemma Check.perform_of_readItem (h : c.readItem disk = .error e) :
    c.perform config disk line = (line, .error e) := by
  unfold perform
  rw [h]

/-- A check fails at the file of its item exactly if it cannot be read. -/
lemma Check.perform_eq_itemFile (config : Except Config.Faults Config) (line : Http.Line) :
    (c.perform config disk line).2 = .error (.itemFile cause) ↔
      Document.read (.parse c.item) disk = .error cause := by
  constructor
  · intro h
    obtain hitem | hreference | ⟨_, ⟨⟩⟩ := perform_eq_error h
    · obtain ⟨_, hread, ⟨⟩⟩ | ⟨_, -, _, -, ⟨⟩⟩ := readItem_eq_error.1 hitem
      exact hread
    · -- the reference is no matter of the item
      obtain ⟨_, ⟨⟩⟩ | ⟨_, ⟨⟩⟩ | ⟨_, ⟨⟩⟩ | ⟨_, _, -, ⟨⟩⟩ := readReference_eq_error hreference
  · intro h
    rw [perform_of_readItem (readItem_eq_error.2 (.inl ⟨cause, h, rfl⟩))]

lemma CheckError.refusal?_eq_invalidItem :
    e.refusal? = some "invalid_item" ↔ ∃ cause, e = .itemFile cause := by
  constructor
  · intro h
    cases e with
    | itemFile cause => exact ⟨cause, rfl⟩
    | reference e =>
      rw [refusal?] at h
      split_ifs at h
      exact absurd (Option.some.inj h) (by decide)
    | referenceFile | config => exact absurd (Option.some.inj h) (by decide)
    | item | query => cases h
  · rintro ⟨cause, rfl⟩
    rfl

/-- An item is refused if and only if its file cannot be read. -/
lemma Check.report_refuses_iff (config : Except Config.Faults Config) (line : Http.Line) :
    (∃ message, report (c.perform config disk line).2 = .refused "invalid_item" message) ↔
      ∃ cause, Document.read (.parse c.item) disk = .error cause := by
  simp only [← perform_eq_itemFile config line]
  constructor
  · rintro ⟨message, h⟩
    rw [report.eq_def] at h
    split at h
    · cases h
    next e hresult =>
      split at h
      next hkind =>
        cases h
        obtain ⟨cause, rfl⟩ := CheckError.refusal?_eq_invalidItem.1 hkind
        exact ⟨cause, hresult⟩
      · cases h
  · rintro ⟨cause, hresult⟩
    rw [hresult]
    exact ⟨_, rfl⟩

/-! ## The report of a check -/

/-- A check that is carried out tells of a query and an item. -/
lemma Check.report_eq_done {ms : List (String × Json)}
    (h : report (c.perform config disk line).2 = .done ms) :
    ∃ q item, ms = members c.query q item := by
  rw [report.eq_def] at h
  split at h
  next ms' hresult =>
    cases h
    unfold perform at hresult
    split at hresult
    · cases hresult
    next item hitem =>
      split at hresult
      · cases hresult
      · obtain ⟨q, -, hq⟩ := FeedWatch.Except.map_eq_ok.1 hresult
        exact ⟨q, item, hq.symm⟩
  · split at h <;> cases h

lemma Check.isPlain_done {source stamp : String} {q : Query} {item : Item} :
    ((Report.done (members source q item)).toJson stamp).IsPlain := by
  have hclause : ∀ clause, (clauseJson item clause).IsPlain := by
    have hkeys : ["kind", "negated", "key", "passes"].Nodup := by decide
    exact fun clause => .obj hkeys (by simp [Json.IsPlain.str, Json.IsPlain.bool])
  have hclauses : (Json.arr (q.clauses.map (clauseJson item))).IsPlain :=
    .arr (List.forall_mem_map.2 fun clause _ => hclause clause)
  have hkeys : ["status", "query", "matches", "clauses", "query_timestamp"].Nodup := by decide
  exact .obj hkeys (by simp [members, Json.IsPlain.str, Json.IsPlain.bool, hclauses])

/-- Whatever a check comes to, its report is plain. -/
lemma Check.isPlain_report {stamp : String} :
    ((report (c.perform config disk line).2).toJson stamp).IsPlain := by
  cases h : report (c.perform config disk line).2 with
  | done ms =>
    obtain ⟨q, item, rfl⟩ := report_eq_done h
    exact isPlain_done
  | refused => exact Report.isPlain_refused
  | failed => exact Report.isPlain_failed

/-- The report of a check says that the item is refused if and only if its file cannot be read. -/
lemma Check.lookup_error_iff {stamp : String} {ms : List (String × Json)}
    (h : (report (c.perform config disk line).2).toJson stamp = .obj ms) :
    ms.lookup "error" = some (.str "invalid_item") ↔
      ∃ cause, Document.read (.parse c.item) disk = .error cause := by
  rw [← report_refuses_iff config line]
  cases hreport : report (c.perform config disk line).2 with
  | done ms' =>
    -- what is told of a query and an item has no such member
    obtain ⟨q, item, rfl⟩ := report_eq_done hreport
    rw [hreport] at h
    cases h
    simp [members, List.lookup_cons]
  | refused kind message =>
    rw [hreport] at h
    cases h
    simp
  | failed command message =>
    rw [hreport] at h
    cases h
    simp

end Command

/-! ## Runs -/

/-- A run that prints one object, ends with the code of a failure and leaves the world as it was. -/
structure Outcome.Refuses (o : Outcome) (w : World) (members : List (String × Json)) : Prop where
  exit : o.exit = .code 1
  world : o.world = w
  output : Json.read o.output = .ok (.obj members)

namespace Program

variable {line : List String} {l : Command.Line} {c : Command.Check} {w : World}
variable {config : Except Config.Faults Config}

/-- A run carries the command of its command line out, unless the log cannot be set up. -/
lemma run_command {command : Command} (hline : Command.Line.read line = .ok l)
    (hcommand : l.command = some command)
    (hlog : l.logsJson = true → ∃ config, Config.load w.environment w.disk = .ok config) :
    run line w = perform (Config.load w.environment w.disk) w command := by
  rw [run.eq_def, hline]
  simp only [hcommand]
  split
  next faults hfaults hjson =>
    obtain ⟨config, hconfig⟩ := hlog hjson
    cases hfaults.symm.trans hconfig
  · rfl

lemma ended_refuses {r : Command.Report} {now : Nat} {members : List (String × Json)}
    (hcode : r.code = 1) (hplain : (r.toJson (stampAt w now)).IsPlain)
    (hmembers : r.toJson (stampAt w now) = .obj members) :
    (ended "" r now w).Refuses w members := by
  refine ⟨congrArg Exit.code hcode, rfl, ?_⟩
  rw [ended, String.empty_append, Command.Report.read_text hplain, hmembers]

/-- A check of an item whose file cannot be read refuses it. -/
lemma perform_itemFile {cause : DocumentError}
    (h : Document.read (.parse c.item) w.disk = .error cause) :
    perform config w (.check c) = ended "" (.refused "invalid_item" cause.message) 0 w := by
  have hitem := Command.Check.readItem_eq_error.2 (.inl ⟨cause, h, rfl⟩)
  rw [perform.eq_def]
  simp only [Command.Check.perform_of_readItem hitem]
  rfl

/-- A check of a value that is no item fails. -/
lemma perform_item {v : Json} {cause : Json.Mismatch}
    (h : Document.read (.parse c.item) w.disk = .ok v) (hcause : Item.ofJson v = .error cause) :
    perform config w (.check c) =
      ended "" (.failed "check" (Command.CheckError.item cause).message) 0 w := by
  have hitem := Command.Check.readItem_eq_error.2 (.inr ⟨v, h, cause, hcause, rfl⟩)
  rw [perform.eq_def]
  simp only [Command.Check.perform_of_readItem hitem]
  rfl

/-- A check prints nothing, if the user stops it, or its report. -/
lemma output_check (config : Except Config.Faults Config) (c : Command.Check) (w : World) :
    (perform config w (.check c)).output = "" ∨
      ∃ now, (perform config w (.check c)).output =
        (Command.Check.report (c.perform config w.disk ⟨w.network, 0⟩).2).text (stampAt w now) := by
  rw [perform.eq_def]
  dsimp only
  split
  · exact .inl rfl
  · exact .inr ⟨_, String.empty_append⟩

/-- A check whose item's file cannot be read, as a JSON value in UTF-8, prints that the item is
refused.  If the value is no item, it prints that the command failed.  It prints nothing else, ends
with the code of a failure and changes nothing, whatever the query and the reference are, and an
item is refused in no other case. -/
theorem run_check_item_unread (hline : Command.Line.read line = .ok l)
    (hcommand : l.command = some (.check c))
    (hlog : l.logsJson = true → ∃ config, Config.load w.environment w.disk = .ok config) :
    (∀ cause, Document.read (.parse c.item) w.disk = .error cause →
      (run line w).Refuses w [("error", .str "invalid_item"), ("message", .str cause.message),
        ("query_timestamp", .str (stampAt w 0))]) ∧
    (∀ v cause, Document.read (.parse c.item) w.disk = .ok v → Item.ofJson v = .error cause →
      (run line w).Refuses w [("error", .str "command_error"), ("command", .str "check"),
        ("message", .str (Command.CheckError.item cause).message),
        ("query_timestamp", .str (stampAt w 0))]) ∧
    (∀ members, Json.read (run line w).output = .ok (.obj members) →
      (members.lookup "error" = some (.str "invalid_item") ↔
        ∃ cause, Document.read (.parse c.item) w.disk = .error cause)) := by
  rw [run_command hline hcommand hlog]
  refine ⟨fun cause h => ?_, fun v cause h hcause => ?_, fun members h => ?_⟩
  · rw [perform_itemFile h]
    exact ended_refuses rfl Command.Report.isPlain_refused rfl
  · rw [perform_item h hcause]
    exact ended_refuses rfl Command.Report.isPlain_failed rfl
  · obtain hnothing | ⟨now, htext⟩ := output_check (Config.load w.environment w.disk) c w
    · rw [hnothing] at h
      exact absurd h (Json.read_empty_ne _)
    · rw [htext, Command.Report.read_text Command.Check.isPlain_report] at h
      exact Command.Check.lookup_error_iff (Except.ok.inj h)

/-- There is nothing at the path of the item. -/
theorem run_check_item_unread_missing :
    let w : World := ⟨[], .empty, .ofRoutes [], .ofScript [], 0, 0⟩
    (run ["check", "sword", "i.json"] w).Refuses w [("error", .str "invalid_item"),
      ("message", .str "[Errno 2] No such file or directory: 'i.json'"),
      ("query_timestamp", .str (stampAt w 0))] := by
  intro w
  have hline : Command.Line.read ["check", "sword", "i.json"] =
      .ok ⟨false, false, some (.check ⟨"sword", "i.json", none⟩)⟩ := rfl
  obtain ⟨hunread, -⟩ := run_check_item_unread (w := w) hline rfl nofun
  exact hunread _ rfl

/-- An empty object is no item, but the item is not refused: the command fails. -/
theorem run_check_item_empty :
    let disk := Disk.empty.putFile ["i.json"] (Json.obj []).indented.toUTF8
    let w : World := ⟨[], disk, .ofRoutes [], .ofScript [], 0, 0⟩
    Item.ofJson (.obj []) = .error (.missing "_id") ∧
      Document.read (.parse "i.json") disk = .ok (.obj []) ∧
      (run ["check", "sword", "i.json"] w).Refuses w [("error", .str "command_error"),
        ("command", .str "check"), ("message", .str "Malformed item: KeyError('_id')"),
        ("query_timestamp", .str (stampAt w 0))] := by
  intro disk w
  have hplain : (Json.obj []).IsPlain := .obj List.nodup_nil nofun
  have hline : Command.Line.read ["check", "sword", "i.json"] =
      .ok ⟨false, false, some (.check ⟨"sword", "i.json", none⟩)⟩ := rfl
  have hread : Document.read (.parse "i.json") disk = .ok (.obj []) :=
    Document.read_written hplain rfl rfl
  have hitem : Item.ofJson (.obj []) = .error (.missing "_id") := rfl
  refine ⟨hitem, hread, ?_⟩
  rw [run_command hline rfl nofun,
    perform_item (c := ⟨"sword", "i.json", none⟩) (w := w) hread hitem]
  exact ended_refuses rfl Command.Report.isPlain_failed rfl

end Program

end FeedWatch
