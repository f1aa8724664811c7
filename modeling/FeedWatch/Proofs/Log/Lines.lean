import FeedWatch.Log.Record
import FeedWatch.Proofs.Except
import FeedWatch.Proofs.Json.RoundTrip

/-!
# Log lines

A record that is written as JSON is one line: whatever texts it holds, every character outside
printable ASCII is escaped.  The line is read back as an object with the record's own members, the
entries of its context as they were added, and the problem if the record carries one.  The one name
that spoils a line is that of the record's way to give its message.  Main statement:
`Record.read_written_json`.
-/

namespace FeedWatch

/-! ## Times -/

/-- The four centuries that the calendar repeats begin in March of their first year and end with
February of the year behind them. -/
lemma Moment.year_civil {day : Nat} (h : day < 146097) :
    (civil day).1 ≤ 400 ∧ (306 ≤ day → 1 ≤ (civil day).1) ∧
      (day ≤ 146036 → (civil day).1 ≤ 399) := by
  have hera : day / 146097 = 0 := Nat.div_eq_of_lt h
  have hofEra : day % 146097 = day := Nat.mod_eq_of_lt h
  simp only [civil, hera, hofEra]
  generalize hyear : (day - day / 1460 + day / 36524 - day / 146096) / 365 = year
  generalize hofYear : day - (365 * year + year / 4 - year / 100) = ofYear
  split_ifs with h1 h2 h3
  all_goals omega

namespace Log

/-- The first second of the year 1, counted from the start of 1970. -/
def firstSecond : Int := -62135596800

/-- The first second behind the year 9999. -/
def endSecond : Int := 253402300800

namespace Record

lemma yearOf_range {second : Int} (hfirst : firstSecond ≤ second) (hend : second < endSecond) :
    1 ≤ yearOf second ∧ yearOf second ≤ 9999 := by
  rw [firstSecond] at hfirst
  rw [endSecond] at hend
  have hday : ((second / 86400 + Moment.daysTo1970) % 146097).toNat < 146097 := by omega
  obtain ⟨hmost, hlow, hhigh⟩ := Moment.year_civil hday
  rw [Moment.daysTo1970] at *
  simp only [yearOf, Moment.daysTo1970]
  omega

/-- A time in a year of four digits has a stamp. -/
lemma stamp_of_wholeSeconds {r : Record} {second : Int}
    (hsecond : wholeSeconds r.created = .ok second) (hfirst : firstSecond ≤ second)
    (hend : second < endSecond) :
    r.stamp = .ok (Moment.ofMicros (second * 1000000)).toSeconds := by
  obtain ⟨hlow, hhigh⟩ := yearOf_range hfirst hend
  have hword : fitsWord (yearOf second - 1900) = true := by
    rw [fitsWord, wordLimit, Bool.and_eq_true, decide_eq_true_eq, decide_eq_true_eq]
    omega
  have hyear : (yearOf second < 1 || 9999 < yearOf second) = false := by
    rw [Bool.or_eq_false_iff, decide_eq_false_iff_not, decide_eq_false_iff_not]
    omega
  refine Except.bind_eq_ok.2 ⟨second, hsecond, ?_⟩
  dsimp only
  rw [hword, hyear]
  rfl

/-! ## Entries -/

/-- The members that a line has besides the entries of the context. -/
def memberNames : List String := ["timestamp", "level", "logger", "message", "exception"]

/-- Names that the entries of a context can have: they are all different, and none belongs to the
record or to the line. -/
structure AreEntryNames (names : List String) : Prop where
  nodup : names.Nodup
  notReserved : ∀ name ∈ names, isReserved name = false
  notMember : ∀ name ∈ names, name ∉ memberNames

/-- Members that are texts. -/
def textMembers (members : List (String × String)) : List (String × Json) :=
  members.map fun m => (m.1, .str m.2)

lemma map_fst_textMembers (members : List (String × String)) :
    (textMembers members).map Prod.fst = members.map Prod.fst := by
  rw [textMembers, List.map_map]
  rfl

/-- An entry whose name does not belong to the record is part of the context. -/
lemma set_of_notReserved {name : String} (h : isReserved name = false) (value : Json) (r : Record) :
    r.set name value = { r with context := Json.setMember name value r.context } := by
  unfold set
  split
  all_goals first | exact absurd h (by decide) | skip
  rw [h]
  rfl

/-- New entries stand in the context in the order in which they were added. -/
lemma setAll_of_nodup {entries : List (String × Json)} {r : Record}
    (hnotReserved : ∀ e ∈ entries, isReserved e.1 = false)
    (hnodup : ((r.context ++ entries).map Prod.fst).Nodup) :
    r.setAll entries = { r with context := r.context ++ entries } := by
  induction entries generalizing r with
  | nil => rw [List.append_nil]; rfl
  | cons e entries ih =>
    rw [List.forall_mem_cons] at hnotReserved
    have hnew : e.1 ∉ r.context.map Prod.fst := by
      rw [List.map_append, List.map_cons] at hnodup
      exact fun hmem => (List.nodup_append.1 hnodup).2.2 _ hmem _ List.mem_cons_self rfl
    have hset : r.set e.1 e.2 = { r with context := r.context ++ [e] } := by
      rw [set_of_notReserved hnotReserved.1, Json.setMember_of_notMem hnew]
    rw [List.append_cons] at hnodup ⊢
    change (r.set e.1 e.2).setAll entries = _
    rw [hset, ih hnotReserved.2 hnodup]

end Record

/-! ## Problems -/

/-- Whether a record carries a problem. -/
def Cause.isCarried : Cause → Bool
  | nothing => false
  | raised _ => true
  | entry v => v.isFilled

/-- Something is written of a problem exactly if the record carries one. -/
lemma Cause.isSome_of_written {cause : Cause} {problem : Option String}
    (h : cause.written = .ok problem) : problem.isSome = cause.isCarried := by
  cases cause with
  | nothing =>
    cases h
    rfl
  | raised p =>
    cases h
    rfl
  | entry v =>
    rw [isCarried]
    rw [written] at h
    split_ifs at h with hfilled
    · obtain ⟨lines, -, rfl⟩ := Except.map_eq_ok.1 h
      rw [hfilled]
      rfl
    · cases h
      rw [Bool.not_eq_true] at hfilled
      rw [hfilled]
      rfl

/-! ## Lines -/

namespace Record

lemma message_eq {r : Record} : r.message =
    if messageName ∈ r.context.map Prod.fst then .error .messageHidden
    else (Log.message r.pattern.shown r.arguments).mapError .pattern := by
  have hany : (r.context.any fun entry => entry.1 == messageName) = true ↔
      messageName ∈ r.context.map Prod.fst := by
    rw [List.any_eq_true, List.mem_map]
    simp only [beq_iff_eq]
  exact if_congr hany rfl rfl

/-- The members of the line of a record of texts. -/
def lineMembers (stamp level logger message : String) (entries : List (String × String))
    (problem : Option String) : List (String × String) :=
  [("timestamp", stamp), ("level", level), ("logger", logger), ("message", message)] ++ entries ++
    (problem.map fun p => ("exception", p)).toList

variable {stamp level logger message : String} {entries : List (String × String)}
variable {problem : Option String}

/-- The members of a line are told apart by their names. -/
lemma nodup_lineMembers (h : AreEntryNames (entries.map Prod.fst)) :
    ((lineMembers stamp level logger message entries problem).map Prod.fst).Nodup := by
  have hfirst : ∀ name ∈ ["timestamp", "level", "logger", "message"],
      name ∉ entries.map Prod.fst :=
    fun name hname hmem => h.notMember name hmem (List.mem_append_left ["exception"] hname)
  have hnodup : (["timestamp", "level", "logger", "message"] ++ entries.map Prod.fst).Nodup :=
    List.nodup_append.2 ⟨by decide, h.nodup, fun a ha b hb heq => hfirst a ha (heq ▸ hb)⟩
  have hlast : "exception" ∉ ["timestamp", "level", "logger", "message"] ++
      entries.map Prod.fst := by
    intro hmem
    obtain hown | hname := List.mem_append.1 hmem
    · exact absurd hown (by decide)
    · exact h.notMember _ hname (by decide)
  rw [lineMembers, List.map_append, List.map_append]
  cases problem with
  | none => exact List.nodup_append.2 ⟨hnodup, List.nodup_nil, nofun⟩
  | some p =>
    refine List.nodup_append.2 ⟨hnodup, List.nodup_singleton _, ?_⟩
    rintro name hname _ hp rfl
    obtain rfl : name = "exception" := List.mem_singleton.1 hp
    exact hlast hname

/-- A record whose parts can be had is written as an object of texts. -/
lemma toJson_eq_ok {r : Record} (hlevel : r.level = .str level) (hlogger : r.logger = .str logger)
    (hcontext : r.context = textMembers entries)
    (hentries : AreEntryNames (entries.map Prod.fst)) (hstamp : r.stamp = .ok stamp)
    (hproblem : r.cause.written = .ok problem) (hmessage : r.message = .ok message) :
    r.toJson = .ok (.obj (textMembers
      (lineMembers stamp level logger message entries problem))) := by
  have hmembers : [("timestamp", Json.str stamp), ("level", r.level), ("logger", r.logger),
      ("message", Json.str message)] ++ r.context ++
        (problem.map fun p => ("exception", Json.str p)).toList =
      textMembers (lineMembers stamp level logger message entries problem) := by
    rw [hlevel, hlogger, hcontext]
    cases problem <;> simp [textMembers, lineMembers]
  refine Except.bind_eq_ok.2 ⟨stamp, hstamp, Except.bind_eq_ok.2 ⟨problem, hproblem, ?_⟩⟩
  refine Except.bind_eq_ok.2 ⟨message, hmessage, ?_⟩
  rw [hmembers, Json.members_of_nodup]
  · rfl
  · rw [map_fst_textMembers]
    exact nodup_lineMembers hentries

/-- A record does not give its message from behind an entry. -/
lemma toJson_eq_error {r : Record} (hstamp : r.stamp = .ok stamp)
    (hproblem : r.cause.written = .ok problem)
    (hhidden : messageName ∈ r.context.map Prod.fst) : r.toJson = .error .messageHidden := by
  have hmessage : r.message = .error .messageHidden := by rw [message_eq, if_pos hhidden]
  rw [toJson, hstamp]
  refine Except.bind_eq_error.2 (.inr ⟨stamp, rfl, Except.bind_eq_error.2 (.inr ?_)⟩)
  exact ⟨problem, hproblem, Except.bind_eq_error.2 (.inl hmessage)⟩

/-- A record of texts, made at a time in a year of four digits and with entries under new names,
is written as one line of printable ASCII.  The line is read back as an object with the time, the
level, the logger and the message of the record, all entries as they are, and a problem exactly if
the record carries one.  Only an entry with the name of the record's way to give its message spoils
the line. -/
theorem read_written_json (logger level : String) {pattern : String} {arguments : List Json}
    {created : Json} {second : Int} {cause : Cause}
    (hsecond : wholeSeconds created = .ok second) (hfirst : firstSecond ≤ second)
    (hend : second < endSecond)
    (hmessage : Log.message pattern (.ofList arguments) = .ok message)
    (hproblem : cause.written = .ok problem) (hentries : AreEntryNames (entries.map Prod.fst)) :
    let r := (new (.str logger) (.str level) (.str pattern) arguments created cause).setAll
      (textMembers entries)
    let stamp := (Moment.ofMicros (second * 1000000)).toSeconds
    (messageName ∉ entries.map Prod.fst → ∃ line, r.written .json = .ok line ∧
      (∀ c ∈ line.toList, Json.IsPrintableAscii c) ∧
      Json.read line =
        .ok (.obj (textMembers (lineMembers stamp level logger message entries problem))) ∧
      problem.isSome = cause.isCarried) ∧
    (messageName ∈ entries.map Prod.fst → r.written .json = .error .messageHidden) := by
  intro r stamp
  have hnames := map_fst_textMembers entries
  have hrecord : r = { new (.str logger) (.str level) (.str pattern) arguments created cause with
      context := textMembers entries } := by
    refine setAll_of_nodup (fun e he => hentries.notReserved e.1 ?_) ?_
    · rw [← hnames]
      exact List.mem_map_of_mem he
    · change ((textMembers entries).map Prod.fst).Nodup
      rw [hnames]
      exact hentries.nodup
  have hcontext : r.context = textMembers entries := congrArg context hrecord
  have hcreated : wholeSeconds r.created = .ok second := by rwa [hrecord]
  have hcause : r.cause.written = .ok problem := by rwa [hrecord]
  have hstamp : r.stamp = .ok stamp := stamp_of_wholeSeconds hcreated hfirst hend
  rw [← hnames, ← hcontext]
  refine ⟨fun hfree => ?_, fun hhidden => ?_⟩
  · have hgiven : r.message = .ok message := by
      rw [message_eq, if_neg hfree, hrecord]
      exact Except.mapError_eq_ok.2 hmessage
    have hjson := toJson_eq_ok (congrArg Record.level hrecord) (congrArg Record.logger hrecord)
      hcontext hentries hstamp hcause hgiven
    have hplain := Json.isPlain_texts (lineMembers stamp level logger message entries problem)
      (nodup_lineMembers hentries)
    refine ⟨_, Except.map_eq_ok.2 ⟨_, hjson, rfl⟩, ?_, ?_, Cause.isSome_of_written hproblem⟩
    · exact Json.isPrintableAscii_of_mem_inline hplain.isFit
    · exact Json.read_inline hplain
  · exact Except.map_eq_error.2 (toJson_eq_error hstamp hcause hhidden)

/-- A message of two lines with an argument, an entry with a letter outside ASCII, and a problem. -/
theorem read_written_json_problem :
    let r := (new (.str "a.b") (.str "ERROR") (.str "no\n%s") [.str "line"] (.int 1768480200)
      (.raised ⟨"ValueError", [.str "bad"]⟩)).setAll [("item", .str "é")]
    ∃ line, r.written .json = .ok line ∧
      Json.read line = .ok (.obj [
        ("timestamp", .str "2026-01-15T12:30:00+00:00"), ("level", .str "ERROR"),
        ("logger", .str "a.b"), ("message", .str "no\nline"), ("item", .str "é"),
        ("exception", .str "ValueError: bad\n")]) := by
  intro r
  have hnames : AreEntryNames ([("item", "é")].map Prod.fst) :=
    ⟨List.nodup_singleton _, List.forall_mem_singleton.2 (by decide),
      List.forall_mem_singleton.2 (by decide)⟩
  have hmessage : Log.message "no\n%s" (.ofList [.str "line"]) = .ok "no\nline" := by rfl
  have hproblem : (Cause.raised ⟨"ValueError", [.str "bad"]⟩).written =
      .ok (some "ValueError: bad\n") := by rfl
  have hsecond : wholeSeconds (.int 1768480200) = .ok 1768480200 := by rfl
  obtain ⟨line, hline, -, hread, -⟩ := (read_written_json "a.b" "ERROR" hsecond
    (by decide) (by decide) hmessage hproblem hnames).1 (by decide)
  refine ⟨line, hline, hread.trans ?_⟩
  have hstamp : (Moment.ofMicros (1768480200 * 1000000)).toSeconds =
      "2026-01-15T12:30:00+00:00" := by decide +kernel
  rw [hstamp]
  rfl

/-- An entry that would be a member of a line like any other hides the way to the message. -/
theorem written_json_hidden :
    AreEntryNames ["getMessage"] ∧
      ((new (.str "a") (.str "INFO") (.str "hello") [] (.int 1768480200) .nothing).setAll
        [("getMessage", .str "x")]).written .json = .error .messageHidden := by
  refine ⟨⟨List.nodup_singleton _, List.forall_mem_singleton.2 (by decide),
    List.forall_mem_singleton.2 (by decide)⟩, ?_⟩
  rfl

end Record

end Log

end FeedWatch
