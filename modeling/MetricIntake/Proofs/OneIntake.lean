import MetricIntake.Proofs.Instants
import MetricIntake.Proofs.Jobs
import MetricIntake.Proofs.Past
import MetricIntake.Proofs.SummaryTexts
import Mathlib.Data.List.Forall2

/-!
# One intake for all jobs

A worker does all its jobs with one intake.  What happens to the worker is a list of `commands` of
that intake: the batches of the valid jobs, shutdowns once signals are chained, and whatever goes on
around it.  `Worker.Serves` says what a valid job comes to: the rows of its batch, each reading of
them as `Reading.HandedOutAs` has it, or what the batch raises, and a summary of all batches so far.
`Worker.OneIntake` says what any past comes to, and `one_intake_for_all_jobs` that it is so for
every worker that had no job yet.  The induction is on what happens to the worker, and `Fit` is what
it keeps.
-/

namespace MetricIntake

variable {ω : Type}

/-! ### Signals -/

namespace HandlerTable

/-- No flag is set by any signal yet. -/
def Outer (t : HandlerTable) : Prop :=
  ∀ signal flag, HandlerAction.trigger flag ∉ (t.get signal).actions

theorem get_put (t : HandlerTable) (signal other : String) (handler : Handler) :
    HandlerTable.get (Named.put signal handler t) other =
      if other = signal then handler else t.get other := by
  unfold get
  rw [Named.lookup_put]
  split <;> rfl

/-- A flag is chained before the handlers of some signals, and the others stay. -/
theorem get_install (t : HandlerTable) (flag : Nat) {signals : List String} (once : signals.Nodup)
    (signal : String) :
    (t.install flag signals).get signal =
      if signal ∈ signals then .chain flag (t.get signal) else t.get signal := by
  induction signals generalizing t with
  | nil => rfl
  | cons first rest ih =>
    obtain ⟨hfirst, hrest⟩ := List.nodup_cons.1 once
    show HandlerTable.get (install flag rest (Named.put first (.chain flag (t.get first)) t)) _ = _
    rw [ih _ hrest, get_put]
    -- the chain of `first` stays, as it is not among the rest
    by_cases hsignal : signal = first
    · subst hsignal
      rw [if_neg hfirst, if_pos rfl, if_pos List.mem_cons_self]
    · simp only [List.mem_cons, hsignal, if_false, false_or]

end HandlerTable

/-! ### Rows as they are handed out -/

/-- A value has all that there is to a reading, in an object with five members. -/
structure Reading.HandedOutAs (r : Reading) (j : Json) : Prop where
  names : ∃ members : List (CodeText × Json), j = .object members ∧
    members.map (·.1) = ["time", "name", "value", "original_value", "metadata"]
  /-- The time is written so that it is read back. -/
  time : ∃ text, j.member? "time" = some (.text text) ∧ text = r.time.isoZulu ∧
    readUtcTime text = .ok r.time
  name : j.member? "name" = some (.text r.name)
  value : j.member? "value" = some (.double r.value)
  rawValue : j.member? "original_value" = some (.double r.rawValue)
  /-- The messages are the one member of an object of their own. -/
  messages : j.member? "metadata" = some (.object
    [("messages", .array (r.messages.map fun message => .text (.ofString message)))])

theorem Reading.handedOutAs_toJson (r : Reading) : r.HandedOutAs r.toJson where
  names := ⟨_, rfl, rfl⟩
  time := ⟨_, rfl, rfl, readUtcTime_isoZulu r.time⟩
  name := rfl
  value := rfl
  rawValue := rfl
  messages := rfl

namespace Worker

/-- What a batch comes to and what is made of it for a job: each row is handed out reading by
reading, and what the batch raises is raised. -/
inductive Conveys : Except Failure (List (List Reading)) →
    Except JobFailure (List (List Json)) → Prop
  | rows {rows : List (List Reading)} {handed : List (List Json)}
      (all : List.Forall₂ (List.Forall₂ Reading.HandedOutAs) rows handed) :
      Conveys (.ok rows) (.ok handed)
  | failure (f : Failure) : Conveys (.error f) (.error (.unexpected f))

theorem conveys_rowsJson (outcome : Except Failure (List (List Reading))) :
    Conveys outcome ((outcome.map rowsJson).mapError .unexpected) := by
  cases outcome with
  | error f => exact .failure f
  | ok rows =>
    refine .rows (List.forall₂_map_right_iff.2 (List.forall₂_same.2 fun row _ => ?_))
    exact List.forall₂_map_right_iff.2 (List.forall₂_same.2 fun r _ => r.handedOutAs_toJson)

/-- What a signal does makes no difference if it sets no flag. -/
theorem foldl_perform_of_outer (w : Worker ω) {actions : List HandlerAction}
    (h : ∀ flag, HandlerAction.trigger flag ∉ actions) : actions.foldl perform w = w := by
  induction actions with
  | nil => rfl
  | cons action rest ih =>
    have hrest := ih fun flag hmem => h flag (List.mem_cons_of_mem _ hmem)
    cases action with
    | trigger flag => exact absurd List.mem_cons_self (h flag)
    | call word => exact hrest

/-- Before handlers are installed, signals do nothing to a worker. -/
theorem deliver_of_outer {w : Worker ω} (h : w.handlers.Outer) (signal : String) :
    w.deliver signal = w :=
  foldl_perform_of_outer w (h signal)

/-- Once handlers are installed, some signals request a shutdown and the others do nothing. -/
theorem deliver_of_install {t : HandlerTable} (ht : t.Outer) {w : Worker ω}
    (h : w.handlers = t.install flag shutdownSignals) (signal : String) :
    w.deliver signal =
      if signal ∈ shutdownSignals then w.mapIntake Intake.trigger else w := by
  rw [deliver, h, HandlerTable.get_install t flag (by decide)]
  split
  · exact foldl_perform_of_outer (w.mapIntake Intake.trigger) (ht signal)
  · exact foldl_perform_of_outer w (ht signal)

/-! ### What happens to the intake -/

/-- The occurrence is a job that starts the worker. -/
def Occurrence.starts : Occurrence ω → Bool
  | .job values => isValidJob values
  | _ => false

/-- What an occurrence is for the intake, if it is anything. -/
def Occurrence.command? (started : Bool) : Occurrence ω → Option (Command ω)
  | .job values =>
    match Request.ofJsons values with
    | .ok batch => some (.process batch)
    | .error _ => none
  | .signal name => if started ∧ name ∈ shutdownSignals then some .trigger else none
  | .elapse i => some (.elapse i)

/-- What some occurrences are for the intake. -/
def commands : Bool → List (Occurrence ω) → List (Command ω)
  | _, [] => []
  | started, occurrence :: rest =>
    (occurrence.command? started).toList ++ commands (started || occurrence.starts) rest

/-- The intake of a worker had it done all batches itself. -/
def single (facilities : Facilities ω) (w : Worker ω) (past : List (Occurrence ω)) : Intake ω :=
  w.intake.run (w.surroundings facilities) (commands w.started past)

/-! ### What stays true -/

/-- A worker whose signals did what `t` says before handlers were installed. -/
structure Fit (t : HandlerTable) (w : Worker ω) : Prop where
  level : w.LevelKnown
  handlers : w.handlers = if w.started then t.install flag shutdownSignals else t
  /-- Until it is started there is nothing in its intake. -/
  intake : w.started = false →
    w.intake = .fresh w.intake.outside w.intake.store w.intake.clock w.settings.meterName

/-- The worker has done nothing yet. -/
structure Idle (w : Worker ω) : Prop where
  started : w.started = false
  handlers : w.handlers.Outer
  intake : w.intake = .fresh w.intake.outside w.intake.store w.intake.clock w.settings.meterName

theorem idle_fresh (settings cacheSettings : Settings) (outside : ω) (store : Store)
    (clock : Clock) : (fresh settings cacheSettings outside store clock).Idle where
  started := rfl
  handlers _ _ := List.not_mem_nil
  intake := rfl

theorem Idle.fit {w : Worker ω} (h : w.Idle) (hlevel : w.LevelKnown) : w.Fit w.handlers where
  level := hlevel
  handlers := by rw [h.started]; rfl
  intake _ := h.intake

section Steps

variable (facilities : Facilities ω) {t : HandlerTable} {w : Worker ω}

theorem Fit.start_intake (h : w.Fit t) : w.start.intake = w.intake := by
  unfold start
  split
  · rfl
  · rename_i hstarted
    exact (h.intake ((Bool.not_eq_true _).mp hstarted)).symm

theorem Fit.start_handlers (h : w.Fit t) :
    w.start.handlers = t.install flag shutdownSignals := by
  have hhandlers := h.handlers
  unfold start
  split
  · rename_i hstarted
    rwa [if_pos hstarted] at hhandlers
  · rename_i hstarted
    rw [if_neg hstarted] at hhandlers
    rw [hhandlers]

theorem started_start (w : Worker ω) : w.start.started = true := by
  unfold start
  split
  · assumption
  · rfl

/-- The sources and the store are those of the settings. -/
theorem surroundings_congr {w' : Worker ω} (h : w'.settings = w.settings ∧
    w'.cacheSettings = w.cacheSettings) :
    w'.surroundings facilities = w.surroundings facilities := by
  unfold surroundings
  rw [h.1, h.2]

/-- A batch of a worker once it is started is one of its intake. -/
theorem Fit.runBatch (h : w.Fit t) (batch : List Request) :
    w.start.runBatch facilities batch =
      (((w.intake.process (w.surroundings facilities) batch).1.map rowsJson).mapError .unexpected,
        { w.start with
          intake := (w.intake.process (w.surroundings facilities) batch).2.say
            (w.intake.process (w.surroundings facilities) batch).2.metrics.summary }) := by
  unfold Worker.runBatch
  rw [h.start_intake, surroundings_congr facilities (start_settings w)]

/-- An occurrence does to the intake what it is for it, more records aside. -/
structure Follows (t : HandlerTable) (w : Worker ω) (occurrence : Occurrence ω) : Prop where
  fit : (w.undergo facilities occurrence).Fit t
  started : (w.undergo facilities occurrence).started = (w.started || occurrence.starts)
  intake : (w.undergo facilities occurrence).intake.quiet =
    (w.intake.run (w.surroundings facilities) (occurrence.command? w.started).toList).quiet

/-- A job is its batch, or nothing if it has an invalid request. -/
theorem Fit.follows_job (h : w.Fit t) (values : List Json) :
    w.Follows facilities t (.job values) := by
  cases hvalues : Request.ofJsons values with
  | error errors =>
    have hundergo : w.undergo facilities (.job values) = w.withLog w.jobLog :=
      congrArg Prod.snd (run_of_error h.level hvalues)
    have hinvalid : isValidJob values = false := isValidJob_eq_false_iff.2 ⟨errors, hvalues⟩
    constructor
    · rw [hundergo]
      exact ⟨h.level, h.handlers, h.intake⟩
    · rw [hundergo, Occurrence.starts, hinvalid, Bool.or_false]
      rfl
    · rw [hundergo, Occurrence.command?, hvalues]
      rfl
  | ok batch =>
    have hundergo : w.undergo facilities (.job values) =
        (w.start.runBatch facilities batch).2.withLog w.jobLog :=
      congrArg Prod.snd (run_of_ok h.level hvalues)
    have hvalid : isValidJob values = true := isValidJob_eq_true_iff.2 ⟨batch, hvalues⟩
    have hlevel := h.level.undergo facilities (.job values)
    have hstarted := started_start w
    rw [hundergo, h.runBatch] at hlevel
    constructor
    · rw [hundergo, h.runBatch]
      refine ⟨hlevel, ?_, fun hnot => ?_⟩
      · show w.start.handlers = if w.start.started then _ else _
        rw [if_pos hstarted, h.start_handlers]
      · cases hnot.symm.trans hstarted
    · rw [hundergo, h.runBatch, Occurrence.starts, hvalid, Bool.or_true]
      exact hstarted
    · rw [hundergo, h.runBatch, Occurrence.command?, hvalues]
      rfl

/-- A signal is a shutdown if it requests one and handlers are installed, and else nothing. -/
theorem Fit.follows_signal (ht : t.Outer) (h : w.Fit t) (name : String) :
    w.Follows facilities t (.signal name) := by
  have hhandlers := h.handlers
  have hundergo : w.undergo facilities (.signal name) =
      if w.started ∧ name ∈ shutdownSignals then w.mapIntake Intake.trigger else w := by
    show w.deliver name = _
    cases hstarted : w.started with
    | false =>
      rw [hstarted] at hhandlers
      rw [deliver_of_outer (hhandlers ▸ ht), if_neg fun hsignal => Bool.false_ne_true hsignal.1]
    | true =>
      rw [hstarted] at hhandlers
      rw [deliver_of_install ht hhandlers]
      simp only [true_and]
  by_cases hsignal : w.started ∧ name ∈ shutdownSignals
  · rw [if_pos hsignal] at hundergo
    constructor
    · rw [hundergo]
      refine ⟨h.level, h.handlers, fun hnot => ?_⟩
      cases hnot.symm.trans hsignal.1
    · rw [hundergo]
      exact (Bool.or_false _).symm
    · rw [hundergo, Occurrence.command?, if_pos hsignal]
      rfl
  · rw [if_neg hsignal] at hundergo
    constructor
    · rwa [hundergo]
    · rw [hundergo]
      exact (Bool.or_false _).symm
    · rw [hundergo, Occurrence.command?, if_neg hsignal]
      rfl

/-- What goes on around a worker goes on around its intake. -/
theorem Fit.follows_elapse (h : w.Fit t) (i : Interlude ω) :
    w.Follows facilities t (.elapse i) := by
  refine ⟨⟨h.level, h.handlers, fun hnot => ?_⟩, (Bool.or_false _).symm, rfl⟩
  have hintake := h.intake hnot
  show w.intake.elapse i = .fresh (w.intake.elapse i).outside (w.intake.elapse i).store
    (w.intake.elapse i).clock w.settings.meterName
  rw [hintake]
  rfl

/-- **Every occurrence does to the intake what it is for it.** -/
theorem Fit.follows (ht : t.Outer) (h : w.Fit t) (occurrence : Occurrence ω) :
    w.Follows facilities t occurrence := by
  cases occurrence with
  | job values => exact h.follows_job facilities values
  | signal name => exact h.follows_signal facilities ht name
  | elapse i => exact h.follows_elapse facilities i

/-- The signal handlers and the intake of a worker after any occurrences. -/
theorem Fit.after (ht : t.Outer) (h : w.Fit t) (past : List (Occurrence ω)) :
    (w.after facilities past).Fit t ∧
      (w.after facilities past).started = (w.started || past.any (·.starts)) ∧
      (w.after facilities past).surroundings facilities = w.surroundings facilities ∧
      (w.after facilities past).intake.quiet = (w.single facilities past).quiet := by
  induction past generalizing w with
  | nil => exact ⟨h, (Bool.or_false _).symm, rfl, rfl⟩
  | cons occurrence rest ih =>
    obtain ⟨hfit, hstarted, hintake⟩ := h.follows facilities ht occurrence
    obtain ⟨hrest, hrestStarted, hsurroundings, hrestIntake⟩ := ih hfit
    have hsame := surroundings_congr facilities (undergo_settings facilities w occurrence)
    -- the rest is what it is for an intake that differs in its records at most
    refine ⟨hrest, ?_, hsurroundings.trans hsame, hrestIntake.trans ?_⟩
    · rw [List.any_cons, ← Bool.or_assoc, ← hstarted]
      exact hrestStarted
    · rw [single, single, hsame, hstarted, commands, Intake.run, Intake.run, List.foldl_append]
      exact Intake.run_quiet hintake _

end Steps

/-! ### All jobs -/

/-- What the intake of a worker does with one more batch, from the start. -/
def withBatch (w : Worker ω) (past : List (Occurrence ω)) (batch : List Request) :
    List (Command ω) :=
  commands w.started past ++ [.process batch]

/-- How many requests ended so, in all batches up to this one. -/
def tally (facilities : Facilities ω) (w : Worker ω) (past : List (Occurrence ω))
    (batch : List Request) (o : Outcome) : Nat :=
  ((calls (w.surroundings facilities) (w.withBatch past batch) w.intake).map
    (·.adds (w.surroundings facilities) o)).sum

/-- What comes of a job with the valid requests `batch` after `past`. -/
structure Serves (facilities : Facilities ω) (w : Worker ω) (past : List (Occurrence ω))
    (values : List Json) (batch : List Request) : Prop where
  /-- The job returns the rows that the batch returns, or raises what it raises. -/
  answer : Conveys ((w.single facilities past).process (w.surroundings facilities) batch).1
    ((w.after facilities past).run facilities values).1
  /-- Whatever that is, the job ends with a summary of all batches so far, and says nothing else
  that could be one. -/
  summary : ∃ said summary, ((w.after facilities past).run facilities values).2.intake.records =
      (w.after facilities past).intake.records ++ said ++ summary ∧
    (∀ r ∈ said, r.ofSummary = false) ∧ (∀ r ∈ summary, r.ofSummary = true) ∧
    IsSummary w.settings.meterName (w.tally facilities past batch)
      (visits (w.surroundings facilities) (w.withBatch past batch) w.intake) summary

/-- A worker after `past` has done all its jobs with one intake. -/
structure OneIntake (facilities : Facilities ω) (w : Worker ω) (past : List (Occurrence ω)) :
    Prop where
  /-- The first valid job started it. -/
  started : (w.after facilities past).started = past.any (·.starts)
  /-- Handlers were installed then, and never again. -/
  handlers : (w.after facilities past).handlers =
    if past.any (·.starts) then w.handlers.install flag shutdownSignals else w.handlers
  /-- All that it keeps is what one intake would keep, more records aside. -/
  intake : (w.after facilities past).intake.quiet = (w.single facilities past).quiet
  serves : ∀ values batch, Request.ofJsons values = .ok batch →
    w.Serves facilities past values batch

section Serving

variable {facilities : Facilities ω} {w : Worker ω} {values : List Json} {batch : List Request}

/-- No source of a worker says anything that could be taken for a summary. -/
theorem discreet_of_build {id : String} {outside : ω} {source : Source ω}
    (h : ((w.surroundings facilities).build id outside).1 = .ok source) : source.Discreet := by
  have hbuild : (w.settings.buildSource facilities.network id).mapError Failure.source =
      .ok source := h
  cases hsource : w.settings.buildSource facilities.network id with
  | ok built =>
    rw [hsource] at hbuild
    obtain rfl := Except.ok.inj hbuild
    exact discreet_of_buildSource hsource
  | error e =>
    rw [hsource] at hbuild
    cases hbuild

/-- One more batch of the one intake. -/
theorem process_single (past : List (Occurrence ω)) :
    ((w.single facilities past).process (w.surroundings facilities) batch).2 =
      w.intake.run (w.surroundings facilities) (w.withBatch past batch) := by
  rw [withBatch, single, Intake.run, Intake.run, List.foldl_append]
  rfl

/-- The metrics after one more batch sum up all batches so far. -/
theorem Idle.isSummary (h : w.Idle) (facilities : Facilities ω) (past : List (Occurrence ω))
    (batch : List Request) :
    IsSummary w.settings.meterName (w.tally facilities past batch)
      (visits (w.surroundings facilities) (w.withBatch past batch) w.intake)
      (w.intake.run (w.surroundings facilities) (w.withBatch past batch)).metrics.summary := by
  have hmetrics : w.intake.metrics = .fresh w.settings.meterName := by rw [h.intake]; rfl
  have hall := trail_run (s := w.surroundings facilities) (w.withBatch past batch) w.intake
  have hmeter := hall.meter_eq
  have htimed := hall.timedBy (by rw [hmetrics]; rfl)
  rw [hmetrics] at hmeter
  have hcounts : ∀ o,
      (w.intake.run (w.surroundings facilities) (w.withBatch past batch)).metrics.counts.get o =
        w.tally facilities past batch o := by
    intro o
    rw [run_counts_sum, hmetrics, tally, Metrics.fresh, Nat.add_eq_right]
    cases o <;> rfl
  have hsummary := htimed.isSummary hcounts
  rwa [hmeter] at hsummary

theorem Idle.serves (h : w.Idle) (hlevel : w.LevelKnown) (past : List (Occurrence ω))
    (hvalues : Request.ofJsons values = .ok batch) : w.Serves facilities past values batch := by
  obtain ⟨hfit, -, hsurroundings, hquiet⟩ :=
    (h.fit hlevel).after facilities h.handlers past
  have hresolver : w.intake.resolver = .empty := by rw [h.intake]; rfl
  have hrun : (w.after facilities past).run facilities values = _ := run_of_ok hfit.level hvalues
  rw [hfit.runBatch, hsurroundings] at hrun
  obtain ⟨hrows, hafter, said, hsaid, hsaid'⟩ :=
    Intake.process_quiet (s := w.surroundings facilities) hquiet batch
  -- the records of the batch are no summary, since those of the one intake's batch are none
  have htrail := trail_run (s := w.surroundings facilities) (commands w.started past) w.intake
  obtain ⟨said', hrecords, hplain⟩ := process_says_no_summary (s := w.surroundings facilities)
    (c := { batch, before := w.single facilities past }) (fun _ _ _ => discreet_of_build)
    (htrail.bindsOnly (fun _ _ _ => discreet_of_build) (.of_empty hresolver))
  obtain rfl := List.append_cancel_left (hsaid'.symm.trans hrecords)
  have hsummary := h.isSummary facilities past batch
  refine ⟨?_, said, _, ?_, hplain, hsummary.ofSummary, hsummary⟩
  · rw [hrun, ← hrows]
    exact conveys_rowsJson _
  · have htotal : ((w.after facilities past).intake.process (w.surroundings facilities)
        batch).2.metrics =
        (w.intake.run (w.surroundings facilities) (w.withBatch past batch)).metrics :=
      (Intake.eq_of_quiet Intake.metrics (fun _ => rfl) hafter).trans
        (congrArg Intake.metrics (process_single past))
    rw [hrun, ← htotal, ← hsaid]
    rfl

end Serving

/-- **A worker does all its jobs with one intake**, whatever happens to it: valid and invalid jobs,
jobs that raise, and signals.  The first valid job starts it and installs handlers, once for all; a
valid job comes to what the next batch of one intake would come to, and ends with a summary of all
batches so far. -/
theorem one_intake_for_all_jobs (facilities : Facilities ω) {w : Worker ω} (hidle : w.Idle)
    (hlevel : w.LevelKnown) (past : List (Occurrence ω)) : w.OneIntake facilities past := by
  obtain ⟨hfit, hstarted, -, hquiet⟩ :=
    (hidle.fit hlevel).after facilities hidle.handlers past
  rw [hidle.started, Bool.false_or] at hstarted
  refine ⟨hstarted, ?_, hquiet, fun values batch hvalues => hidle.serves hlevel past hvalues⟩
  rw [← hstarted]
  exact hfit.handlers

/-- The summary is the last thing that a job says. -/
theorem summary_suffix_run {facilities : Facilities ω} {w : Worker ω} {values : List Json}
    {batch : List Request} (hlevel : w.LevelKnown) (hvalues : Request.ofJsons values = .ok batch) :
    (w.run facilities values).2.intake.metrics.summary <:+
      (w.run facilities values).2.intake.records := by
  rw [run_of_ok hlevel hvalues]
  exact List.suffix_append _ _

/-- A signal, a job, one with an invalid request and one that raises. -/
def eventful : List (Occurrence Unit) :=
  [.signal "SIGTERM", .job [plainRequest "fixed" "load"], .job [.null],
    .job [plainRequest "lost" "load"]]

theorem one_intake_of_modest :
    (modest.after bare eventful).started = true ∧
    (modest.after bare eventful).handlers =
      [("SIGTERM", .chain flag .standard), ("SIGINT", .chain flag .standard)] ∧
    ((modest.after bare eventful).run bare [plainRequest "lost" "load"]).1 =
      .error (.unexpected (.fault (.unknownUrlType "h/v1/samples/load"))) ∧
    [⟨.info, .metrics, "Metrics outcomes: succeeded=2 no_data=0 failed=0"⟩,
      ⟨.info, .metrics, "Metrics get-sample.fixed: count=2 avg=0.0ms min=0.0ms max=0.0ms"⟩,
      ⟨.info, .metrics, "Metrics get-sample.lost: count=1 avg=0.0ms min=0.0ms max=0.0ms"⟩] <:+
      ((modest.after bare eventful).run bare [plainRequest "fixed" "load"]).2.intake.records ∧
    modest.OneIntake bare eventful := by
  have one : modest.OneIntake bare eventful :=
    one_intake_for_all_jobs bare (idle_fresh _ _ _ _ _) levelKnown_modest eventful
  have hlost : Request.ofJsons [plainRequest "lost" "load"] = .ok [⟨"lost", "load", none, 0⟩] := by
    decide +kernel
  have hfixed : Request.ofJsons [plainRequest "fixed" "load"] =
      .ok [⟨"fixed", "load", none, 0⟩] := by
    decide +kernel
  have hraises : ((modest.single bare eventful).process (modest.surroundings bare)
      [⟨"lost", "load", none, 0⟩]).1 = .error (.fault (.unknownUrlType "h/v1/samples/load")) := by
    decide +kernel
  have hany : (eventful.any (·.starts)) = true := by decide +kernel
  refine ⟨one.started.trans hany, ?_, ?_, ?_, one⟩
  · rw [one.handlers, if_pos hany]
    decide +kernel
  · have hanswer := (one.serves _ _ hlost).answer
    rw [hraises] at hanswer
    generalize ((modest.after bare eventful).run bare [plainRequest "lost" "load"]).1 = answer
      at hanswer ⊢
    cases hanswer
    rfl
  · have hlevel : (modest.after bare eventful).LevelKnown := ⟨20, by decide +kernel⟩
    have hlast : _ <:+ ((modest.after bare eventful).run bare _).2.intake.records :=
      summary_suffix_run hlevel hfixed
    -- the timers are in order as they are
    have hused : ((modest.after bare eventful).run bare
        [plainRequest "fixed" "load"]).2.intake.metrics.used =
          ["get-sample.fixed", "get-sample.lost"] := by
      decide +kernel
    have hnames : ((modest.after bare eventful).run bare
        [plainRequest "fixed" "load"]).2.intake.metrics.timerNames =
          ["get-sample.fixed", "get-sample.lost"] := by
      rw [Metrics.timerNames, ← Metrics.used, hused, List.mergeSort_of_pairwise (by decide)]
    rw [Metrics.summary, hnames] at hlast
    convert hlast using 1
    decide +kernel

end Worker

end MetricIntake
