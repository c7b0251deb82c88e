import MetricIntake.Proofs.Run
import MetricIntake.Worker

/-!
# Jobs

What happens to a worker is a list of `Occurrence`s: jobs, signals, and what happens around it.
`Worker.after` is where they lead and `Worker.answers` what the jobs among them come to.  A job
whose requests are all valid starts the worker and is a batch of it (`Worker.run_of_ok`).  Any other
job raises the errors of its first invalid request and leaves all but the logging as it was, and so
it can be left out: `invalid_jobs_do_nothing`.
-/

namespace MetricIntake

variable {ω : Type}

namespace Worker

/-! ### Occurrences -/

/-- Something that happens to a worker. -/
inductive Occurrence (ω : Type)
  | job (values : List Json)
  | signal (name : String)
  /-- Something that happens without the worker's doing. -/
  | elapse (i : Interlude ω)

/-- The worker after an occurrence. -/
def undergo (facilities : Facilities ω) (w : Worker ω) : Occurrence ω → Worker ω
  | .job values => (w.run facilities values).2
  | .signal name => w.deliver name
  | .elapse i => w.mapIntake (Intake.elapse i)

/-- The worker after some occurrences. -/
def after (facilities : Facilities ω) (occurrences : List (Occurrence ω)) (w : Worker ω) :
    Worker ω :=
  occurrences.foldl (undergo facilities) w

/-- What comes of each job, with its requests. -/
def answers (facilities : Facilities ω) :
    List (Occurrence ω) → Worker ω → List (List Json × Except JobFailure (List (List Json)))
  | [], _ => []
  | occurrence :: rest, w =>
    let more := answers facilities rest (w.undergo facilities occurrence)
    match occurrence with
    | .job values => (values, (w.run facilities values).1) :: more
    | _ => more

section Answers

variable (facilities : Facilities ω) (rest : List (Occurrence ω)) (w : Worker ω)

@[simp]
theorem answers_job (values : List Json) :
    answers facilities (.job values :: rest) w =
      (values, (w.run facilities values).1) ::
        answers facilities rest (w.undergo facilities (.job values)) :=
  rfl

@[simp]
theorem answers_signal (name : String) :
    answers facilities (.signal name :: rest) w =
      answers facilities rest (w.undergo facilities (.signal name)) :=
  rfl

@[simp]
theorem answers_elapse (i : Interlude ω) :
    answers facilities (.elapse i :: rest) w =
      answers facilities rest (w.undergo facilities (.elapse i)) :=
  rfl

end Answers

/-- All requests of a job are valid. -/
def isValidJob (values : List Json) : Bool := values.all fun value => (Request.ofJson value).isOk

/-- The occurrence is a job with a request that is not valid. -/
def Occurrence.isRejected : Occurrence ω → Bool
  | .job values => !isValidJob values
  | _ => false

/-! ### Logging -/

/-- The log level of the settings is one that there is. -/
def LevelKnown (w : Worker ω) : Prop :=
  ∃ n, (LevelChoice.name w.settings.logLevel).level = .ok n

/-- The worker with its logging set up in some way. -/
def withLog (log : LogSetup) (w : Worker ω) : Worker ω := { w with log }

/-- The logging of a worker once a job is there. -/
def jobLog (w : Worker ω) : LogSetup := (w.log.configure (.name w.settings.logLevel)).2

/-- The worker but for its logging. -/
def unlogged (w : Worker ω) : Worker ω := w.withLog .initial

/-- With a level that there is, logging can be set up. -/
theorem configure_of_levelKnown {w : Worker ω} (h : w.LevelKnown) :
    w.log.configure (.name w.settings.logLevel) = (.ok (), w.jobLog) := by
  obtain ⟨n, hn⟩ := h
  refine Prod.ext ?_ rfl
  unfold LogSetup.configure
  split
  · rw [hn]
  · rfl

section Log

variable (log : LogSetup) (w : Worker ω)

theorem start_withLog : (w.withLog log).start = w.start.withLog log := by
  unfold start withLog
  split <;> rfl

theorem runBatch_withLog (facilities : Facilities ω) (batch : List Request) :
    (w.withLog log).runBatch facilities batch =
      ((w.runBatch facilities batch).1, (w.runBatch facilities batch).2.withLog log) :=
  rfl

theorem foldl_perform_withLog (actions : List HandlerAction) :
    actions.foldl perform (w.withLog log) = (actions.foldl perform w).withLog log := by
  induction actions generalizing w with
  | nil => rfl
  | cons action rest ih =>
    cases action with
    | trigger flag => exact ih (w.mapIntake Intake.trigger)
    | call word => exact ih w

theorem deliver_withLog (name : String) :
    (w.withLog log).deliver name = (w.deliver name).withLog log :=
  foldl_perform_withLog log w _

/-- Signals are for the intake only. -/
theorem foldl_perform_eq (actions : List HandlerAction) :
    ∃ intake, actions.foldl perform w = { w with intake } := by
  induction actions generalizing w with
  | nil => exact ⟨w.intake, rfl⟩
  | cons action rest ih =>
    cases action with
    | trigger flag =>
      obtain ⟨intake, h⟩ := ih (w.mapIntake Intake.trigger)
      exact ⟨intake, h⟩
    | call word => exact ih w

end Log

/-! ### Single jobs -/

section Run

variable {facilities : Facilities ω} {w : Worker ω} {values : List Json}

/-- A job with an invalid request. -/
theorem run_of_error (hlevel : w.LevelKnown) {errors : List FieldError}
    (h : Request.ofJsons values = .error errors) :
    w.run facilities values = (.error (.invalidRequest errors), w.withLog w.jobLog) := by
  unfold run
  rw [configure_of_levelKnown hlevel]
  dsimp only
  rw [h]
  rfl

/-- **A job with valid requests is a batch** of the worker once it has started. -/
theorem run_of_ok (hlevel : w.LevelKnown) {batch : List Request}
    (h : Request.ofJsons values = .ok batch) :
    w.run facilities values =
      ((w.start.runBatch facilities batch).1,
        (w.start.runBatch facilities batch).2.withLog w.jobLog) := by
  unfold run
  rw [configure_of_levelKnown hlevel]
  dsimp only
  rw [h]
  show runBatch facilities batch (w.withLog w.jobLog).start = _
  rw [start_withLog, runBatch_withLog]

/-- The first invalid request of a job, and its errors. -/
theorem ofJsons_eq_error_iff {errors : List FieldError} :
    Request.ofJsons values = .error errors ↔
      ∃ front value rest, values = front ++ value :: rest ∧
        (∀ valid ∈ front, ∃ r, Request.ofJson valid = .ok r) ∧
        Request.ofJson value = .error errors := by
  induction values with
  | nil => simp [Request.ofJsons]
  | cons first values ih =>
    rw [Request.ofJsons]
    cases hfirst : Request.ofJson first with
    | error errors' =>
      -- nothing stands in front of `first`, since all in front must be valid
      constructor
      · intro h
        obtain rfl := Except.error.inj h
        exact ⟨[], first, values, rfl, fun _ hmem => absurd hmem List.not_mem_nil, hfirst⟩
      · rintro ⟨_ | ⟨other, front⟩, value, rest, hvalues, hfront, hvalue⟩
        · obtain ⟨rfl, rfl⟩ := List.cons.inj hvalues
          obtain rfl := Except.error.inj (hfirst.symm.trans hvalue)
          rfl
        · obtain ⟨rfl, -⟩ := List.cons.inj hvalues
          obtain ⟨r, hr⟩ := hfront first List.mem_cons_self
          cases hfirst.symm.trans hr
    | ok r =>
      have hmap : (Request.ofJsons values).map (r :: ·) = .error errors ↔
          Request.ofJsons values = .error errors := by
        cases Request.ofJsons values <;> simp [Except.map]
      show (Request.ofJsons values).map (r :: ·) = .error errors ↔ _
      rw [hmap, ih]
      constructor
      · rintro ⟨front, value, rest, rfl, hfront, hvalue⟩
        exact ⟨first :: front, value, rest, rfl, List.forall_mem_cons.2 ⟨⟨r, hfirst⟩, hfront⟩,
          hvalue⟩
      · rintro ⟨_ | ⟨other, front⟩, value, rest, hvalues, hfront, hvalue⟩
        · obtain ⟨rfl, rfl⟩ := List.cons.inj hvalues
          cases hfirst.symm.trans hvalue
        · obtain ⟨rfl, rfl⟩ := List.cons.inj hvalues
          exact ⟨front, value, rest, rfl, (List.forall_mem_cons.1 hfront).2, hvalue⟩

/-- A job has a batch just if it is valid. -/
theorem isValidJob_eq_true_iff :
    isValidJob values = true ↔ ∃ batch, Request.ofJsons values = .ok batch := by
  induction values with
  | nil => simp [isValidJob, Request.ofJsons]
  | cons first values ih =>
    rw [isValidJob, List.all_cons, ← isValidJob, Bool.and_eq_true, ih, Request.ofJsons]
    cases Request.ofJson first with
    | error errors => simp [Except.isOk, Except.toBool]
    | ok r =>
      cases Request.ofJsons values <;> simp [Except.isOk, Except.toBool, Except.map]

theorem isValidJob_eq_false_iff :
    isValidJob values = false ↔ ∃ errors, Request.ofJsons values = .error errors := by
  rw [← Bool.not_eq_true, isValidJob_eq_true_iff]
  cases Request.ofJsons values <;> simp

end Run

/-! ### Jobs that are left out -/

section Sequences

variable (facilities : Facilities ω) {w : Worker ω}

theorem start_settings (w : Worker ω) :
    w.start.settings = w.settings ∧ w.start.cacheSettings = w.cacheSettings := by
  unfold start
  split <;> exact ⟨rfl, rfl⟩

/-- What happens to a worker leaves its settings. -/
theorem undergo_settings (w : Worker ω) (occurrence : Occurrence ω) :
    (w.undergo facilities occurrence).settings = w.settings ∧
      (w.undergo facilities occurrence).cacheSettings = w.cacheSettings := by
  cases occurrence with
  | job values =>
    show (w.run facilities values).2.settings = _ ∧ (w.run facilities values).2.cacheSettings = _
    unfold run
    split
    · exact ⟨rfl, rfl⟩
    · split
      · exact ⟨rfl, rfl⟩
      · exact start_settings _
  | signal name =>
    obtain ⟨intake, h⟩ := foldl_perform_eq w (w.handlers.get name).actions
    rw [undergo, deliver, h]
    exact ⟨rfl, rfl⟩
  | elapse i => exact ⟨rfl, rfl⟩

theorem LevelKnown.undergo (hlevel : w.LevelKnown) (occurrence : Occurrence ω) :
    (w.undergo facilities occurrence).LevelKnown := by
  unfold LevelKnown
  rw [(undergo_settings facilities w occurrence).1]
  exact hlevel

/-- How logging is set up makes no difference to a job, but for the logging. -/
theorem run_withLog (hlevel : w.LevelKnown) (log : LogSetup) (values : List Json) :
    ∃ log', (w.withLog log).run facilities values =
      ((w.run facilities values).1, (w.run facilities values).2.withLog log') := by
  have hlevel' : (w.withLog log).LevelKnown := hlevel
  cases h : Request.ofJsons values with
  | error errors =>
    rw [run_of_error hlevel h, run_of_error hlevel' h]
    exact ⟨_, rfl⟩
  | ok batch =>
    rw [run_of_ok hlevel h, run_of_ok hlevel' h, start_withLog, runBatch_withLog]
    exact ⟨_, rfl⟩

theorem undergo_withLog (hlevel : w.LevelKnown) (log : LogSetup) (occurrence : Occurrence ω) :
    ∃ log', (w.withLog log).undergo facilities occurrence =
      (w.undergo facilities occurrence).withLog log' := by
  cases occurrence with
  | job values =>
    obtain ⟨log', h⟩ := run_withLog facilities hlevel log values
    exact ⟨log', congrArg Prod.snd h⟩
  | signal name => exact ⟨log, deliver_withLog log w name⟩
  | elapse i => exact ⟨log, rfl⟩

/-- How logging is set up makes no difference to what happens later. -/
theorem after_withLog (hlevel : w.LevelKnown) (log : LogSetup)
    (occurrences : List (Occurrence ω)) :
    answers facilities occurrences (w.withLog log) = answers facilities occurrences w ∧
      ((w.withLog log).after facilities occurrences).unlogged =
        (w.after facilities occurrences).unlogged := by
  induction occurrences generalizing w log with
  | nil => exact ⟨rfl, rfl⟩
  | cons occurrence rest ih =>
    obtain ⟨log', hundergo⟩ := undergo_withLog facilities hlevel log occurrence
    obtain ⟨hanswers, hafter⟩ := ih (hlevel.undergo facilities occurrence) log'
    constructor
    · cases occurrence with
      | job values =>
        obtain ⟨log'', hrun⟩ := run_withLog facilities hlevel log values
        rw [answers_job, answers_job, hundergo, hanswers, hrun]
      | signal name =>
        rw [answers_signal, answers_signal, hundergo, hanswers]
      | elapse i =>
        rw [answers_elapse, answers_elapse, hundergo, hanswers]
    · show (((w.withLog log).undergo facilities occurrence).after facilities rest).unlogged = _
      rw [hundergo]
      exact hafter

/-- A rejected job changes the logging at most. -/
theorem undergo_of_isRejected (hlevel : w.LevelKnown) {occurrence : Occurrence ω}
    (h : occurrence.isRejected = true) :
    ∃ values errors, occurrence = .job values ∧ isValidJob values = false ∧
      w.run facilities values = (.error (.invalidRequest errors), w.withLog w.jobLog) := by
  cases occurrence with
  | job values =>
    have hinvalid : isValidJob values = false := (Bool.not_eq_true' _).mp h
    obtain ⟨errors, herrors⟩ := isValidJob_eq_false_iff.1 hinvalid
    exact ⟨values, errors, rfl, hinvalid, run_of_error hlevel herrors⟩
  | signal name => cases h
  | elapse i => cases h

/-- Leaving out rejected jobs leaves the answers to all others, and the worker but for its
logging. -/
theorem after_filter (hlevel : w.LevelKnown) (occurrences : List (Occurrence ω)) :
    answers facilities (occurrences.filter (!·.isRejected)) w =
        (answers facilities occurrences w).filter (isValidJob ·.1) ∧
      (w.after facilities (occurrences.filter (!·.isRejected))).unlogged =
        (w.after facilities occurrences).unlogged := by
  induction occurrences generalizing w with
  | nil => exact ⟨rfl, rfl⟩
  | cons occurrence rest ih =>
    cases hrejected : occurrence.isRejected with
    | true =>
      obtain ⟨values, errors, rfl, hinvalid, hrun⟩ :=
        undergo_of_isRejected facilities hlevel hrejected
      obtain ⟨hanswers, hafter⟩ := after_withLog facilities hlevel w.jobLog rest
      obtain ⟨ihanswers, ihafter⟩ := ih hlevel
      have hundergo : w.undergo facilities (.job values) = w.withLog w.jobLog :=
        congrArg Prod.snd hrun
      rw [List.filter_cons_of_neg (by rw [hrejected]; decide), answers_job, hundergo,
        List.filter_cons_of_neg (by rw [hinvalid]; decide), hanswers]
      -- the rest starts from a worker with another logging, which makes no difference to it
      refine ⟨ihanswers, ihafter.trans ?_⟩
      show _ = ((w.undergo facilities (.job values)).after facilities rest).unlogged
      rw [hundergo, hafter]
    | false =>
      obtain ⟨ihanswers, ihafter⟩ := ih (hlevel.undergo facilities occurrence)
      rw [List.filter_cons_of_pos (by rw [hrejected]; rfl)]
      refine ⟨?_, ihafter⟩
      cases occurrence with
      | job values =>
        have hvalid : isValidJob values = true := (Bool.not_eq_false' _).mp hrejected
        rw [answers_job, answers_job, ihanswers, List.filter_cons, if_pos hvalid]
      | signal name => exact ihanswers
      | elapse i => exact ihanswers

/-- **A job with an invalid request does nothing**: it raises the errors of the first such request
and leaves all but the logging as it was, whatever the worker has done.  All other jobs come to the
same if such jobs are left out. -/
theorem invalid_jobs_do_nothing (facilities : Facilities ω) {w : Worker ω} (hlevel : w.LevelKnown) :
    (∀ values : List Json, (∃ value ∈ values, ∃ errors, Request.ofJson value = .error errors) →
      ∃ front value rest errors, values = front ++ value :: rest ∧
        (∀ valid ∈ front, ∃ r, Request.ofJson valid = .ok r) ∧
        Request.ofJson value = .error errors ∧
        w.run facilities values = (.error (.invalidRequest errors),
          { w with log := (w.log.configure (.name w.settings.logLevel)).2 })) ∧
    ∀ occurrences : List (Occurrence ω),
      answers facilities (occurrences.filter (!·.isRejected)) w =
          (answers facilities occurrences w).filter (isValidJob ·.1) ∧
        (w.after facilities (occurrences.filter (!·.isRejected))).unlogged =
          (w.after facilities occurrences).unlogged := by
  refine ⟨?_, after_filter facilities hlevel⟩
  rintro values ⟨invalid, hmem, errors', hinvalid⟩
  cases h : Request.ofJsons values with
  | error errors =>
    obtain ⟨front, value, rest, hvalues, hfront, hvalue⟩ := ofJsons_eq_error_iff.1 h
    exact ⟨front, value, rest, errors, hvalues, hfront, hvalue, run_of_error hlevel h⟩
  | ok batch =>
    have hvalid : (Request.ofJson invalid).isOk = true :=
      List.all_eq_true.1 (isValidJob_eq_true_iff.2 ⟨batch, h⟩) invalid hmem
    rw [hinvalid] at hvalid
    cases hvalid

end Sequences

/-- Settings with a source that has one value, and a source at an address that has no scheme. -/
def modestSettings : Settings :=
  { storeUrl := "store"
    queueName := "extract"
    jobTimeoutSeconds := 300
    resultTtlSeconds := 3600
    cacheKeyPrefix := "metrics"
    meterName := "Metrics"
    logLevel := "Info"
    sources :=
      [("fixed",
        { kind := .fixed
          baseUrl := none
          token := none
          timeoutSeconds := .ofWhole 10
          samples := [("load", "4")] }),
      ("lost",
        { kind := .endpoint
          baseUrl := some "h"
          token := some "token"
          timeoutSeconds := .ofWhole 10
          samples := [] })] }

/-- A worker with these settings that has done nothing yet. -/
def modest : Worker Unit :=
  .fresh modestSettings modestSettings () .empty { now := default, reading := .zero, tick := .zero }

/-- A request of a metric of a source. -/
def plainRequest (source name : String) : Json :=
  .object [(.ofString "source", .text (.ofString source)),
    (.ofString "name", .text (.ofString name))]

/-- A network that nothing can be reached in, and a store that can be connected. -/
def bare : Facilities Unit :=
  { network :=
      { send := fun _ outside =>
          ({ outcome := .unreachable "no network", took := .zero, stops := false }, outside)
        depth := default }
    connect := fun _ outside => (.ok (), outside)
    depth := default }

theorem levelKnown_modest : modest.LevelKnown :=
  ⟨20, by decide +kernel⟩

theorem invalid_jobs_of_modest :
    Request.ofJson (.object []) = .error [⟨["source"], .missing⟩, ⟨["name"], .missing⟩] ∧
    modest.run bare [plainRequest "fixed" "load", .object [], .null] =
      (.error (.invalidRequest [⟨["source"], .missing⟩, ⟨["name"], .missing⟩]),
        { modest with log := (modest.log.configure (.name "Info")).2 }) ∧
    answers bare [.job [plainRequest "fixed" "load"], .signal "SIGTERM", .job []] modest =
      (answers bare [.job [plainRequest "fixed" "load"], .job [.null], .signal "SIGTERM",
        .job [], .job [plainRequest "fixed" "load", .object []]] modest).filter
          (isValidJob ·.1) := by
  obtain ⟨hrun, hanswers⟩ := invalid_jobs_do_nothing bare levelKnown_modest
  have hobject : Request.ofJson (.object []) =
      .error [⟨["source"], .missing⟩, ⟨["name"], .missing⟩] := by
    decide +kernel
  have hvalues : Request.ofJsons [plainRequest "fixed" "load", .object [], .null] =
      .error [⟨["source"], .missing⟩, ⟨["name"], .missing⟩] := by
    decide +kernel
  refine ⟨hobject, ?_, ?_⟩
  · obtain ⟨front, value, rest, errors, hsplit, hfront, hvalue, hfirst⟩ :=
      hrun [plainRequest "fixed" "load", .object [], .null] ⟨_, by simp, _, hobject⟩
    have herrors := ofJsons_eq_error_iff.2 ⟨front, value, rest, hsplit, hfront, hvalue⟩
    obtain rfl := Except.error.inj (hvalues.symm.trans herrors)
    exact hfirst
  · rw [← (hanswers _).1]
    rfl

end Worker

end MetricIntake
