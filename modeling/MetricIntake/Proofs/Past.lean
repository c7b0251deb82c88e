import MetricIntake.Proofs.Run

/-!
# What was said before

An intake does the same whatever was said before: what an operation returns stays the same, and so
does what it does and says itself (`Intake.Oblivious`).  Each operation is followed through
`Intake.preceded`, which puts records in front of those that there are.  For batches and for runs
this is `process_preceded` and `run_preceded`, and intakes that are the same but for their records
process a batch alike: `process_of_quiet`.
-/

namespace MetricIntake

variable {ω : Type}

namespace Intake

/-! ### Records in front -/

/-- The intake with some records in front of what was said. -/
def preceded (past : List LogRecord) (k : Intake ω) : Intake ω :=
  { k with records := past ++ k.records }

/-- What an operation returns, does and says does not depend on what was said before. -/
def Oblivious {α : Type} (f : Intake ω → α × Intake ω) : Prop :=
  ∀ past k, f (k.preceded past) = ((f k).1, (f k).2.preceded past)

variable (past : List LogRecord) (k : Intake ω)

/-- Every intake is itself without its records, and those in front. -/
theorem preceded_quiet : k.quiet.preceded k.records = k := by
  show { k with records := k.records ++ [] } = k
  rw [List.append_nil]

@[simp]
theorem quiet_preceded : (k.preceded past).quiet = k.quiet := rfl

@[simp]
theorem say_preceded (records : List LogRecord) :
    (k.preceded past).say records = (k.say records).preceded past :=
  congrArg (fun records => { k with records }) (List.append_assoc ..)

@[simp]
theorem count_preceded (o : Outcome) : (k.preceded past).count o = (k.count o).preceded past :=
  say_preceded past { k with metrics := k.metrics.add o } [k.metrics.outcomeRecord o]

@[simp]
theorem trigger_preceded : (k.preceded past).trigger = k.trigger.preceded past :=
  say_preceded past { k with stopping := true } (triggerFlag k.stopping).2

/-! ### The single steps -/

theorem oblivious_resolve (s : Surroundings ω) (id : String) :
    Oblivious fun k : Intake ω => k.resolve s id := by
  intro past k
  dsimp only [resolve, preceded, emit]
  cases k.resolver.client? id with
  | some client => rfl
  | none =>
    dsimp only
    rcases s.build id k.outside with ⟨(e | f) | source, outside⟩
    · simp only [say, List.append_assoc]
    · rfl
    · simp only [say, List.append_assoc]

theorem oblivious_cacheOf (s : Surroundings ω) (client : Client ω) :
    Oblivious fun k : Intake ω => k.cacheOf s client := by
  intro past k
  dsimp only [cacheOf, preceded, emit]
  cases k.caches.cache? client.serial with
  | some bound => rfl
  | none =>
    dsimp only
    rcases s.connect k.outside with ⟨f | _, outside⟩ <;> rfl

theorem oblivious_readCache (cache : Cache) (key : String) :
    Oblivious fun k : Intake ω => k.readCache cache key := by
  intro past k
  dsimp only [readCache, preceded]
  cases cache.look k.store key with
  | ok found => simp only [say, List.append_assoc]
  | error f => rfl

theorem oblivious_writeCache (cache : Cache) (key : String) (sample : Sample) (ttl : Nat) :
    Oblivious fun k : Intake ω => k.writeCache cache key sample ttl := by
  intro past k
  dsimp only [writeCache, preceded]
  rcases cache.keep k.store key sample ttl with f | ⟨store, records⟩
  · rfl
  · simp only [say, List.append_assoc]

theorem receive_preceded (reply : Reply) (past : List LogRecord) (k : Intake ω) :
    (k.preceded past).receive reply = (k.receive reply).preceded past := by
  dsimp only [receive, preceded, say, emit]
  cases reply.stops with
  | false => simp only [Bool.false_eq_true, ↓reduceIte, List.append_assoc]
  | true => simp only [↓reduceIte, trigger, say, List.append_assoc]

theorem oblivious_fetch (client : Client ω) (name : String) :
    Oblivious fun k : Intake ω => k.fetch client name := by
  intro past k
  let answered := client.source.ask name k.clock.read.2.now k.outside
  let asked : Intake ω :=
    { k with clock := k.clock.read.2 }.emit [.asked client.source.profile client.source.id name]
  -- what is left once the reply is there
  let timed (m : Intake ω) : Except Failure (Option Sample) × Intake ω :=
    (answered.1.outcome,
      { m with
        clock := m.clock.read.2
        metrics := m.metrics.record (timerName client.source.id)
          (Clock.elapsedMillis k.clock.read.1 m.clock.read.1) })
  exact congrArg timed (receive_preceded answered.1 past { asked with outside := answered.2 })

theorem oblivious_settle (r : Request) (source : String) (answer : Option Sample) :
    Oblivious fun k : Intake ω => k.settle r source answer := by
  intro past k
  dsimp only [settle, preceded]
  cases r.settle k.clock.now answer with
  | none => simp only [say, count, List.append_assoc]
  | some resolution =>
    cases h : resolution.isDefault with
    | false => simp [h]
    | true => simp [h, say]

theorem oblivious_readSample (sample : Sample) (source : String) :
    Oblivious fun k : Intake ω => k.readSample sample source := by
  intro past k
  dsimp only [readSample, preceded]
  cases sample.judge with
  | accepted reading => rfl
  | rejected why => simp only [say, count, List.append_assoc]
  | fault f => rfl

/-! ### Requests and batches -/

theorem oblivious_resolveSample (r : Request) (client : Client ω) (cache : Cache) :
    Oblivious fun k : Intake ω => k.resolveSample r client cache := by
  intro past k
  have hread := oblivious_readCache cache r.cacheKey past k
  dsimp only [resolveSample] at hread ⊢
  rw [hread]
  rcases k.readCache cache r.cacheKey with ⟨f | _ | sample, k'⟩
  · rfl
  · have hfetch := oblivious_fetch client r.name past k'
    dsimp only at hfetch ⊢
    rw [hfetch, show (preceded past k').stopping = k'.stopping from rfl]
    cases k'.stopping with
    | true => rfl
    | false =>
      simp only [Bool.false_eq_true, ↓reduceIte]
      rcases k'.fetch client r.name with ⟨(e | f) | answer, k''⟩
      · simp only [say_preceded, count_preceded]
      · rfl
      · have hsettle := oblivious_settle r client.source.id answer past k''
        dsimp only at hsettle ⊢
        rw [hsettle]
  · rfl

theorem oblivious_finish (r : Request) (client : Client ω) (cache : Cache)
    (resolution : Resolution) :
    Oblivious fun k : Intake ω => k.finish r client cache resolution := by
  intro past k
  have hread := oblivious_readSample resolution.sample client.source.id past k
  dsimp only [finish] at hread ⊢
  rw [hread]
  rcases k.readSample resolution.sample client.source.id with ⟨f | _ | reading, k'⟩
  · rfl
  · rfl
  · have hwrite := oblivious_writeCache cache r.cacheKey resolution.sample r.cacheMillis past k'
    dsimp only at hwrite ⊢
    rw [hwrite]
    cases resolution.shouldCache with
    | false => simp only [Bool.false_eq_true, ↓reduceIte, count_preceded, say_preceded]
    | true =>
      simp only [↓reduceIte]
      rcases k'.writeCache cache r.cacheKey resolution.sample r.cacheMillis with ⟨f | _, k''⟩
      · rfl
      · simp only [count_preceded, say_preceded]

theorem oblivious_processRequest (r : Request) (client : Client ω) (cache : Cache) :
    Oblivious fun k : Intake ω => k.processRequest r client cache := by
  intro past k
  have hresolve := oblivious_resolveSample r client cache past k
  dsimp only [processRequest] at hresolve ⊢
  rw [hresolve]
  rcases k.resolveSample r client cache with ⟨f | _ | resolution, k'⟩
  · rfl
  · rfl
  · exact oblivious_finish r client cache resolution past k'

theorem oblivious_processRequests (client : Client ω) (cache : Cache) (requests : List Request) :
    Oblivious fun k : Intake ω => k.processRequests client cache requests := by
  intro past k
  induction requests generalizing k with
  | nil => rfl
  | cons r rest ih =>
    have hrequest := oblivious_processRequest r client cache past k
    dsimp only [processRequests] at hrequest ih ⊢
    rw [hrequest]
    rcases k.processRequest r client cache with ⟨f | reading?, k'⟩
    · rfl
    · dsimp only
      rw [ih]
      rcases k'.processRequests client cache rest with ⟨f | rows, k''⟩ <;> rfl

theorem oblivious_processSource (s : Surroundings ω) (id : String) (requests : List Request) :
    Oblivious fun k : Intake ω => k.processSource s id requests := by
  intro past k
  have hresolve := oblivious_resolve s id past k
  dsimp only [processSource] at hresolve ⊢
  rw [hresolve]
  rcases k.resolve s id with ⟨f | _ | client, k'⟩
  · rfl
  · simp only [say_preceded, count_preceded]
  · have hconnect := oblivious_cacheOf s client past k'
    dsimp only at hconnect ⊢
    rw [hconnect]
    rcases k'.cacheOf s client with ⟨f | bound, k''⟩
    · rfl
    · exact oblivious_processRequests client bound.cache requests past k''

theorem oblivious_processSources (s : Surroundings ω) (batch : List Request)
    (ids : List String) : Oblivious fun k : Intake ω => k.processSources s batch ids := by
  intro past k
  induction ids generalizing k with
  | nil => rfl
  | cons id ids ih =>
    have hsource := oblivious_processSource s id (requestsOf id batch) past k
    dsimp only [processSources] at hsource ih ⊢
    rw [hsource, ih]

/-- **What was said before does not matter to a batch.** -/
theorem oblivious_process (s : Surroundings ω) (batch : List Request) :
    Oblivious fun k : Intake ω => k.process s batch := by
  intro past k
  have hsources := oblivious_processSources s batch (batchSources batch) past k
  dsimp only [process] at hsources ⊢
  rw [hsources, say_preceded]

/-! ### Runs -/

theorem perform_preceded (s : Surroundings ω) (command : Command ω) (past : List LogRecord)
    (k : Intake ω) : (k.preceded past).perform s command = (k.perform s command).preceded past := by
  cases command with
  | process batch => exact congrArg Prod.snd (oblivious_process s batch past k)
  | reset id? => rfl
  | trigger => exact trigger_preceded past k
  | elapse i => rfl

/-- What was said before does not matter to a run. -/
theorem run_preceded (s : Surroundings ω) (commands : List (Command ω)) (past : List LogRecord)
    (k : Intake ω) : (k.preceded past).run s commands = (k.run s commands).preceded past := by
  induction commands generalizing k with
  | nil => rfl
  | cons command rest ih =>
    show ((k.preceded past).perform s command).run s rest = _
    rw [perform_preceded]
    exact ih (k.perform s command)

/-- Intakes that are the same but for their records are that after a run, too. -/
theorem run_quiet {s : Surroundings ω} {k k' : Intake ω} (h : k.quiet = k'.quiet)
    (commands : List (Command ω)) : (k.run s commands).quiet = (k'.run s commands).quiet := by
  rw [← preceded_quiet k, ← preceded_quiet k', run_preceded, run_preceded, h, quiet_preceded,
    quiet_preceded]

/-- Intakes that are the same but for their records process a batch alike, and say the same. -/
theorem process_quiet {s : Surroundings ω} {k k' : Intake ω} (h : k.quiet = k'.quiet)
    (batch : List Request) :
    (k.process s batch).1 = (k'.process s batch).1 ∧
      (k.process s batch).2.quiet = (k'.process s batch).2.quiet ∧
      ∃ said, (k.process s batch).2.records = k.records ++ said ∧
        (k'.process s batch).2.records = k'.records ++ said := by
  have hk := oblivious_process s batch k.records k.quiet
  have hk' := oblivious_process s batch k'.records k'.quiet
  dsimp only at hk hk'
  rw [preceded_quiet] at hk hk'
  rw [← h] at hk'
  rw [hk, hk']
  exact ⟨rfl, rfl, _, rfl, rfl⟩

end Intake

end MetricIntake
