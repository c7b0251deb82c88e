import MetricIntake.Proofs.Accounting
import MetricIntake.Proofs.Answers
import MetricIntake.Proofs.Chain
import MetricIntake.Proofs.Scripted

/-!
# A store that is down

While the store is down, a batch is processed as it would be by a worker that keeps nothing: as the
batch without times to live (`Request.uncached`) with a store that is empty.  This is so as long as
no sample has halves of characters in it that is to be kept, since the text to be written is put
together before the store is asked to take it (`Visit.unwritable`).  `Visit.Uncaches.answer_eq_iff`
is the case of one request and `outage_uncaches` that of a batch.
-/

namespace MetricIntake

variable {ω : Type}

/-! ### The two runs -/

/-- The store can neither be read nor be written. -/
structure Store.Down (store : Store) : Prop where
  read : ∃ message, store.readFailure = some message
  write : ∃ message, store.writeFailure = some message

/-- The request whose sample is not to be kept. -/
def Request.uncached (r : Request) : Request := { r with cacheMillis := 0 }

/-- The intake without its store and what was said: the world outside, the clock, the flag, the
counts and timers, the clients and caches, and all events. -/
def Intake.bare (k : Intake ω) : Intake ω := { k with store := .empty, records := [] }

/-- Two intakes that are the same, but that the store of one is down and that of the other is
empty. -/
structure Intake.Uncaches (k k' : Intake ω) : Prop where
  bare : k.bare = k'.bare
  down : k.store.Down
  empty : k'.store = .empty

/-- The same request in two such intakes, and for the second one its sample is not to be kept. -/
structure Visit.Uncaches (v v' : Visit ω) : Prop where
  request : v'.request = v.request.uncached
  client : v'.client = v.client
  cache : v'.cache = v.cache
  before : v.before.Uncaches v'.before

/-- The sample of the request is to be kept and cannot be, as it has halves of characters. -/
def Visit.unwritable (v : Visit ω) : Bool :=
  match v.asks, v.reply.outcome with
  | true, .ok (some sample) =>
    0 < v.request.cacheMillis && sample.halves?.isSome &&
      match sample.judge with
      | .accepted _ => true
      | .rejected _ => false
      | .fault _ => false
  | _, _ => false

/-! ### What does not depend on the store -/

namespace Intake

/-- What does not depend on the store and the records is the same for both. -/
theorem eq_of_bare {α : Type} {k k' : Intake ω} (f : Intake ω → α) (hf : ∀ k, f k.bare = f k)
    (h : k.bare = k'.bare) : f k = f k' := by
  rw [← hf k, h, hf]

variable {s : Surroundings ω} {k k' : Intake ω}

theorem resolve_bare (id : String) (k : Intake ω) :
    (k.bare.resolve s id).1 = (k.resolve s id).1 ∧
      (k.bare.resolve s id).2.bare = (k.resolve s id).2.bare := by
  unfold resolve bare emit
  dsimp only
  cases k.resolver.client? id with
  | some client => exact ⟨rfl, rfl⟩
  | none =>
    rcases s.build id k.outside with ⟨(e | f) | source, outside⟩
    · exact ⟨rfl, rfl⟩
    · exact ⟨rfl, rfl⟩
    · exact ⟨rfl, rfl⟩

theorem cacheOf_bare (client : Client ω) (k : Intake ω) :
    (k.bare.cacheOf s client).1 = (k.cacheOf s client).1 ∧
      (k.bare.cacheOf s client).2.bare = (k.cacheOf s client).2.bare := by
  unfold cacheOf bare emit
  dsimp only
  cases k.caches.cache? client.serial with
  | some bound => exact ⟨rfl, rfl⟩
  | none =>
    rcases s.connect k.outside with ⟨f | _, outside⟩
    · exact ⟨rfl, rfl⟩
    · exact ⟨rfl, rfl⟩

theorem fetch_bare (client : Client ω) (name : String) (k : Intake ω) :
    (k.bare.fetch client name).2.bare = (k.fetch client name).2.bare := by
  unfold fetch receive bare emit say Clock.read
  dsimp only
  split <;> rfl

namespace Uncaches

/-- The search for a client comes to the same. -/
theorem resolve (h : k.Uncaches k') (id : String) :
    (k.resolve s id).1 = (k'.resolve s id).1 ∧
      (k.resolve s id).2.Uncaches (k'.resolve s id).2 := by
  obtain ⟨hfst, hsnd⟩ := resolve_bare (s := s) id k
  obtain ⟨hfst', hsnd'⟩ := resolve_bare (s := s) id k'
  refine ⟨?_, ?_, ?_, ?_⟩
  · rw [← hfst, h.bare, hfst']
  · rw [← hsnd, h.bare, hsnd']
  · rw [resolve_store]
    exact h.down
  · rw [resolve_store]
    exact h.empty

/-- The search for a cache comes to the same. -/
theorem cacheOf (h : k.Uncaches k') (client : Client ω) :
    (k.cacheOf s client).1 = (k'.cacheOf s client).1 ∧
      (k.cacheOf s client).2.Uncaches (k'.cacheOf s client).2 := by
  obtain ⟨hfst, hsnd⟩ := cacheOf_bare (s := s) client k
  obtain ⟨hfst', hsnd'⟩ := cacheOf_bare (s := s) client k'
  refine ⟨?_, ?_, ?_, ?_⟩
  · rw [← hfst, h.bare, hfst']
  · rw [← hsnd, h.bare, hsnd']
  · rw [cacheOf_store]
    exact h.down
  · rw [cacheOf_store]
    exact h.empty

/-- The search for a client without success counts the same. -/
theorem count (h : k.Uncaches k') (o : Outcome) (records records' : List LogRecord) :
    ((k.say records).count o).Uncaches ((k'.say records').count o) := by
  refine ⟨?_, h.down, h.empty⟩
  exact congrArg (fun b : Intake ω => { b with metrics := b.metrics.add o }) h.bare

end Uncaches

end Intake

/-! ### What a store that is down has and takes -/

namespace Visit

section Down

variable {v : Visit ω}

/-- A store that is down has nothing. -/
theorem cached_of_down (h : v.before.store.Down) : v.cached = .ok none := by
  obtain ⟨message, hread⟩ := h.read
  rw [cached, Cache.look, hread]
  rfl

/-- A store that is down takes nothing. -/
theorem after_store_of_down (h : v.before.store.Down) : v.after.store = v.before.store := by
  obtain ⟨message, hwrite⟩ := h.write
  rw [v.after_store]
  apply storeOf_of_entryOf_eq_none
  unfold entryOf
  split
  · exact if_neg fun hkeep => Option.some_ne_none _ (hwrite.symm.trans hkeep.2)
  · rfl

/-- Without a time to live nothing is kept. -/
theorem keeps_of_uncached (h : v.request.cacheMillis = 0) (resolution : Resolution) :
    v.keeps resolution = false := by
  rw [keeps, h]
  exact Bool.and_false _

theorem after_store_of_uncached (h : v.request.cacheMillis = 0) :
    v.after.store = v.before.store := by
  rw [v.after_store]
  apply storeOf_of_entryOf_eq_none
  unfold entryOf
  split
  · exact if_neg fun hkeep => Bool.false_ne_true ((keeps_of_uncached h _).symm.trans hkeep.1)
  · rfl

end Down

/-! ### Samples that cannot be written -/

/-- A sample whose source ran out of time has no number. -/
theorem isTimedOut_of_accepted {sample : Sample} {reading : Reading}
    (h : sample.judge = .accepted reading) : sample.isTimedOut = false := by
  obtain ⟨-, value, hvalue⟩ := judge_accepted h
  have htimeout : (readNumber Sample.timeoutValue).isOk = false := by decide +kernel
  rw [Sample.isTimedOut, decide_eq_false_iff_not]
  intro hout
  rw [← hout, hvalue] at htimeout
  cases htimeout

/-- The answer of a source goes on to the cache if it has a reading and may be kept. -/
theorem settle_of_accepted {r : Request} {sample : Sample} {reading : Reading}
    (h : sample.judge = .accepted reading) (hpos : 0 < r.cacheMillis) (now : UtcTime) :
    r.settle now (some sample) = some ⟨sample, true, false⟩ := by
  have hout := isTimedOut_of_accepted h
  unfold Request.settle
  cases r.defaultValue with
  | none => simp [hout, hpos]
  | some x => simp [hout, hpos]

theorem unwritable_eq_true_iff {v : Visit ω} :
    v.unwritable = true ↔
      v.asks = true ∧ ∃ sample halves reading, v.reply.outcome = .ok (some sample) ∧
        0 < v.request.cacheMillis ∧ sample.halves? = some halves ∧
        sample.judge = .accepted reading := by
  unfold unwritable
  split
  · rename_i sample hasks hreply
    rw [hasks, hreply, Bool.and_eq_true, Bool.and_eq_true, decide_eq_true_eq,
      Option.isSome_iff_exists]
    constructor
    · rintro ⟨⟨hpos, halves, hhalves⟩, hjudge⟩
      split at hjudge
      · rename_i reading hreading
        exact ⟨rfl, sample, halves, reading, rfl, hpos, hhalves, hreading⟩
      · cases hjudge
      · cases hjudge
    · rintro ⟨-, sample', halves, reading, hsample, hpos, hhalves, hjudge⟩
      obtain rfl := Option.some.inj (Except.ok.inj hsample)
      rw [hjudge]
      exact ⟨⟨hpos, halves, hhalves⟩, rfl⟩
  · rename_i hnot
    constructor
    · rintro ⟨⟩
    · rintro ⟨hasks, sample, -, -, hreply, -⟩
      exact absurd hreply (hnot sample hasks)

/-- A request whose sample cannot be written raises. -/
theorem fate_of_unwritable {v : Visit ω} (h : v.unwritable = true) :
    ∃ halves, v.fate = .raised (.unwritable halves) := by
  obtain ⟨hasks, sample, halves, reading, hreply, hpos, hhalves, hjudge⟩ :=
    unwritable_eq_true_iff.1 h
  obtain ⟨hcached, hstopping⟩ := asks_eq_true_iff.1 hasks
  have hkeeps : v.keeps ⟨sample, true, false⟩ = true := keeps_eq_true_iff.2 ⟨rfl, hpos⟩
  refine ⟨halves, ?_⟩
  rw [v.fate_of_asks hcached hstopping, hreply]
  dsimp only
  rw [settle_of_accepted hjudge hpos]
  dsimp only
  rw [fateOf, hjudge]
  dsimp only
  rw [if_pos hkeeps, hhalves]

/-- Any other sample is only judged. -/
theorem fateOf_of_writable {v : Visit ω} (h : v.unwritable = false) (hasks : v.asks = true)
    {sample? : Option Sample} (hreply : v.reply.outcome = .ok sample?) {resolution : Resolution}
    (hsettle : v.request.settle v.before.clock.now sample? = some resolution) :
    v.fateOf resolution =
      match resolution.sample.judge with
      | .rejected why => .rejected resolution why
      | .fault f => .raised f
      | .accepted reading => .loaded resolution reading := by
  cases hkeeps : v.keeps resolution with
  | false => exact fateOf_of_not_keeps hkeeps
  | true =>
    unfold fateOf
    cases hjudge : resolution.sample.judge with
    | rejected why => rfl
    | fault f => rfl
    | accepted reading =>
      dsimp only
      rw [if_pos hkeeps]
      cases hhalves : resolution.sample.halves? with
      | none => rfl
      | some halves =>
        -- the sample is the one that the source just gave, so that it could not be written
        obtain ⟨hcache, hpos⟩ := keeps_eq_true_iff.1 hkeeps
        obtain ⟨rfl, -, -⟩ := settle_shouldCache hsettle hcache
        have hunwritable : v.unwritable = true :=
          unwritable_eq_true_iff.2 ⟨hasks, _, halves, reading, hreply, hpos, hhalves, hjudge⟩
        rw [hunwritable] at h
        cases h

end Visit

/-- Whether its sample may be kept is all that an answer comes to differently for such a request. -/
theorem Request.settle_uncached (r : Request) (now : UtcTime) (answer : Option Sample) :
    r.uncached.settle now answer =
      (r.settle now answer).map fun resolution => { resolution with shouldCache := false } := by
  unfold settle uncached
  cases answer with
  | none => cases r.defaultValue <;> rfl
  | some sample =>
    cases r.defaultValue with
    | none => rfl
    | some x =>
      dsimp only
      split <;> rfl

/-! ### One request -/

namespace Visit.Uncaches

variable {v v' : Visit ω}

theorem cached (h : v.Uncaches v') : v.cached = .ok none ∧ v'.cached = .ok none := by
  refine ⟨cached_of_down h.before.down, ?_⟩
  rw [Visit.cached, Cache.look, h.before.empty]
  rfl

theorem stopping (h : v.Uncaches v') : v.before.stopping = v'.before.stopping :=
  Intake.eq_of_bare Intake.stopping (fun _ => rfl) h.before.bare

theorem now (h : v.Uncaches v') : v.before.clock.now = v'.before.clock.now :=
  Intake.eq_of_bare (·.clock.now) (fun _ => rfl) h.before.bare

theorem reply (h : v.Uncaches v') : v.reply = v'.reply := by
  rw [Visit.reply, Visit.reply, h.client, h.request]
  exact Intake.eq_of_bare (·.replyOf v.client v.request.name) (fun _ => rfl) h.before.bare

theorem asks (h : v.Uncaches v') : v.asks = v'.asks := by
  rw [Visit.asks, Visit.asks, h.cached.1, h.cached.2, h.stopping]

/-- Without a time to live the sample is only judged. -/
theorem fateOf_eq (h : v.Uncaches v') (resolution : Resolution) :
    v'.fateOf resolution =
      match resolution.sample.judge with
      | .rejected why => .rejected resolution why
      | .fault f => .raised f
      | .accepted reading => .loaded resolution reading :=
  fateOf_of_not_keeps (keeps_of_uncached (by rw [h.request]; rfl) resolution)

/-- Both requests end alike if the sample can be written. -/
theorem fate (h : v.Uncaches v') (hw : v.unwritable = false) :
    v.fate.answer v.request = v'.fate.answer v'.request ∧ v.fate.outcome? = v'.fate.outcome? := by
  obtain ⟨hcached, hcached'⟩ := h.cached
  cases hs : v.before.stopping with
  | true =>
    have hs' : v'.before.stopping = true := h.stopping ▸ hs
    rw [fate_eq_skipped_iff.2 ⟨hcached, hs⟩, fate_eq_skipped_iff.2 ⟨hcached', hs'⟩]
    exact ⟨rfl, rfl⟩
  | false =>
    have hs' : v'.before.stopping = false := h.stopping ▸ hs
    have hasks : v.asks = true := asks_eq_true_iff.2 ⟨hcached, hs⟩
    rw [v.fate_of_asks hcached hs, v'.fate_of_asks hcached' hs', ← h.reply, ← h.now, h.request]
    cases hreply : v.reply.outcome with
    | error failure => cases failure <;> exact ⟨rfl, rfl⟩
    | ok sample? =>
      dsimp only
      rw [Request.settle_uncached]
      cases hsettle : v.request.settle v.before.clock.now sample? with
      | none => exact ⟨rfl, rfl⟩
      | some resolution =>
        dsimp only [Option.map_some]
        rw [fateOf_of_writable hw hasks hreply hsettle, h.fateOf_eq]
        cases resolution.sample.judge <;> exact ⟨rfl, rfl⟩

/-- A sample that cannot be written has a reading if it is not to be kept. -/
theorem fate_of_unwritable (h : v.Uncaches v') (hw : v.unwritable = true) :
    ∃ resolution reading, v'.fate = .loaded resolution reading := by
  obtain ⟨hasks, sample, -, reading, hreply, hpos, -, hjudge⟩ := unwritable_eq_true_iff.1 hw
  obtain ⟨hcached', hstopping'⟩ := asks_eq_true_iff.1 (h.asks ▸ hasks)
  refine ⟨⟨sample, false, false⟩, reading, ?_⟩
  rw [v'.fate_of_asks hcached' hstopping', ← h.reply, hreply, h.request]
  dsimp only
  rw [Request.settle_uncached, settle_of_accepted hjudge hpos]
  dsimp only [Option.map_some]
  rw [h.fateOf_eq, hjudge]

/-- **One request** has the same answer while the store is down as without a cache, just if its
sample can be written. -/
theorem answer_eq_iff (h : v.Uncaches v') : v.answer = v'.answer ↔ v.unwritable = false := by
  constructor
  · intro hanswer
    rw [← Bool.not_eq_true]
    intro hw
    obtain ⟨resolution, reading, hloaded⟩ := h.fate_of_unwritable hw
    obtain ⟨halves, hraised⟩ := Visit.fate_of_unwritable hw
    rw [v.answer_eq, v'.answer_eq, hraised, hloaded] at hanswer
    cases hanswer
  · intro hw
    rw [v.answer_eq, v'.answer_eq]
    exact (h.fate hw).1

/-- The intakes stay so. -/
theorem after (h : v.Uncaches v') (hw : v.unwritable = false) : v.after.Uncaches v'.after := by
  have hzero : v'.request.cacheMillis = 0 := by rw [h.request]; rfl
  have hasked : v.asked.bare = v'.asked.bare := by
    rw [Visit.asked, Visit.asked, ← h.asks, h.client, h.request]
    split
    · obtain hfetch := Intake.fetch_bare v.client v.request.name v.before
      rw [← hfetch, h.before.bare]
      exact Intake.fetch_bare _ _ _
    · exact h.before.bare
  have hbare (w : Visit ω) : w.after.bare =
      { w.asked with store := w.storeOf w.fate, metrics := w.fate.tally w.asked.metrics }.bare :=
    Intake.eq_of_quiet Intake.bare (fun _ => rfl) w.processRequest_eq.2
  refine ⟨?_, ?_, ?_⟩
  · have htally : v.fate.tally = v'.fate.tally := by
      funext m
      rw [Fate.tally, Fate.tally, (h.fate hw).2]
    rw [hbare, hbare, htally]
    exact congrArg (fun b : Intake ω => { b with metrics := v'.fate.tally b.metrics }) hasked
  · rw [after_store_of_down h.before.down]
    exact h.before.down
  · rw [after_store_of_uncached hzero]
    exact h.before.empty

end Visit.Uncaches

/-! ### A batch -/

/-- To keep nothing does not change which requests are for a source. -/
theorem requestsOf_uncached (id : String) (batch : List Request) :
    requestsOf id (batch.map Request.uncached) = (requestsOf id batch).map Request.uncached := by
  rw [requestsOf, requestsOf, List.filter_map]
  rfl

theorem batchSources_uncached (batch : List Request) :
    batchSources (batch.map Request.uncached) = batchSources batch := by
  rw [batchSources, batchSources, List.map_map]
  rfl

namespace Intake.Uncaches

variable {s : Surroundings ω} {k k' : Intake ω}

/-- The requests of a source come to the same one by one. -/
theorem processRequests (h : k.Uncaches k') (client : Client ω) (cache : Cache)
    (requests : List Request)
    (hw : ∀ v ∈ visitsOf client cache requests k, v.unwritable = false) :
    (k.processRequests client cache requests).1 =
        (k'.processRequests client cache (requests.map Request.uncached)).1 ∧
      (k.processRequests client cache requests).2.Uncaches
        (k'.processRequests client cache (requests.map Request.uncached)).2 := by
  induction requests generalizing k k' with
  | nil => exact ⟨rfl, h⟩
  | cons r rest ih =>
    let v : Visit ω := { request := r, client, cache, before := k }
    let v' : Visit ω := { request := r.uncached, client, cache, before := k' }
    have hv : v.Uncaches v' := ⟨rfl, rfl, rfl, h⟩
    have hmem : v ∈ visitsOf client cache (r :: rest) k := List.mem_cons_self
    have hafter := hv.after (hw v hmem)
    have hanswer : v.answer = v'.answer := hv.answer_eq_iff.2 (hw v hmem)
    cases ha : v.answer with
    | error f =>
      obtain ⟨hp, -⟩ := processRequests_of_error ha rest
      obtain ⟨hp', -⟩ := processRequests_of_error (hanswer ▸ ha) (rest.map Request.uncached)
      rw [hp, List.map_cons, show k'.processRequests client cache (r.uncached :: _) = _ from hp']
      exact ⟨rfl, hafter⟩
    | ok reading? =>
      obtain ⟨hp, hvs⟩ := processRequests_of_ok ha rest
      obtain ⟨hp', -⟩ := processRequests_of_ok (hanswer ▸ ha) (rest.map Request.uncached)
      obtain ⟨hrows, hend⟩ := ih hafter fun w hmore =>
        hw w (hvs ▸ List.mem_cons_of_mem v hmore)
      rw [hp, List.map_cons, show k'.processRequests client cache (r.uncached :: _) = _ from hp']
      exact ⟨congrArg (Except.map _) hrows, hend⟩

/-- A source comes to the same in its turn. -/
theorem turn {t t' : Turn ω} (h : t.before.Uncaches t'.before) (hid : t'.id = t.id)
    (hrequests : t'.requests = t.requests.map Request.uncached)
    (hw : ∀ v ∈ t.visits s, v.unwritable = false) :
    t.rows s = t'.rows s ∧ (t.after s).Uncaches (t'.after s) := by
  obtain ⟨hclient, hresolve⟩ := h.resolve (s := s) t.id
  rw [← hid] at hclient hresolve
  have hclient' : t.client? s = t'.client? s := by rw [Turn.client?, ← hid, hclient]; rfl
  cases hc : t.client? s with
  | error f =>
    obtain ⟨hrows, -, hafter⟩ := Turn.eq_of_error hc
    obtain ⟨hrows', -, hafter'⟩ := Turn.eq_of_error (hclient' ▸ hc)
    rw [hrows, hrows', hafter, hafter', ← hid]
    exact ⟨rfl, hresolve⟩
  | ok client? =>
    cases client? with
    | none =>
      obtain ⟨hrows, -, records, hafter⟩ := Turn.eq_of_none hc
      obtain ⟨hrows', -, records', hafter'⟩ := Turn.eq_of_none (hclient' ▸ hc)
      rw [hrows, hrows', hafter, hafter', ← hid]
      exact ⟨rfl, hresolve.count .failed records records'⟩
    | some client =>
      obtain ⟨hcache, hconnect⟩ := hresolve.cacheOf (s := s) client
      rw [hid] at hcache hconnect
      obtain ⟨f, hb, hrows, -, hafter⟩ | ⟨bound, hb, hrows, hafter, hvisits⟩ :=
        Turn.eq_of_some hc
      · obtain ⟨f', hb', hrows', -, hafter'⟩ | ⟨bound', hb', -⟩ :=
          Turn.eq_of_some (hclient' ▸ hc)
        · rw [hid] at hb' hafter'
          obtain rfl := Except.error.inj (hb.symm.trans (hcache.trans hb'))
          rw [hrows, hrows', hafter, hafter']
          exact ⟨rfl, hconnect⟩
        · rw [hid] at hb'
          cases hb.symm.trans (hcache.trans hb')
      · obtain ⟨f', hb', -⟩ | ⟨bound', hb', hrows', hafter', -⟩ :=
          Turn.eq_of_some (hclient' ▸ hc)
        · rw [hid] at hb'
          cases hb.symm.trans (hcache.trans hb')
        · rw [hid] at hb' hrows' hafter'
          obtain rfl := Except.ok.inj (hb.symm.trans (hcache.trans hb'))
          rw [hrows, hrows', hafter, hafter', hrequests]
          exact hconnect.processRequests client bound.cache t.requests (hvisits ▸ hw)

/-- The sources of a batch come to the same one by one. -/
theorem processSources (h : k.Uncaches k') (batch : List Request) (ids : List String)
    (hw : ∀ v ∈ (turnsOf s batch ids k).flatMap (·.visits s), v.unwritable = false) :
    (k.processSources s batch ids).1 =
        (k'.processSources s (batch.map Request.uncached) ids).1 ∧
      (k.processSources s batch ids).2.Uncaches
        (k'.processSources s (batch.map Request.uncached) ids).2 := by
  induction ids generalizing k k' with
  | nil => exact ⟨rfl, h⟩
  | cons id ids ih =>
    let t : Turn ω := { id, requests := requestsOf id batch, before := k }
    let t' : Turn ω :=
      { id, requests := requestsOf id (batch.map Request.uncached), before := k' }
    rw [turnsOf, List.flatMap_cons, List.forall_mem_append] at hw
    obtain ⟨hrows, hafter⟩ : t.rows s = t'.rows s ∧ (t.after s).Uncaches (t'.after s) :=
      turn h rfl (requestsOf_uncached id batch) hw.1
    obtain ⟨hrest, hend⟩ := ih hafter hw.2
    rw [processSources_cons, processSources_cons]
    exact ⟨congrArg₂ (fun rows rest => (id, rows) :: rest) hrows hrest, hend⟩

/-- A batch comes to the same. -/
theorem process (h : k.Uncaches k') (batch : List Request)
    (hw : ∀ v ∈ Call.visits s ⟨batch, k⟩, v.unwritable = false) :
    (k.process s batch).1 = (k'.process s (batch.map Request.uncached)).1 ∧
      (k.process s batch).2.bare = (k'.process s (batch.map Request.uncached)).2.bare := by
  obtain ⟨hrows, hend⟩ := h.processSources batch (batchSources batch) hw
  unfold Intake.process
  rw [batchSources_uncached]
  exact ⟨congrArg Intake.gather hrows, hend.bare⟩

end Intake.Uncaches

/-- What a batch comes to while the store is down, next to the same batch with nothing to keep and
an empty store. -/
structure Call.Outage (s : Surroundings ω) (c c' : Call ω) : Prop where
  /-- Nothing is stored. -/
  store : (c.before.process s c.batch).2.store = c.before.store
  store' : (c'.before.process s c'.batch).2.store = c'.before.store
  /-- If all samples can be written, the rows, or what is raised, are the same. -/
  rows : (∀ v ∈ c.visits s, v.unwritable = false) → c.rows s = c'.rows s
  /-- So are the calls of sources and all other events, the counts and the timers, the clients and
  the caches, the clock and the flag, and the world outside. -/
  after : (∀ v ∈ c.visits s, v.unwritable = false) →
    (c.before.process s c.batch).2.bare = (c'.before.process s c'.batch).2.bare
  /-- A sample that cannot be written ends the work on its source. -/
  raises : ∀ v ∈ c.visits s, v.unwritable = true →
    ∃ halves, v.answer = .error (.fault (.unwritable halves))

/-- **A store that is down is no cache**: from any intake and for any batch and sources, as long as
no sample has halves of characters in it that is to be kept. -/
theorem outage_uncaches (s : Surroundings ω) {k k' : Intake ω} (h : k.Uncaches k')
    (batch : List Request) :
    Call.Outage s ⟨batch, k⟩ ⟨batch.map Request.uncached, k'⟩ := by
  refine ⟨?_, ?_, fun hw => (h.process batch hw).1, fun hw => (h.process batch hw).2, ?_⟩
  · -- the store stays down, so that no visit finds it in another state
    refine ((chained_call (byVisits_store s) ⟨batch, k⟩).eq_of_kept fun v _ hv => ?_).2
    rw [Visit.after_store_of_down (hv ▸ h.down), hv]
  · refine ((chained_call (byVisits_store s) ⟨batch.map Request.uncached, k'⟩).eq_of_forall
      fun v hv => Visit.after_store_of_uncached ?_).2
    obtain ⟨r, -, hr⟩ := List.mem_map.1 (Call.request_mem hv)
    rw [← hr]
    rfl
  · intro v _ hv
    obtain ⟨halves, hfate⟩ := Visit.fate_of_unwritable hv
    exact ⟨halves, by rw [v.answer_eq, hfate]; rfl⟩

/-! ### Sources of all sorts, and a store that is down -/

/-- A sample whose date and time are set apart by half of a character. -/
def tornSample : Sample :=
  { name := "m"
    value := "1"
    updatedAt := "2026-01-20" ++ .ofNat 0xD800 :: CodeText.ofString "10:15:00" }

/-- Sources that have samples, run out of time, fail, have torn samples, or answer while a shutdown
is requested. -/
def unsettled : Surroundings (String → Nat) :=
  .scripted fun id =>
    let sample : Sample := { name := "m", value := "1", updatedAt := "2026-01-20T10:15:00Z" }
    if id = "good" then some (.constant sample)
    else if id = "slow" then some (.constant { sample with value := Sample.timeoutValue })
    else if id = "failing" then
      some fun _ _ => .plain (.error (.source ⟨.transport, id, "down"⟩))
    else if id = "torn" then some (.constant tornSample)
    else if id = "last" then some fun _ _ => { Reply.plain (.ok (some sample)) with stops := true }
    else none

/-- Requests for all of them, and for a source that there is not.  The torn sample is not to be
kept. -/
def scattered : List Request :=
  [⟨"good", "m", none, 1000⟩, ⟨"slow", "m", some .zero, 1000⟩, ⟨"gone", "m", none, 5⟩,
    ⟨"failing", "m", some .zero, 1000⟩, ⟨"torn", "m", none, 0⟩, ⟨"good", "m", none, 7⟩,
    ⟨"last", "m", none, 1000⟩, ⟨"last", "n", some .zero, 1000⟩]

/-- A worker that has done nothing yet, with a store that is down. -/
def Intake.offline : Intake (String → Nat) :=
  { unused with
    store := { Store.empty with readFailure := some "down", writeFailure := some "down" } }

theorem offline_uncaches : Intake.offline.Uncaches .unused where
  bare := rfl
  down := ⟨⟨"down", rfl⟩, ⟨"down", rfl⟩⟩
  empty := rfl

theorem outage_of_scattered :
    (Call.rows unsettled ⟨scattered, .offline⟩).isOk = true ∧
      Call.rows unsettled ⟨scattered, .offline⟩ =
        Call.rows unsettled ⟨scattered.map Request.uncached, .unused⟩ ∧
      (Intake.offline.process unsettled scattered).2.events =
        (Intake.unused.process unsettled (scattered.map Request.uncached)).2.events ∧
      (Intake.offline.process unsettled scattered).2.metrics.counts = ⟨5, 0, 2⟩ := by
  have hw : ∀ v ∈ Call.visits unsettled ⟨scattered, .offline⟩, v.unwritable = false := by
    decide +kernel
  have h := outage_uncaches unsettled offline_uncaches scattered
  refine ⟨?_, h.rows hw, Intake.eq_of_bare Intake.events (fun _ => rfl) (h.after hw), ?_⟩
  · decide +kernel
  · decide +kernel

/-- If the torn sample is to be kept, the batch raises while the store is down, and has a row if
nothing is kept. -/
theorem outage_torn :
    (¬ ∀ (s : Surroundings (String → Nat)) (k k' : Intake (String → Nat)), k.Uncaches k' →
      ∀ batch, Call.rows s ⟨batch, k⟩ = Call.rows s ⟨batch.map Request.uncached, k'⟩) ∧
    Call.rows unsettled ⟨[⟨"torn", "m", none, 5⟩], .offline⟩ =
      .error (.fault (.unwritable ⟨10, 0, 0⟩)) ∧
    (Call.rows unsettled ⟨[⟨"torn", "m", none, 0⟩], .unused⟩).isOk = true := by
  have hraises : Call.rows unsettled ⟨[⟨"torn", "m", none, 5⟩], .offline⟩ =
      .error (.fault (.unwritable ⟨10, 0, 0⟩)) := by
    decide +kernel
  have hrow : (Call.rows unsettled ⟨[⟨"torn", "m", none, 0⟩], .unused⟩).isOk = true := by
    decide +kernel
  refine ⟨fun h => ?_, hraises, hrow⟩
  have hsame := h unsettled .offline .unused offline_uncaches [⟨"torn", "m", none, 5⟩]
  rw [hraises] at hsame
  rw [show Call.rows unsettled ⟨[⟨"torn", "m", none, 0⟩], .unused⟩ = _ from hsame.symm] at hrow
  cases hrow

end MetricIntake
