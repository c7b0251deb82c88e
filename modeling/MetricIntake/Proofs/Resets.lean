import MetricIntake.Proofs.Replies
import MetricIntake.Proofs.View

/-!
# Resets cannot be seen

What clients and caches there are cannot be seen from outside, except that they are found:
`resets_transparent`.  `Intake.outward` is what can be seen, and the proof is a simulation: intakes
that look alike do so after the same batch, which has the same rows for both (`process_same`),
provided that clients are as the surroundings would build them again (`Intake.Faithful`).  To forget
clients and caches keeps both.
-/

namespace MetricIntake

variable {ω : Type} {s : Surroundings ω} {answer : String → String → UtcTime → Reply}

/-! ### What can be seen -/

/-- What a source is asked for, and what is requested over HTTP. -/
inductive Deed
  | asked (id name : String)
  | requested (r : HttpRequest)
deriving DecidableEq

/-- What is done, unless it is to find a client or its cache. -/
def Event.deed? : Event → Option Deed
  | .asked _ id name => some (.asked id name)
  | .requested r => some (.requested r)
  | .built _ => none
  | .connected _ => none

/-- What can be seen of an intake, records aside. -/
structure Outward where
  store : Store
  clock : Clock
  stopping : Bool
  metrics : Metrics
  deeds : List Deed

/-- What can be seen of the intake. -/
def Intake.outward (k : Intake ω) : Outward :=
  { store := k.store
    clock := k.clock
    stopping := k.stopping
    metrics := k.metrics
    deeds := k.events.filterMap Event.deed? }

/-- What can be seen after a source was asked. -/
def Outward.fetch (o : Outward) (id name : String) (reply : Reply) : Outward :=
  let (started, clock) := o.clock.read
  let (stopped, clock) := (clock.pass reply.took).read
  { store := o.store
    clock
    stopping := o.stopping || reply.stops
    metrics := o.metrics.record (Intake.timerName id) (Clock.elapsedMillis started stopped)
    deeds := o.deeds ++ .asked id name :: reply.requests.map .requested }

namespace Intake

variable (k : Intake ω)

theorem fetch_outward (client : Client ω) (name : String) :
    (k.fetch client name).2.outward =
      k.outward.fetch client.source.id name (k.replyOf client name) := by
  have hrequested : ((k.replyOf client name).requests.map Event.requested).filterMap Event.deed? =
      (k.replyOf client name).requests.map .requested := by
    rw [List.filterMap_map]
    exact congrFun (List.filterMap_eq_map (f := Deed.requested)) _
  have hdeeds : ((k.fetch client name).2.events).filterMap Event.deed? =
      k.events.filterMap Event.deed? ++
        .asked client.source.id name :: (k.replyOf client name).requests.map .requested := by
    rw [fetch_events, List.filterMap_append, ← hrequested]
    rfl
  have hclock : (k.fetch client name).2.clock =
      ((k.clock.read.2.pass (k.replyOf client name).took).read).2 := by
    simp [fetch, emit, replyOf, Clock.read]
  have hmetrics : (k.fetch client name).2.metrics =
      k.metrics.record (timerName client.source.id) (Clock.elapsedMillis k.clock.read.1
        ((k.clock.read.2.pass (k.replyOf client name).took).read).1) := by
    simp [fetch, emit, replyOf, Clock.read]
  rw [outward, hdeeds, hclock, hmetrics, fetch_store, fetch_stopping]
  rfl

/-- To find a client or a cache cannot be seen. -/
theorem filterMap_deed?_of_isBinding {events more : List Event}
    (h : ∀ e ∈ more, e.isBinding = true) :
    (events ++ more).filterMap Event.deed? = events.filterMap Event.deed? := by
  have hnone : more.filterMap Event.deed? = [] := by
    rw [List.filterMap_eq_nil_iff]
    intro e he
    have hbinds := h e he
    cases e with
    | built id => rfl
    | connected url => rfl
    | asked profile id name => cases hbinds
    | requested r => cases hbinds
  rw [List.filterMap_append, hnone, List.append_nil]

theorem resolve_outward (id : String) : (k.resolve s id).2.outward = k.outward := by
  obtain ⟨more, hevents, hmore⟩ := k.resolve_events s id
  have h := eq_of_quiet outward (fun _ => rfl) (k.resolve_quiet s id)
  rw [h, hevents]
  show ({ k.outward with deeds := _ } : Outward) = k.outward
  rw [filterMap_deed?_of_isBinding hmore]
  rfl

theorem cacheOf_outward (client : Client ω) : (k.cacheOf s client).2.outward = k.outward := by
  obtain ⟨more, hevents, hmore⟩ := k.cacheOf_events s client
  have h := eq_of_quiet outward (fun _ => rfl) (k.cacheOf_quiet s client)
  rw [h, hevents]
  show ({ k.outward with deeds := _ } : Outward) = k.outward
  rw [filterMap_deed?_of_isBinding hmore]
  rfl

end Intake

/-! ### One request -/

/-- A request looks the same from outside. -/
structure Visit.Same (v v' : Visit ω) : Prop where
  request : v.request = v'.request
  answer : v.answer = v'.answer
  before : v.before.outward = v'.before.outward
  after : v.after.outward = v'.after.outward

/-- What can be seen after a request. -/
theorem Visit.after_outward (v : Visit ω) :
    v.after.outward =
      { v.asked.outward with
        store := v.storeOf v.fate
        metrics := v.fate.tally v.asked.metrics } :=
  Intake.eq_of_quiet Intake.outward (fun _ => rfl) v.processRequest_eq.2

/-- A request looks the same if it goes to the same cache and to sources that answer alike. -/
theorem Visit.same_of_outward_eq {v v' : Visit ω} {id : String}
    (hrequest : v.request = v'.request) (hcache : v.cache = v'.cache)
    (hid : v.client.source.id = id) (hid' : v'.client.source.id = id)
    (hanswers : v.client.source.Answers (answer id))
    (hanswers' : v'.client.source.Answers (answer id))
    (h : v.before.outward = v'.before.outward) : v.Same v' := by
  have hstore : v.before.store = v'.before.store := congrArg Outward.store h
  have hnow : v.before.clock.now = v'.before.clock.now := congrArg (·.clock.now) h
  have hreply : v.reply = v'.reply := by
    rw [reply_of_answers hanswers, reply_of_answers hanswers', hrequest, hnow]
  have halike : v.Alike v' := by
    refine ⟨hrequest, ?_, congrArg Outward.stopping h, hnow, hreply, ?_⟩
    · rw [cached, cached, hcache, hstore, hrequest]
    · rw [hstore]
  have hasked : v.asked.outward = v'.asked.outward := by
    rw [asked, asked, halike.asks_eq]
    split
    · have hreplyOf : v.before.replyOf v.client v.request.name =
          v'.before.replyOf v'.client v'.request.name := hreply
      rw [Intake.fetch_outward, Intake.fetch_outward, h, hid, hid', hreplyOf, hrequest]
    · exact h
  have hentry : v.storeOf v.fate = v'.storeOf v'.fate := by
    rw [storeOf, storeOf, halike.entryOf_eq, hstore, storeKey, storeKey, hcache, hrequest]
  refine ⟨hrequest, halike.answer_eq, h, ?_⟩
  have hmetrics : v.asked.metrics = v'.asked.metrics := congrArg Outward.metrics hasked
  rw [v.after_outward, v'.after_outward, hasked, hentry, halike.fate_eq, hmetrics]

/-- The requests of a source look the same. -/
theorem processRequests_same {id : String} {client client' : Client ω} {cache : Cache}
    (hid : client.source.id = id) (hid' : client'.source.id = id)
    (hanswers : client.source.Answers (answer id))
    (hanswers' : client'.source.Answers (answer id)) (requests : List Request) {k k' : Intake ω}
    (h : k.outward = k'.outward) :
    (k.processRequests client cache requests).1 = (k'.processRequests client' cache requests).1 ∧
      (k.processRequests client cache requests).2.outward =
        (k'.processRequests client' cache requests).2.outward ∧
      List.Forall₂ Visit.Same (visitsOf client cache requests k)
        (visitsOf client' cache requests k') := by
  induction requests generalizing k k' with
  | nil => exact ⟨rfl, h, .nil⟩
  | cons r rest ih =>
    let v : Visit ω := { request := r, client, cache, before := k }
    let v' : Visit ω := { request := r, client := client', cache, before := k' }
    have hsame : v.Same v' :=
      Visit.same_of_outward_eq rfl rfl hid hid' hanswers hanswers' h
    cases hv : v.answer with
    | error f =>
      obtain ⟨hp, hvs⟩ := processRequests_of_error hv rest
      obtain ⟨hp', hvs'⟩ := processRequests_of_error (hsame.answer.symm.trans hv) rest
      rw [hp, hp', hvs, hvs']
      exact ⟨rfl, hsame.after, .cons hsame .nil⟩
    | ok reading? =>
      obtain ⟨hp, hvs⟩ := processRequests_of_ok hv rest
      obtain ⟨hp', hvs'⟩ := processRequests_of_ok (hsame.answer.symm.trans hv) rest
      obtain ⟨hrows, hafter, hvisits⟩ := ih hsame.after
      rw [hp, hp', hvs, hvs']
      exact ⟨congrArg (Except.map _) hrows, hafter, .cons hsame hvisits⟩

/-! ### Clients as they would be built again -/

/-- For each id a source that answers as `answer` says can always be built, or never for the same
reason, and the store can always be reached. -/
structure Surroundings.Stable (s : Surroundings ω) (answer : String → String → UtcTime → Reply) :
    Prop where
  builds : ∀ id, s.Builds id (answer id) ∨ ∃ f, ∀ w, (s.build id w).1 = .error f
  connects : ∀ w, (s.connect w).1 = .ok ()

/-- A source that was built can be built again. -/
theorem Surroundings.Stable.of_ok (hs : s.Stable answer) {id : String} {w : ω} {source : Source ω}
    (h : (s.build id w).1 = .ok source) :
    source.id = id ∧ source.Answers (answer id) ∧ s.Builds id (answer id) := by
  rcases hs.builds id with hbuilds | ⟨f, hf⟩
  · obtain ⟨hid, hanswers⟩ := hbuilds.of_ok h
    exact ⟨hid, hanswers, hbuilds⟩
  · rw [hf] at h
    cases h

/-- Clients and caches are bound as they should be, and could be found again. -/
structure Intake.Faithful (s : Surroundings ω) (answer : String → String → UtcTime → Reply)
    (k : Intake ω) : Prop where
  sound : k.Sound s
  binds : k.BindsOnly fun id source => source.Answers (answer id) ∧ s.Builds id (answer id)

namespace Intake.Faithful

variable {k k' : Intake ω}

theorem of_empty (hresolver : k.resolver = .empty) (hcaches : k.caches = .empty) :
    k.Faithful s answer := by
  refine ⟨?_, .of_empty hresolver⟩
  exact (Sound.fresh s k.outside k.store k.clock "").congr hresolver hcaches

theorem trail (hs : s.Stable answer) {m : Intake ω} {vs : List (Visit ω)} (h : k.Faithful s answer)
    (htrail : Trail s k vs m) : m.Faithful s answer := by
  refine ⟨htrail.sound ?_ h.sound, htrail.bindsOnly ?_ h.binds⟩
  · exact fun id w source hbuild => (hs.of_ok hbuild).1
  · exact fun id w source hbuild => (hs.of_ok hbuild).2

theorem reset (h : k.Faithful s answer) (id? : Option String) : (k.reset id?).Faithful s answer :=
  ⟨h.sound.reset id?, h.binds.reset id?⟩

/-- A source that cannot be built has no client. -/
theorem client?_eq_none (h : k.Faithful s answer) {id : String} {f : Failure}
    (hf : ∀ w, (s.build id w).1 = .error f) : k.resolver.client? id = none := by
  rw [Option.eq_none_iff_forall_ne_some]
  intro client hclient
  obtain ⟨source, hbuild, -⟩ := (h.binds hclient).2 k.outside
  rw [hf] at hbuild
  cases hbuild

end Intake.Faithful

/-- If the store can always be reached, every client finds a cache. -/
theorem Surroundings.Stable.exists_cacheOf (hs : s.Stable answer) (k : Intake ω)
    (client : Client ω) : ∃ bound, (k.cacheOf s client).1 = .ok bound := by
  cases h : k.caches.cache? client.serial with
  | some bound => exact ⟨bound, by rw [Intake.cacheOf_of_some h]⟩
  | none => exact (Intake.cacheOf_of_none h (hs.connects _)).1

/-- Two intakes find clients of the source that answer alike, or none for the same reason. -/
inductive LikeClient (answer : String → String → UtcTime → Reply) (id : String) :
    Except Failure (Option (Client ω)) → Except Failure (Option (Client ω)) → Prop
  | raised (f : Failure) : LikeClient answer id (.error f) (.error f)
  | missing : LikeClient answer id (.ok none) (.ok none)
  | found {client client' : Client ω} (h : client.source.Answers (answer id))
    (h' : client'.source.Answers (answer id)) :
    LikeClient answer id (.ok (some client)) (.ok (some client'))

/-- What becomes of the search for a client does not depend on what was found before. -/
theorem Intake.Faithful.resolve_like (hs : s.Stable answer) {k k' : Intake ω}
    (hk : k.Faithful s answer) (hk' : k'.Faithful s answer) (id : String) :
    LikeClient answer id (k.resolve s id).1 (k'.resolve s id).1 := by
  rcases hs.builds id with hbuilds | ⟨f, hf⟩
  · obtain ⟨client, hclient⟩ := Intake.resolve_of_builds hbuilds k
    obtain ⟨client', hclient'⟩ := Intake.resolve_of_builds hbuilds k'
    rw [hclient, hclient']
    have hafter := hk.trail hs (.single (.resolve k id))
    have hafter' := hk'.trail hs (.single (.resolve k' id))
    exact .found (hafter.binds (Intake.client?_of_resolve hclient)).1
      (hafter'.binds (Intake.client?_of_resolve hclient')).1
  · have hfound := (Intake.resolve_of_none (s := s) (hk.client?_eq_none hf)).1
    have hfound' := (Intake.resolve_of_none (s := s) (hk'.client?_eq_none hf)).1
    rw [hf] at hfound hfound'
    have hsame := SameClient.of_map_eq (hfound.trans hfound'.symm)
    generalize (k.resolve s id).1 = result at hsame hfound
    generalize (k'.resolve s id).1 = result' at hsame
    cases hsame with
    | raised f => exact .raised f
    | missing => exact .missing
    | found _ => cases f <;> cases hfound

/-! ### Turns and batches -/

/-- The turn of a source looks the same. -/
theorem Turn.same (hs : s.Stable answer) {id : String} (requests : List Request) {k k' : Intake ω}
    (hk : k.Faithful s answer) (hk' : k'.Faithful s answer) (h : k.outward = k'.outward) :
    (mk id requests k).rows s = (mk id requests k').rows s ∧
      ((mk id requests k).after s).outward = ((mk id requests k').after s).outward ∧
      List.Forall₂ Visit.Same ((mk id requests k).visits s) ((mk id requests k').visits s) := by
  have hresolve : (k.resolve s id).2.outward = (k'.resolve s id).2.outward := by
    rw [Intake.resolve_outward, Intake.resolve_outward, h]
  have hlike := hk.resolve_like hs hk' id
  generalize hc : (k.resolve s id).1 = found at hlike
  generalize hc' : (k'.resolve s id).1 = found' at hlike
  cases hlike with
  | raised f =>
    obtain ⟨hrows, hvisits, hafter⟩ := eq_of_error (t := mk id requests k) hc
    obtain ⟨hrows', hvisits', hafter'⟩ := eq_of_error (t := mk id requests k') hc'
    rw [hrows, hrows', hvisits, hvisits', hafter, hafter']
    exact ⟨rfl, hresolve, .nil⟩
  | missing =>
    obtain ⟨hrows, hvisits, records, hafter⟩ := eq_of_none (t := mk id requests k) hc
    obtain ⟨hrows', hvisits', records', hafter'⟩ := eq_of_none (t := mk id requests k') hc'
    rw [hrows, hrows', hvisits, hvisits', hafter, hafter']
    refine ⟨rfl, ?_, .nil⟩
    exact congrArg (fun o : Outward => { o with metrics := o.metrics.add .failed }) hresolve
  | @found client client' hanswers hanswers' =>
    have hbound := Intake.client?_of_resolve hc
    have hbound' := Intake.client?_of_resolve hc'
    have hfaithful := hk.trail hs (.single (.resolve k id))
    have hfaithful' := hk'.trail hs (.single (.resolve k' id))
    -- both find the cache of the source, since the store can be reached
    obtain ⟨_, hok⟩ := hs.exists_cacheOf (k.resolve s id).2 client
    obtain ⟨_, hok'⟩ := hs.exists_cacheOf (k'.resolve s id).2 client'
    obtain ⟨f, hf, -⟩ | ⟨bound, hb, hrows, hafter, hvisits⟩ :=
      eq_of_some (t := mk id requests k) hc
    · cases hok.symm.trans hf
    obtain ⟨f, hf, -⟩ | ⟨bound', hb', hrows', hafter', hvisits'⟩ :=
      eq_of_some (t := mk id requests k') hc'
    · cases hok'.symm.trans hf
    have hcache : bound.cache = bound'.cache := by
      rw [hfaithful.sound.cache_of_cacheOf hbound hb,
        hfaithful'.sound.cache_of_cacheOf hbound' hb']
    have hconnect : ((k.resolve s id).2.cacheOf s client).2.outward =
        ((k'.resolve s id).2.cacheOf s client').2.outward := by
      rw [Intake.cacheOf_outward, Intake.cacheOf_outward, hresolve]
    rw [hrows, hrows', hafter, hafter', hvisits, hvisits', ← hcache]
    exact processRequests_same (hfaithful.sound.carries hbound)
      (hfaithful'.sound.carries hbound') hanswers hanswers' requests hconnect

/-- The turns of some sources look the same. -/
theorem processSources_same (hs : s.Stable answer) (batch : List Request) (ids : List String)
    {k k' : Intake ω} (hk : k.Faithful s answer) (hk' : k'.Faithful s answer)
    (h : k.outward = k'.outward) :
    (k.processSources s batch ids).1 = (k'.processSources s batch ids).1 ∧
      (k.processSources s batch ids).2.outward = (k'.processSources s batch ids).2.outward ∧
      List.Forall₂ Visit.Same ((turnsOf s batch ids k).flatMap (·.visits s))
        ((turnsOf s batch ids k').flatMap (·.visits s)) := by
  induction ids generalizing k k' with
  | nil => exact ⟨rfl, h, .nil⟩
  | cons id ids ih =>
    obtain ⟨hrows, hafter, hvisits⟩ := Turn.same hs (requestsOf id batch) hk hk' h
    have hsource : ∀ r ∈ requestsOf id batch, r.source = id :=
      fun r hr => (mem_requestsOf.1 hr).2
    obtain ⟨ihrows, ihafter, ihvisits⟩ :=
      ih (hk.trail hs (trail_turn ⟨id, requestsOf id batch, k⟩ hsource))
        (hk'.trail hs (trail_turn ⟨id, requestsOf id batch, k'⟩ hsource)) hafter
    rw [processSources_cons, processSources_cons, turnsOf, turnsOf, List.flatMap_cons,
      List.flatMap_cons]
    refine ⟨?_, ihafter, List.rel_append hvisits ihvisits⟩
    dsimp only
    rw [hrows, ihrows]

/-- A batch looks the same: it has the same rows or raises the same failure, and each of its
requests looks the same. -/
structure Call.Same (s : Surroundings ω) (c c' : Call ω) : Prop where
  batch : c.batch = c'.batch
  rows : c.rows s = c'.rows s
  before : c.before.outward = c'.before.outward
  after : (c.before.process s c.batch).2.outward = (c'.before.process s c'.batch).2.outward
  visits : List.Forall₂ Visit.Same (c.visits s) (c'.visits s)

/-- **What a batch comes to** does not depend on which clients and caches were found before. -/
theorem process_same (hs : s.Stable answer) (batch : List Request) {k k' : Intake ω}
    (hk : k.Faithful s answer) (hk' : k'.Faithful s answer) (h : k.outward = k'.outward) :
    Call.Same s ⟨batch, k⟩ ⟨batch, k'⟩ := by
  obtain ⟨hrows, hafter, hvisits⟩ :=
    processSources_same hs batch (batchSources batch) hk hk' h
  exact ⟨rfl, congrArg Intake.gather hrows, h, hafter, hvisits⟩

/-! ### Runs -/

/-- The command is to forget clients. -/
def Command.isReset : Command ω → Bool
  | .reset _ => true
  | _ => false

/-- A run without its resets. -/
def withoutResets (commands : List (Command ω)) : List (Command ω) :=
  commands.filter (!·.isReset)

theorem Intake.elapse_outward {k k' : Intake ω} (h : k.outward = k'.outward) (i : Interlude ω) :
    (k.elapse i).outward = (k'.elapse i).outward :=
  congrArg (fun o : Outward =>
    { o with
      clock := i.clock o.clock
      store := { i.expired.foldl Store.erase o.store with
        readFailure := i.readFailure
        writeFailure := i.writeFailure } }) h

/-- Runs look the same from intakes that look the same, with resets and without. -/
theorem run_same (hs : s.Stable answer) (commands : List (Command ω)) {k k' : Intake ω}
    (hk : k.Faithful s answer) (hk' : k'.Faithful s answer) (h : k.outward = k'.outward) :
    (k.run s commands).outward = (k'.run s (withoutResets commands)).outward ∧
      List.Forall₂ (Call.Same s) (calls s commands k)
        (calls s (withoutResets commands) k') := by
  induction commands generalizing k k' with
  | nil => exact ⟨h, .nil⟩
  | cons command rest ih =>
    cases command with
    | process batch =>
      have hcall := process_same hs batch hk hk' h
      obtain ⟨hend, hcalls⟩ := ih (hk.trail hs (trail_call ⟨batch, k⟩))
        (hk'.trail hs (trail_call ⟨batch, k'⟩)) hcall.after
      exact ⟨hend, .cons hcall hcalls⟩
    | reset id? =>
      -- only one of the two runs forgets clients, which cannot be seen
      exact ih (hk.reset id?) hk' h
    | trigger =>
      exact ih (hk.trail hs (.single (.trigger k))) (hk'.trail hs (.single (.trigger k')))
        (congrArg (fun o : Outward => { o with stopping := true }) h)
    | elapse i =>
      exact ih (hk.trail hs (.single (.elapse k i))) (hk'.trail hs (.single (.elapse k' i)))
        (Intake.elapse_outward h i)

/-- **Resets cannot be seen**: if for each id a source that answers as `answer` says can always be
built, or never for the same reason, and the store can always be reached, then a run from an intake
without clients and caches looks the same from outside as the run without its resets.  Each batch
has the same rows or raises the same failure, and before and after each batch and each request the
store, the clock, the flag, the counts and the timers are the same, and so is what the sources were
asked for so far. -/
theorem resets_transparent (hs : s.Stable answer) {k : Intake ω} (hresolver : k.resolver = .empty)
    (hcaches : k.caches = .empty) (commands : List (Command ω)) :
    (k.run s commands).outward = (k.run s (withoutResets commands)).outward ∧
      List.Forall₂ (Call.Same s) (calls s commands k) (calls s (withoutResets commands) k) :=
  run_same hs commands (.of_empty hresolver hcaches) (.of_empty hresolver hcaches) rfl

/-- Sources that reply as their scripts say, whatever they were asked before, are stable. -/
theorem Surroundings.scripted_stable {scripts : String → Option Script}
    {answer : String → String → Reply}
    (h : ∀ id script, scripts id = some script → script = .steady (answer id)) :
    (Surroundings.scripted scripts).Stable fun id name _ => answer id name := by
  refine ⟨?_, fun w => rfl⟩
  intro id
  cases hscript : scripts id with
  | some script =>
    exact .inl (scripted_builds (hscript.trans (congrArg some (h id script hscript))))
  | none =>
    refine .inr ⟨.source { kind := .config, source := id, message := "no script" }, fun w => ?_⟩
    unfold scripted
    dsimp only
    rw [hscript]

/-- Sources that have a sample of one metric, but for one that there is not. -/
def allButGone : Surroundings (String → Nat) :=
  .scripted fun id => if id = "gone" then none else some (.steady oneMetric)

/-- Batches with resets between them, before and after a shutdown. -/
def forgetful : List (Command (String → Nat)) :=
  [.process [⟨"a", "m", none, 1000⟩, ⟨"gone", "m", none, 0⟩, ⟨"b", "n", some .zero, 0⟩],
    .reset (some "a"), .process [⟨"a", "m", none, 0⟩, ⟨"a", "n", none, 0⟩, ⟨"b", "m", none, 0⟩],
    .trigger, .reset none, .process [⟨"a", "m", none, 0⟩, ⟨"a", "n", none, 0⟩]]

/-- The run finds more clients and caches than without its resets, and looks the same. -/
theorem resets_of_forgetful :
    (Intake.unused.run allButGone forgetful).outward =
        (Intake.unused.run allButGone (withoutResets forgetful)).outward ∧
      (Intake.unused.run allButGone forgetful).events.countP (·.isBinding) = 9 ∧
      (Intake.unused.run allButGone (withoutResets forgetful)).events.countP (·.isBinding) = 5 ∧
      (Intake.unused.run allButGone forgetful).metrics.counts = ⟨5, 1, 1⟩ := by
  have hscripts : ∀ id script,
      (if id = "gone" then none else some (Script.steady oneMetric)) = some script →
        script = .steady oneMetric := by
    intro id script h
    split at h
    · cases h
    · exact (Option.some.inj h).symm
  have hstable : allButGone.Stable fun _ name _ => oneMetric name :=
    Surroundings.scripted_stable hscripts
  refine ⟨(resets_transparent hstable rfl rfl forgetful).1, ?_, ?_, ?_⟩
  · decide +kernel
  · decide +kernel
  · decide +kernel

end MetricIntake
