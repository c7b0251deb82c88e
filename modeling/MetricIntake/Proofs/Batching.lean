import MetricIntake.Proofs.Replies
import MetricIntake.Proofs.Reports

/-!
# Batches that are split

If the replies of sources depend on the metric only, it makes no difference whether requests come in
one batch or in two: `process_append`.  In one batch all requests of a source have their turns
before those of the next one, in two batches the turns of the sources alternate.  What a source does
depends on nothing but its own requests in their order and its own entries (`Chained.shelf_eq`), and
nobody else changes these (`Call.chained_visitsFor`), so that its reports are the same in both.
-/

namespace MetricIntake

variable {ω : Type} {s : Surroundings ω} {answer : String → String → UtcTime → Reply}

/-! ### Conditions that stay -/

/-- What all requests depend on and none changes, unless it ends in a shutdown. -/
structure Conditions where
  stopping : Bool
  now : UtcTime
  readFailure : Option String
  writeFailure : Option String

/-- The conditions under which a request has its turn. -/
def Intake.conditions (k : Intake ω) : Conditions :=
  { stopping := k.stopping
    now := k.clock.now
    readFailure := k.store.readFailure
    writeFailure := k.store.writeFailure }

theorem byVisits_conditions (s : Surroundings ω) : ByVisits s Intake.conditions where
  say _ _ := rfl
  resolve k id := k.resolve_part s Intake.conditions (fun _ _ _ _ => rfl) id
  connect k client := k.cacheOf_part s Intake.conditions (fun _ _ _ _ => rfl) client
  miss _ := rfl

theorem byVisits_stopping (s : Surroundings ω) : ByVisits s Intake.stopping :=
  (byVisits_conditions s).comp Conditions.stopping

/-- The flag is never cleared. -/
theorem Chained.stopping_of_true {x y : Bool} {vs : List (Visit ω)}
    (h : Chained Intake.stopping x vs y) (hx : x = true) : y = true := by
  induction h with
  | nil x => exact hx
  | @cons x y v vs hv _ ih =>
    apply ih
    rw [v.after_stopping, hv, hx, Bool.true_or]

/-- If the flag is at the end as it was at the start, no visit changed it. -/
theorem Chained.stopping_eq {x : Bool} {vs : List (Visit ω)} (h : Chained Intake.stopping x vs x)
    {v : Visit ω} (hv : v ∈ vs) : v.after.stopping = v.before.stopping := by
  obtain ⟨past, rest, rfl⟩ := List.append_of_mem hv
  obtain ⟨hpast, hrest⟩ := h.split
  cases hbefore : v.before.stopping with
  | true => rw [v.after_stopping, hbefore, Bool.true_or]
  | false =>
    -- neither the start nor the end can be set, so that the visit does not set it
    have hx : x = false := by
      rw [hbefore] at hpast
      cases x with
      | false => rfl
      | true => cases hpast.stopping_of_true rfl
    cases hafter : v.after.stopping with
    | false => rfl
    | true =>
      rw [hafter, hx] at hrest
      cases hrest.stopping_of_true rfl

theorem Visit.after_conditions {v : Visit ω} (h : v.after.stopping = v.before.stopping) :
    v.after.conditions = v.before.conditions := by
  rw [Intake.conditions, Intake.conditions, h, v.after_now, v.after_failures.1, v.after_failures.2]

/-- If the flag does not change in a batch, all requests have their turns under the conditions of
its start. -/
theorem Call.conditions_eq {c : Call ω}
    (hflag : (c.before.process s c.batch).2.stopping = c.before.stopping) :
    (∀ v ∈ c.visits s, v.before.conditions = c.before.conditions) ∧
      (c.before.process s c.batch).2.conditions = c.before.conditions := by
  have hstopping := chained_call (byVisits_stopping s) c
  rw [hflag] at hstopping
  exact (chained_call (byVisits_conditions s) c).eq_of_forall fun v hv =>
    Visit.after_conditions (hstopping.stopping_eq hv)

/-! ### Requests under the same conditions -/

/-- A request that goes to the client and the cache of its own source, which answers as it should,
under some conditions. -/
structure Visit.Regular (s : Surroundings ω) (answer : String → String → UtcTime → Reply)
    (conditions : Conditions) (v : Visit ω) : Prop where
  cache : v.cache = s.cache v.request.source
  carries : v.client.source.id = v.request.source
  answers : v.client.source.Answers (answer v.request.source)
  conditions : v.before.conditions = conditions

/-- The entries under the keys of a source. -/
def Intake.shelf (s : Surroundings ω) (id : String) (k : Intake ω) : String → Option Entry :=
  fun key => k.store.get? ((s.cache id).storeKey key)

theorem byVisits_shelf (s : Surroundings ω) (id : String) : ByVisits s (Intake.shelf s id) :=
  (byVisits_store s).comp fun store key => store.get? ((s.cache id).storeKey key)

namespace Visit.Regular

variable {conditions : Conditions} {v v' : Visit ω}

theorem storeKey_eq (h : v.Regular s answer conditions) :
    v.storeKey = (s.cache v.request.source).storeKey v.request.cacheKey := by
  rw [storeKey, h.cache]

/-- The same request finds the same if the entries of its source are the same. -/
theorem alike (h : v.Regular s answer conditions) (h' : v'.Regular s answer conditions)
    (hrequest : v.request = v'.request)
    (hshelf : v.before.shelf s v.request.source = v'.before.shelf s v.request.source) :
    v.Alike v' := by
  have hconditions : v.before.conditions = v'.before.conditions :=
    h.conditions.trans h'.conditions.symm
  have hread : v.before.store.readFailure = v'.before.store.readFailure :=
    congrArg Conditions.readFailure hconditions
  have hnow : v.before.clock.now = v'.before.clock.now := congrArg Conditions.now hconditions
  have hget := congrFun hshelf v.request.cacheKey
  constructor
  · exact hrequest
  · rw [cached, cached, Cache.look, Cache.look, h.cache, h'.cache, ← hrequest, hread,
      show v.before.store.get? _ = _ from hget]
    rfl
  · exact congrArg Conditions.stopping hconditions
  · exact hnow
  · rw [reply_of_answers h.answers, reply_of_answers h'.answers, hrequest, hnow]
  · exact congrArg Conditions.writeFailure hconditions

/-- A request leaves the entries of other sources as they are. -/
theorem after_shelf_of_ne (h : v.Regular s answer conditions) {id : String}
    (hne : v.request.source ≠ id) (hid : ':' ∉ id.toList)
    (hsource : ':' ∉ v.request.source.toList) : v.after.shelf s id = v.before.shelf s id := by
  funext key
  apply v.after_get?_of_ne
  intro hkey
  rw [h.storeKey_eq] at hkey
  exact hne (storeKey_source_inj hid hsource hkey).1.symm

end Visit.Regular

/-- **What a source does** depends on nothing but its requests in their order and its entries. -/
theorem Chained.shelf_eq {conditions : Conditions} {id : String} {x y y' : String → Option Entry}
    {vs vs' : List (Visit ω)} (h : Chained (Intake.shelf s id) x vs y)
    (h' : Chained (Intake.shelf s id) x vs' y')
    (hrequests : vs.map (·.request) = vs'.map (·.request))
    (hvs : ∀ v ∈ vs, v.Regular s answer conditions ∧ v.request.source = id)
    (hvs' : ∀ v ∈ vs', v.Regular s answer conditions) :
    vs.map (·.report) = vs'.map (·.report) ∧ y = y' := by
  induction h generalizing vs' with
  | nil x =>
    obtain rfl := List.map_eq_nil_iff.1 hrequests.symm
    cases h' with
    | nil => exact ⟨rfl, rfl⟩
  | @cons x y v vs hx _ ih =>
    cases h' with
    | nil => cases hrequests
    | @cons _ _ v' vs' hx' h' =>
      obtain ⟨hfirst, hrest⟩ := List.cons.inj hrequests
      have hrequest : v.request = v'.request := hfirst
      obtain ⟨hv, hsource⟩ := hvs v List.mem_cons_self
      have hv' := hvs' v' List.mem_cons_self
      have hshelf : v.before.shelf s id = v'.before.shelf s id := hx.trans hx'.symm
      have halike : v.Alike v' := hv.alike hv' hrequest (hsource ▸ hshelf)
      have hkey : v.storeKey = v'.storeKey := by rw [hv.storeKey_eq, hv'.storeKey_eq, hrequest]
      have hafter : v.after.shelf s id = v'.after.shelf s id :=
        funext fun key => halike.after_get? hkey (congrFun hshelf key)
      rw [← hafter] at h'
      obtain ⟨hreports, hend⟩ := ih h' hrest (fun w hw => hvs w (List.mem_cons_of_mem _ hw))
        fun w hw => hvs' w (List.mem_cons_of_mem _ hw)
      refine ⟨?_, hend⟩
      rw [List.map_cons, List.map_cons, hreports, Visit.report, Visit.report, halike.request,
        halike.fate_eq, halike.asks_eq]

/-! ### Batches in which nothing goes wrong -/

/-- Nothing is raised, every source has a client, which answers as it should, and its own cache, and
the conditions stay. -/
structure Call.Smooth (s : Surroundings ω) (answer : String → String → UtcTime → Reply)
    (c : Call ω) : Prop where
  rows : ∃ rows, c.rows s = .ok rows
  found : ∀ t ∈ c.turns s, t.found s = true
  regular : ∀ v ∈ c.visits s, v.Regular s answer c.before.conditions
  conditions : (c.before.process s c.batch).2.conditions = c.before.conditions

namespace Call

variable {c : Call ω}

/-- A batch is smooth if its sources, as far as they can be built, carry their ids and answer as
they should. -/
theorem smooth_of_bindsOnly {sources : List String}
    (hbuild : ∀ ⦃id w source⦄, (s.build id w).1 = .ok source →
      id ∈ sources → source.AnswersFor id (answer id))
    (hsources : ∀ r ∈ c.batch, r.source ∈ sources) (hcoherent : c.before.Coherent s)
    (hbound : c.before.BindsOnly fun id source => id ∈ sources → source.AnswersFor id (answer id))
    (hfound : ∀ t ∈ c.turns s, t.found s = true) (hrows : ∃ rows, c.rows s = .ok rows)
    (hflag : (c.before.process s c.batch).2.stopping = c.before.stopping) :
    c.Smooth s answer := by
  obtain ⟨hconditions, hafter⟩ := conditions_eq hflag
  refine ⟨hrows, hfound, ?_, hafter⟩
  intro v hv
  obtain ⟨past, rest, hvisits⟩ := List.append_of_mem hv
  have htrail := trail_call (s := s) c
  rw [hvisits] at htrail
  obtain ⟨hpast, hattached, -⟩ := htrail.split
  obtain ⟨hcarries, hanswers⟩ :=
    hpast.bindsOnly hbuild hbound hattached.client (hsources _ (request_mem hv))
  refine ⟨?_, hcarries, hanswers, hconditions v hv⟩
  rw [(hpast.coherent hcoherent).cache_eq hattached, hcarries]

section Only

variable {ids : List String} (hids : ∀ r ∈ c.batch, c.before.HasOrIn ids r.source)

include hids

/-- A batch and its turns are the same if no other sources can be built. -/
theorem turns_only :
    c.turns (s.only ids) = c.turns s ∧
      c.before.process (s.only ids) c.batch = c.before.process s c.batch ∧
      ∀ t ∈ c.turns s, t.before.HasOrIn ids t.id := by
  have hneeded : ∀ id ∈ batchSources c.batch, c.before.HasOrIn ids id := by
    intro id hid
    obtain ⟨r, hr, rfl⟩ := mem_batchSources.1 hid
    exact hids r hr
  obtain ⟨hturns, hsources, hhas⟩ := turnsOf_only (s := s) c.batch hneeded
  refine ⟨hturns, ?_, hhas⟩
  rw [Intake.process, Intake.process, hsources]

theorem smooth_of_only (h : c.Smooth (s.only ids) answer) : c.Smooth s answer := by
  obtain ⟨hturns, hprocess, hhas⟩ := turns_only (s := s) hids
  have hturn : ∀ t ∈ c.turns s, t.before.resolve (s.only ids) t.id = t.before.resolve s t.id :=
    fun t ht => Intake.resolve_only (hhas t ht)
  have hvisits : c.visits (s.only ids) = c.visits s := by
    rw [visits, hturns]
    apply List.flatMap_congr
    intro t ht
    rw [Turn.visits, hturn t ht]
    rfl
  refine ⟨?_, ?_, ?_, ?_⟩
  · rw [rows, ← hprocess]
    exact h.rows
  · intro t ht
    rw [Turn.found, Turn.client?, ← hturn t ht]
    exact h.found t (hturns ▸ ht)
  · intro v hv
    obtain ⟨hcache, hcarries, hanswers, hconditions⟩ := h.regular v (hvisits ▸ hv)
    exact ⟨hcache, hcarries, hanswers, hconditions⟩
  · rw [← hprocess]
    exact h.conditions

end Only

end Call

/-- Some sources have clients that answer as they should, or can be given such ones. -/
structure Intake.Ready (s : Surroundings ω) (answer : String → String → UtcTime → Reply)
    (ids sources : List String) (k : Intake ω) : Prop where
  coherent : k.Coherent s
  binds : k.BindsOnly fun id source => id ∈ sources → source.AnswersFor id (answer id)
  has : ∀ id ∈ sources, k.HasOrIn ids id

/-- A batch for such sources is smooth if it does not raise and the flag does not change, and the
sources can still do with the same ones built. -/
theorem Call.smooth_of_ready {c : Call ω} {ids sources : List String}
    (hbuilds : ∀ id ∈ ids, s.Builds id (answer id)) (h : c.before.Ready s answer ids sources)
    (hsources : ∀ r ∈ c.batch, r.source ∈ sources) (hrows : ∃ rows, c.rows s = .ok rows)
    (hflag : (c.before.process s c.batch).2.stopping = c.before.stopping) :
    c.Smooth s answer ∧ (c.before.process s c.batch).2.Ready s answer ids sources := by
  have hids : ∀ r ∈ c.batch, c.before.HasOrIn ids r.source := fun r hr => h.has _ (hsources r hr)
  obtain ⟨hturns, hprocess, hhas⟩ := turns_only (s := s) hids
  -- the sources of the batch are all that is needed, and they carry their ids
  have hbuild : ∀ ⦃id w source⦄, ((s.only ids).build id w).1 = .ok source →
      id ∈ sources → source.AnswersFor id (answer id) := by
    intro id w source hbuild _
    obtain ⟨hid, hbuild⟩ := Surroundings.of_only_build hbuild
    exact (hbuilds id hid).of_ok hbuild
  have hfound : ∀ t ∈ c.turns (s.only ids), t.found (s.only ids) = true := by
    intro t ht
    rw [hturns] at ht
    rw [Turn.found, Turn.client?, Intake.resolve_only (hhas t ht)]
    rcases hhas t ht with hid | ⟨client, hclient⟩
    · obtain ⟨client, hclient⟩ := Intake.resolve_of_builds (hbuilds t.id hid) t.before
      rw [hclient]
    · rw [Intake.resolve_of_some hclient]
  have htrail := trail_call (s := s.only ids) c
  rw [hprocess] at htrail
  refine ⟨smooth_of_only hids (smooth_of_bindsOnly hbuild hsources (h.coherent.of_cache_eq rfl)
    h.binds hfound ?_ ?_), ?_, ?_, ?_⟩
  · rw [rows, hprocess]
    exact hrows
  · rw [hprocess]
    exact hflag
  · exact (trail_call c).coherent h.coherent
  · exact htrail.bindsOnly hbuild h.binds
  · intro id hid
    rcases h.has id hid with hin | ⟨client, hclient⟩
    · exact .inl hin
    · exact .inr ⟨client, process_keeps hclient _⟩

namespace Call

variable {c : Call ω}

namespace Smooth

theorem carries (h : c.Smooth s answer) :
    ∀ v ∈ c.visits s, v.client.source.id = v.request.source :=
  fun v hv => (h.regular v hv).carries

/-- The entries of a source are handed on from each of its requests to the next. -/
theorem chained_visitsFor (h : c.Smooth s answer) (hcolons : ∀ r ∈ c.batch, ':' ∉ r.source.toList)
    {id : String} (hid : ':' ∉ id.toList) :
    Chained (Intake.shelf s id) (c.before.shelf s id) (c.visitsFor s id)
      ((c.before.process s c.batch).2.shelf s id) :=
  (chained_call (byVisits_shelf s id) c).filter _ fun v hv hne =>
    (h.regular v hv).after_shelf_of_ne (of_decide_eq_false hne) hid (hcolons _ (request_mem hv))

theorem regular_of_mem {v : Visit ω} {id : String} (h : c.Smooth s answer)
    (hv : v ∈ c.visitsFor s id) :
    v.Regular s answer c.before.conditions ∧ v.request.source = id := by
  obtain ⟨hv, hsource⟩ := List.mem_filter.1 hv
  exact ⟨h.regular v hv, of_decide_eq_true hsource⟩

/-- An entry that is under no key of a source without colons stays as it is. -/
theorem get?_eq (h : c.Smooth s answer) (hcolons : ∀ r ∈ c.batch, ':' ∉ r.source.toList)
    {key : String}
    (hkey : ∀ id, ':' ∉ id.toList → ∀ key', key ≠ (s.cache id).storeKey key') :
    (c.before.process s c.batch).2.store.get? key = c.before.store.get? key := by
  have hchain := chained_call ((byVisits_store s).comp (Store.get? · key)) c
  refine (hchain.eq_of_forall fun v hv => v.after_get?_of_ne ?_).2
  rw [(h.regular v hv).storeKey_eq]
  exact hkey _ (hcolons _ (request_mem hv)) _

end Smooth

end Call

/-! ### One batch and two -/

/-- Lists are the same up to their order if their parts for each key are the same. -/
theorem perm_of_filter_eq {α κ : Type} [DecidableEq α] [DecidableEq κ] (key : α → κ)
    {l l' : List α} (h : ∀ x, l.filter (key · = x) = l'.filter (key · = x)) : l.Perm l' := by
  rw [List.perm_iff_count]
  intro a
  have hcount : ∀ m : List α, (m.filter (key · = key a)).count a = m.count a :=
    fun m => List.count_filter (decide_eq_true rfl)
  rw [← hcount l, h, hcount l']

/-- Two intakes cannot be told apart by their stores, their counts, how often their timers were
used, and the metrics that each source was asked for. -/
structure Intake.Agrees (k k' : Intake ω) : Prop where
  entries : ∀ key, k.store.get? key = k'.store.get? key
  readFailure : k.store.readFailure = k'.store.readFailure
  writeFailure : k.store.writeFailure = k'.store.writeFailure
  counts : k.metrics.counts = k'.metrics.counts
  timed : ∀ timer, (k.metrics.latency timer).count = (k'.metrics.latency timer).count
  asked : ∀ id, k.events.filterMap (·.metricOf? id) = k'.events.filterMap (·.metricOf? id)

theorem Counts.ext_get {c c' : Counts} (h : ∀ o, c.get o = c'.get o) : c = c' := by
  obtain ⟨succeeded, noData, failed⟩ := c
  obtain ⟨succeeded', noData', failed'⟩ := c'
  have hs : succeeded = succeeded' := h .succeeded
  have hn : noData = noData' := h .noData
  have hf : failed = failed' := h .failed
  rw [hs, hn, hf]

section Append

variable {k : Intake ω} {b₁ b₂ : List Request}
  (hwhole : Call.Smooth s answer ⟨b₁ ++ b₂, k⟩) (hfirst : Call.Smooth s answer ⟨b₁, k⟩)
  (hsecond : Call.Smooth s answer ⟨b₂, (k.process s b₁).2⟩)
  (hcolons : ∀ r ∈ b₁ ++ b₂, ':' ∉ r.source.toList)

include hwhole hfirst hsecond hcolons

/-- A source does the same in one batch and in two. -/
theorem visitsFor_append {id : String} (hid : ':' ∉ id.toList) :
    (Call.visitsFor s ⟨b₁ ++ b₂, k⟩ id).map (·.report) =
        (Call.visitsFor s ⟨b₁, k⟩ id).map (·.report) ++
          (Call.visitsFor s ⟨b₂, (k.process s b₁).2⟩ id).map (·.report) ∧
      (k.process s (b₁ ++ b₂)).2.shelf s id = ((k.process s b₁).2.process s b₂).2.shelf s id := by
  have hcolons₁ : ∀ r ∈ b₁, ':' ∉ r.source.toList :=
    fun r hr => hcolons r (List.mem_append_left _ hr)
  have hcolons₂ : ∀ r ∈ b₂, ':' ∉ r.source.toList :=
    fun r hr => hcolons r (List.mem_append_right _ hr)
  have hchain := hwhole.chained_visitsFor hcolons hid
  have hchain' :=
    (hfirst.chained_visitsFor hcolons₁ hid).append (hsecond.chained_visitsFor hcolons₂ hid)
  rw [← List.map_append]
  refine hchain.shelf_eq hchain' ?_ (fun v hv => hwhole.regular_of_mem hv) ?_
  · -- the requests of the source are the same ones in the same order
    obtain ⟨rows, hrows⟩ := hwhole.rows
    obtain ⟨rows₁, hrows₁⟩ := hfirst.rows
    obtain ⟨rows₂, hrows₂⟩ := hsecond.rows
    rw [List.map_append, Call.map_request_visitsFor hrows hwhole.found,
      Call.map_request_visitsFor hrows₁ hfirst.found,
      Call.map_request_visitsFor hrows₂ hsecond.found]
    exact List.filter_append ..
  · intro v hv
    rcases List.mem_append.1 hv with hv | hv
    · exact (hfirst.regular_of_mem hv).1
    · have hv := (hsecond.regular_of_mem hv).1
      rwa [show Intake.conditions _ = _ from hfirst.conditions] at hv

/-- Each source has the same reports, and so has the whole up to the order. -/
theorem reports_append :
    (∀ id, (Call.visitsFor s ⟨b₁ ++ b₂, k⟩ id).map (·.report) =
      (Call.visitsFor s ⟨b₁, k⟩ id).map (·.report) ++
        (Call.visitsFor s ⟨b₂, (k.process s b₁).2⟩ id).map (·.report)) ∧
      (Call.reports s ⟨b₁ ++ b₂, k⟩).Perm
        (Call.reports s ⟨b₁, k⟩ ++ Call.reports s ⟨b₂, (k.process s b₁).2⟩) := by
  have hreports : ∀ id, (Call.visitsFor s ⟨b₁ ++ b₂, k⟩ id).map (·.report) =
      (Call.visitsFor s ⟨b₁, k⟩ id).map (·.report) ++
        (Call.visitsFor s ⟨b₂, (k.process s b₁).2⟩ id).map (·.report) := by
    intro id
    by_cases hid : ':' ∈ id.toList
    · -- there is no such source
      have hne : ∀ r ∈ b₁ ++ b₂, r.source ≠ id := by
        rintro r hr rfl
        exact hcolons r hr hid
      rw [Call.visitsFor_eq_nil hne,
        Call.visitsFor_eq_nil fun r hr => hne r (List.mem_append_left _ hr),
        Call.visitsFor_eq_nil fun r hr => hne r (List.mem_append_right _ hr)]
      rfl
    · exact (visitsFor_append hwhole hfirst hsecond hcolons hid).1
  refine ⟨hreports, ?_⟩
  apply perm_of_filter_eq fun p : Report => p.request.source
  intro id
  rw [List.filter_append]
  simp only [← Call.map_report_visitsFor]
  exact hreports id

theorem agrees_append : (k.process s (b₁ ++ b₂)).2.Agrees ((k.process s b₁).2.process s b₂).2 := by
  obtain ⟨hsources, hperm⟩ := reports_append hwhole hfirst hsecond hcolons
  have hconditions : (k.process s (b₁ ++ b₂)).2.conditions =
      ((k.process s b₁).2.process s b₂).2.conditions :=
    hwhole.conditions.trans (hsecond.conditions.trans hfirst.conditions).symm
  constructor
  · intro key
    by_cases hkey : ∃ id, ':' ∉ id.toList ∧ ∃ key', key = (s.cache id).storeKey key'
    · obtain ⟨id, hid, key', rfl⟩ := hkey
      exact congrFun (visitsFor_append hwhole hfirst hsecond hcolons hid).2 key'
    · have hkey' : ∀ id, ':' ∉ id.toList → ∀ key', key ≠ (s.cache id).storeKey key' :=
        fun id hid key' heq => hkey ⟨id, hid, key', heq⟩
      have hw := hwhole.get?_eq hcolons hkey'
      have h₁ := hfirst.get?_eq (fun r hr => hcolons r (List.mem_append_left _ hr)) hkey'
      have h₂ := hsecond.get?_eq (fun r hr => hcolons r (List.mem_append_right _ hr)) hkey'
      exact hw.trans (h₂.trans h₁).symm
  · exact congrArg Conditions.readFailure hconditions
  · exact congrArg Conditions.writeFailure hconditions
  · apply Counts.ext_get
    intro o
    have hw := Call.after_counts hwhole.found o
    have h₁ := Call.after_counts hfirst.found o
    have h₂ := Call.after_counts hsecond.found o
    have hcount := hperm.countP_eq (·.fate.outcome? = some o)
    rw [List.countP_append] at hcount
    dsimp only at hw h₁ h₂
    omega
  · intro timer
    have hw := Call.after_timed hwhole.carries timer
    have h₁ := Call.after_timed hfirst.carries timer
    have h₂ := Call.after_timed hsecond.carries timer
    have hcount := hperm.countP_eq (·.uses timer)
    rw [List.countP_append] at hcount
    dsimp only at hw h₁ h₂
    omega
  · intro id
    have hw := Call.after_asked hwhole.carries id
    have h₁ := Call.after_asked hfirst.carries id
    have h₂ := Call.after_asked hsecond.carries id
    dsimp only at hw h₁ h₂
    rw [hw, h₂, h₁, hsources, List.filterMap_append, List.append_assoc]

end Append

/-- A source has a client that carries its id and answers as it should, or can always be given
one. -/
def Intake.Resolves (s : Surroundings ω) (k : Intake ω) (id : String)
    (answer : String → UtcTime → Reply) : Prop :=
  match k.resolver.client? id with
  | some client => client.source.AnswersFor id answer
  | none => s.Builds id answer

/-- Sources that have no client yet have to be built. -/
theorem Intake.Ready.of_resolves {k : Intake ω} (hk : k.Coherent s) {sources : List String}
    (h : ∀ id ∈ sources, k.Resolves s id (answer id)) :
    ∃ ids, (∀ id ∈ ids, s.Builds id (answer id)) ∧ k.Ready s answer ids sources := by
  refine ⟨sources.filter fun id => (k.resolver.client? id).isNone, ?_, hk, ?_, ?_⟩
  · intro id hid
    obtain ⟨hid, hnone⟩ := List.mem_filter.1 hid
    have hresolves := h id hid
    rw [Resolves, Option.isNone_iff_eq_none.1 hnone] at hresolves
    exact hresolves
  · intro id client hclient hid
    have hresolves := h id hid
    rw [Resolves, hclient] at hresolves
    exact hresolves
  · intro id hid
    cases hclient : k.resolver.client? id with
    | some client => exact .inr ⟨client, hclient⟩
    | none =>
      refine .inl (List.mem_filter.2 ⟨hid, ?_⟩)
      rw [hclient]
      rfl

/-- **Batching does not matter**: if ids have no colons, every source of two batches has a client or
can always be given one, which carries its id and whose replies depend on the metric and the time
only, nothing is raised, and the flag does not change, then the batches as one and one after the
other leave intakes that agree: on the store, the counts, how often each timer was used, and the
metrics that each source was asked for in their order.  The rows of each source are the same in the
same order, and those of a batch are the rows of its sources. -/
theorem process_append {k : Intake ω} (hk : k.Coherent s) {b₁ b₂ : List Request}
    (hcolons : ∀ r ∈ b₁ ++ b₂, ':' ∉ r.source.toList)
    (hresolves : ∀ r ∈ b₁ ++ b₂, k.Resolves s r.source (answer r.source))
    {rows rows₁ rows₂ : List (List Reading)} (hrows : (k.process s (b₁ ++ b₂)).1 = .ok rows)
    (hrows₁ : (k.process s b₁).1 = .ok rows₁)
    (hrows₂ : ((k.process s b₁).2.process s b₂).1 = .ok rows₂)
    (hflag : (k.process s (b₁ ++ b₂)).2.stopping = k.stopping)
    (hflag' : ((k.process s b₁).2.process s b₂).2.stopping = k.stopping) :
    (k.process s (b₁ ++ b₂)).2.Agrees ((k.process s b₁).2.process s b₂).2 ∧
      (∀ id, Call.rowsOf s ⟨b₁ ++ b₂, k⟩ id =
        Call.rowsOf s ⟨b₁, k⟩ id ++ Call.rowsOf s ⟨b₂, (k.process s b₁).2⟩ id) ∧
      rows = (batchSources (b₁ ++ b₂)).flatMap (Call.rowsOf s ⟨b₁ ++ b₂, k⟩) ∧
      rows₁ = (batchSources b₁).flatMap (Call.rowsOf s ⟨b₁, k⟩) ∧
      rows₂ = (batchSources b₂).flatMap (Call.rowsOf s ⟨b₂, (k.process s b₁).2⟩) := by
  -- the flag is between the batches as it is before and after them
  have hmiddle : (k.process s b₁).2.stopping = k.stopping := by
    have hfirst := chained_call (byVisits_stopping s) ⟨b₁, k⟩
    have hsecond := chained_call (byVisits_stopping s) ⟨b₂, (k.process s b₁).2⟩
    cases hstart : k.stopping with
    | true => exact hfirst.stopping_of_true hstart
    | false =>
      cases hend : (k.process s b₁).2.stopping with
      | false => rfl
      | true =>
        rw [hsecond.stopping_of_true hend, hstart] at hflag'
        cases hflag'
  have hresolves' : ∀ id ∈ (b₁ ++ b₂).map (·.source), k.Resolves s id (answer id) := by
    intro id hid
    obtain ⟨r, hr, rfl⟩ := List.mem_map.1 hid
    exact hresolves r hr
  obtain ⟨ids, hbuilds, hready⟩ := Intake.Ready.of_resolves hk hresolves'
  have hmem : ∀ r ∈ b₁ ++ b₂, r.source ∈ (b₁ ++ b₂).map (·.source) :=
    fun r hr => List.mem_map_of_mem hr
  obtain ⟨hwhole, -⟩ :=
    Call.smooth_of_ready (c := ⟨b₁ ++ b₂, k⟩) hbuilds hready hmem ⟨rows, hrows⟩ hflag
  obtain ⟨hfirst, hready'⟩ := Call.smooth_of_ready (c := ⟨b₁, k⟩) hbuilds hready
    (fun r hr => hmem r (List.mem_append_left _ hr)) ⟨rows₁, hrows₁⟩ hmiddle
  obtain ⟨hsecond, -⟩ := Call.smooth_of_ready (c := ⟨b₂, (k.process s b₁).2⟩) hbuilds hready'
    (fun r hr => hmem r (List.mem_append_right _ hr)) ⟨rows₂, hrows₂⟩ (hflag'.trans hmiddle.symm)
  refine ⟨agrees_append hwhole hfirst hsecond hcolons, ?_, Call.rows_eq_flatMap hrows,
    Call.rows_eq_flatMap hrows₁, Call.rows_eq_flatMap hrows₂⟩
  intro id
  rw [Call.rowsOf_eq, Call.rowsOf_eq, Call.rowsOf_eq, ← List.filterMap_append,
    (reports_append hwhole hfirst hsecond hcolons).1]

/-- Sources that have a sample of one metric each. -/
def oneMetricEach : Surroundings (String → Nat) := .scripted fun _ => some (.steady oneMetric)

/-- Two sources are asked for the metric. -/
def earlier : List Request := [⟨"a", "m", none, 1000⟩, ⟨"b", "m", none, 0⟩]

/-- They are asked for more, the second one first. -/
def later : List Request := [⟨"b", "n", none, 0⟩, ⟨"a", "m", none, 1000⟩, ⟨"a", "n", none, 0⟩]

/-- In one batch the first source has all of its turns first, in two batches it does not; one of its
requests is a hit in both. -/
theorem process_append_earlier_later :
    (Intake.unused.process oneMetricEach (earlier ++ later)).2.Agrees
        ((Intake.unused.process oneMetricEach earlier).2.process oneMetricEach later).2 ∧
      (Call.visits oneMetricEach ⟨earlier ++ later, .unused⟩).map (·.asks) =
        [true, false, true, true, true] ∧
      (Call.visits oneMetricEach
        ⟨later, (Intake.unused.process oneMetricEach earlier).2⟩).map (·.asks) =
          [true, false, true] := by
  have hok : (Intake.unused.process oneMetricEach (earlier ++ later)).1.isOk = true := by
    decide +kernel
  have hok₁ : (Intake.unused.process oneMetricEach earlier).1.isOk = true := by decide +kernel
  have hok₂ : ((Intake.unused.process oneMetricEach earlier).2.process
      oneMetricEach later).1.isOk = true := by
    decide +kernel
  obtain ⟨rows, hrows⟩ := exists_ok_of_isOk hok
  obtain ⟨rows₁, hrows₁⟩ := exists_ok_of_isOk hok₁
  obtain ⟨rows₂, hrows₂⟩ := exists_ok_of_isOk hok₂
  have hcolons : ∀ r ∈ earlier ++ later, ':' ∉ r.source.toList := by decide +kernel
  let answer : String → String → UtcTime → Reply := fun _ name _ => oneMetric name
  have hresolves : ∀ r ∈ earlier ++ later,
      Intake.unused.Resolves oneMetricEach r.source (answer r.source) :=
    fun r _ => Surroundings.scripted_builds rfl
  obtain ⟨hagrees, -⟩ := process_append (Intake.Coherent.fresh ..) hcolons hresolves hrows hrows₁
    hrows₂ (by decide +kernel) (by decide +kernel)
  refine ⟨hagrees, ?_, ?_⟩
  · decide +kernel
  · decide +kernel

end MetricIntake
