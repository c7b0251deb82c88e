import MetricIntake.Proofs.Accounting
import MetricIntake.Proofs.Replies
import MetricIntake.Proofs.View
import Mathlib.Algebra.BigOperators.Ring.Finset

/-!
# Sources do not interfere

If sources are kept apart, the turn of a source does not depend on the turns of the others, whatever
becomes of them: `Turn.alike` and `Turn.after_view_of_ne`.  A batch therefore does to each of its
sources what it would do if it were a batch of that source's requests only: `process_separated`.
-/

namespace MetricIntake

variable {ω π : Type} {s : Surroundings ω} {part : String → ω → π}

/-! ### Clients that keep to their own part -/

theorem Intake.Private.resolve (hs : s.Apart part) {k : Intake ω} (h : k.Private part)
    (id : String) : (k.resolve s id).2.Private part :=
  Intake.BindsOnly.resolve (fun _ _ _ hbuild => hs.build_private hbuild) h id

theorem Trail.keepsPrivate (hs : s.Apart part) {k m : Intake ω} {vs : List (Visit ω)}
    (h : Trail s k vs m) (hk : k.Private part) : m.Private part :=
  h.bindsOnly (fun _ _ _ hbuild => hs.build_private hbuild) hk

/-! ### The requests of a source -/

/-- The requests of a source leave the view of each other source as it is. -/
theorem processRequests_view_of_ne {id : String} {client : Client ω} {cache : Cache}
    (hne : id ≠ client.source.id) (hid : ':' ∉ id.toList)
    (hsource : ':' ∉ client.source.id.toList) (hcache : cache = s.cache client.source.id)
    (hprivate : client.source.Private part) (requests : List Request) (k : Intake ω) :
    (k.processRequests client cache requests).2.view s part id = k.view s part id := by
  induction requests generalizing k with
  | nil => rfl
  | cons r rest ih =>
    let v : Visit ω := { request := r, client, cache, before := k }
    have hv : v.after.view s part id = k.view s part id :=
      v.after_view_of_ne hne hid hsource hcache hprivate
    cases h : v.answer with
    | error f =>
      obtain ⟨hp, -⟩ := processRequests_of_error h rest
      rw [hp]
      exact hv
    | ok reading? =>
      obtain ⟨hp, -⟩ := processRequests_of_ok h rest
      rw [hp]
      exact (ih v.after).trans hv

/-- What becomes of the requests of a source depends on nothing but its view. -/
theorem processRequests_alike {id : String} {client client' : Client ω} {cache cache' : Cache}
    (hsource : client.source = client'.source) (hid : client.source.id = id)
    (hcache : cache = s.cache id) (hcache' : cache' = s.cache id)
    (hprivate : client.source.Private part) (requests : List Request) {k k' : Intake ω}
    (hview : k.view s part id = k'.view s part id) :
    (k.processRequests client cache requests).1 = (k'.processRequests client' cache' requests).1 ∧
      (k.processRequests client cache requests).2.view s part id =
        (k'.processRequests client' cache' requests).2.view s part id ∧
      (visitsOf client cache requests k).map (·.fate) =
        (visitsOf client' cache' requests k').map (·.fate) := by
  induction requests generalizing k k' with
  | nil => exact ⟨rfl, hview, rfl⟩
  | cons r rest ih =>
    let v : Visit ω := { request := r, client, cache, before := k }
    let v' : Visit ω := { request := r, client := client', cache := cache', before := k' }
    have htwins : v.Twins s part id v' := ⟨rfl, hsource, hid, hcache, hcache', hprivate, hview⟩
    have hanswer := htwins.alike.answer_eq
    cases h : v.answer with
    | error f =>
      obtain ⟨hp, hvs⟩ := processRequests_of_error h rest
      obtain ⟨hp', hvs'⟩ := processRequests_of_error (hanswer.symm.trans h) rest
      rw [hp, hp', hvs, hvs']
      exact ⟨rfl, htwins.after_view, congrArg (fun fate => [fate]) htwins.alike.fate_eq⟩
    | ok reading? =>
      obtain ⟨hp, hvs⟩ := processRequests_of_ok h rest
      obtain ⟨hp', hvs'⟩ := processRequests_of_ok (hanswer.symm.trans h) rest
      obtain ⟨hrows, hafter, hfates⟩ := ih htwins.after_view
      rw [hp, hp', hvs, hvs', List.map_cons, List.map_cons]
      refine ⟨?_, hafter, ?_⟩
      · exact congrArg (Except.map _) hrows
      · rw [htwins.alike.fate_eq]
        exact congrArg (v'.fate :: ·) hfates

/-! ### The turn of a source -/

namespace Turn

/-- What a turn adds to a count. -/
def gain (s : Surroundings ω) (t : Turn ω) (o : Outcome) : Nat :=
  (t.visits s).countP (·.fate.outcome? = some o) + if t.missed s ∧ o = .failed then 1 else 0

/-- The turn of a source leaves the view of each other source as it is. -/
theorem after_view_of_ne (hs : s.Apart part) {t : Turn ω} (hsound : t.before.Sound s)
    (hprivate : t.before.Private part) {id : String} (hne : id ≠ t.id) (hid : ':' ∉ id.toList)
    (htid : ':' ∉ t.id.toList) : (t.after s).view s part id = t.before.view s part id := by
  have hresolve := t.before.resolve_view_of_ne hs hne
  cases hc : t.client? s with
  | error f =>
    obtain ⟨-, -, hafter⟩ := eq_of_error hc
    rw [hafter]
    exact hresolve
  | ok client? =>
    cases client? with
    | none =>
      obtain ⟨-, -, records, hafter⟩ := eq_of_none hc
      rw [hafter]
      exact hresolve
    | some client =>
      have hbound := Intake.client?_of_resolve hc
      have hsound' := hsound.resolve hs.carries t.id
      have hcarries : client.source.id = t.id := hsound'.carries hbound
      have hcacheOf := Intake.cacheOf_view_of_ne hs hsound' hbound hne
      obtain ⟨f, -, -, -, hafter⟩ | ⟨bound, hb, -, hafter, -⟩ := eq_of_some hc
      · rw [hafter]
        exact hcacheOf.trans hresolve
      · have hcache : bound.cache = s.cache client.source.id := by
          rw [hcarries]
          exact hsound'.cache_of_cacheOf hbound hb
        rw [hafter, processRequests_view_of_ne (hcarries ▸ hne) hid (hcarries ▸ htid) hcache
          (hprivate.resolve hs t.id hbound)]
        exact hcacheOf.trans hresolve

/-- The turns of a source in two intakes that are alike to it come to the same. -/
theorem alike (hs : s.Apart part) {id : String} {k k' : Intake ω} (hsound : k.Sound s)
    (hsound' : k'.Sound s) (hprivate : k.Private part)
    (hview : k.view s part id = k'.view s part id) (requests : List Request) :
    (mk id requests k).rows s = (mk id requests k').rows s ∧
      ((mk id requests k).after s).view s part id = ((mk id requests k').after s).view s part id ∧
      ∀ o, (mk id requests k).gain s o = (mk id requests k').gain s o := by
  obtain ⟨hclients, hresolve⟩ := Intake.resolve_view hs hsound hsound' hview
  generalize hc : (k.resolve s id).1 = found at hclients
  generalize hc' : (k'.resolve s id).1 = found' at hclients
  cases hclients with
  | raised f =>
    obtain ⟨hrows, hvisits, hafter⟩ := eq_of_error (t := mk id requests k) hc
    obtain ⟨hrows', hvisits', hafter'⟩ := eq_of_error (t := mk id requests k') hc'
    refine ⟨hrows.trans hrows'.symm, ?_, ?_⟩
    · rw [hafter, hafter']
      exact hresolve
    · intro o
      rw [gain, gain, missed, missed, client?, client?, hc, hc', hvisits, hvisits']
  | missing =>
    obtain ⟨hrows, hvisits, records, hafter⟩ := eq_of_none (t := mk id requests k) hc
    obtain ⟨hrows', hvisits', records', hafter'⟩ := eq_of_none (t := mk id requests k') hc'
    refine ⟨hrows.trans hrows'.symm, ?_, ?_⟩
    · rw [hafter, hafter']
      exact hresolve
    · intro o
      rw [gain, gain, missed, missed, client?, client?, hc, hc', hvisits, hvisits']
  | @found client client' hsource =>
    have hbound := Intake.client?_of_resolve hc
    have hbound' := Intake.client?_of_resolve hc'
    -- both have a client of the same source and a cache for `id`
    have hsounds := hsound.resolve hs.carries id
    have hsounds' := hsound'.resolve hs.carries id
    obtain ⟨⟨_, _, hb, hb'⟩, hview'⟩ := Intake.cacheOf_view hs hbound hbound' hresolve
    obtain ⟨f, hf, -⟩ | ⟨bound, hf, hrows, hafter, hvisits⟩ :=
      eq_of_some (t := mk id requests k) hc
    · cases hb.symm.trans hf
    obtain ⟨f, hf', -⟩ | ⟨bound', hf', hrows', hafter', hvisits'⟩ :=
      eq_of_some (t := mk id requests k') hc'
    · cases hb'.symm.trans hf'
    obtain ⟨hsameRows, hsameViews, hfates⟩ :=
      processRequests_alike hsource (hsounds.carries hbound) (hsounds.cache_of_cacheOf hbound hf)
        (hsounds'.cache_of_cacheOf hbound' hf') (hprivate.resolve hs id hbound) requests hview'
    refine ⟨?_, ?_, ?_⟩
    · rw [hrows, hrows']
      exact hsameRows
    · rw [hafter, hafter']
      exact hsameViews
    · intro o
      -- a count is a matter of the fates only
      have hcount : ∀ vs : List (Visit ω), vs.countP (·.fate.outcome? = some o) =
          (vs.map (·.fate)).countP (·.outcome? = some o) := by
        intro vs
        rw [List.countP_map]
        rfl
      rw [gain, gain, missed, missed, client?, client?, hc, hc', hvisits, hvisits', hcount,
        hcount, hfates]

/-- What is done for a source leaves things as they should be. -/
theorem after_sound (hs : s.Apart part) {t : Turn ω} (hsound : t.before.Sound s)
    (hid : ∀ r ∈ t.requests, r.source = t.id) : (t.after s).Sound s :=
  (trail_turn t hid).sound hs.carries hsound

theorem after_private (hs : s.Apart part) {t : Turn ω} (hprivate : t.before.Private part)
    (hid : ∀ r ∈ t.requests, r.source = t.id) : (t.after s).Private part :=
  (trail_turn t hid).keepsPrivate hs hprivate

end Turn

/-! ### A batch -/

/-- The turn that a source of a batch would have if there were no others. -/
def Turn.alone (batch : List Request) (k : Intake ω) (id : String) : Turn ω :=
  { id, requests := requestsOf id batch, before := k }

theorem Turn.alone_source {batch : List Request} {k : Intake ω} {id : String} :
    ∀ r ∈ (Turn.alone batch k id).requests, r.source = id :=
  fun _ hr => (mem_requestsOf.1 hr).2

/-- The turns of some sources leave the view of each other source as it is. -/
theorem processSources_view_of_not_mem (hs : s.Apart part) (batch : List Request)
    {ids : List String} (hcolons : ∀ id ∈ ids, ':' ∉ id.toList) {id : String} (hid : id ∉ ids)
    (hcolon : ':' ∉ id.toList) {k : Intake ω} (hsound : k.Sound s) (hprivate : k.Private part) :
    (k.processSources s batch ids).2.view s part id = k.view s part id := by
  induction ids generalizing k with
  | nil => rfl
  | cons first ids ih =>
    have hne : id ≠ first := List.ne_of_not_mem_cons hid
    have hrest : id ∉ ids := List.not_mem_of_not_mem_cons hid
    let t := Turn.alone batch k first
    have hturn : (t.after s).view s part id = k.view s part id :=
      Turn.after_view_of_ne hs hsound hprivate hne hcolon (hcolons first List.mem_cons_self)
    have hafter := ih (fun id' hid' => hcolons id' (List.mem_cons_of_mem _ hid')) hrest
      (k := t.after s) (Turn.after_sound hs hsound Turn.alone_source)
      (Turn.after_private hs hprivate Turn.alone_source)
    rw [processSources_cons]
    exact hafter.trans hturn

/-- Each source of a batch has the turn that it would have alone. -/
theorem processSources_alone (hs : s.Apart part) (batch : List Request) {ids : List String}
    (hnodup : ids.Nodup) (hcolons : ∀ id ∈ ids, ':' ∉ id.toList) {start k : Intake ω}
    (hstart : start.Sound s) (hsound : k.Sound s) (hprivate : k.Private part)
    (hviews : ∀ id ∈ ids, k.view s part id = start.view s part id) :
    (k.processSources s batch ids).1 =
        ids.map (fun id => (id, (Turn.alone batch start id).rows s)) ∧
      (∀ id ∈ ids, (k.processSources s batch ids).2.view s part id =
        ((Turn.alone batch start id).after s).view s part id) ∧
      ∀ o, (k.processSources s batch ids).2.metrics.counts.get o =
        k.metrics.counts.get o +
          (ids.map fun id => (Turn.alone batch start id).gain s o).sum := by
  induction ids generalizing k with
  | nil => exact ⟨rfl, fun id hid => absurd hid List.not_mem_nil, fun o => rfl⟩
  | cons first ids ih =>
    obtain ⟨hfirst, hnodup⟩ := List.nodup_cons.1 hnodup
    let t := Turn.alone batch k first
    have hsound' : (t.after s).Sound s := Turn.after_sound hs hsound Turn.alone_source
    have hprivate' : (t.after s).Private part :=
      Turn.after_private hs hprivate Turn.alone_source
    obtain ⟨hrows, hview, hgain⟩ := Turn.alike hs hsound hstart hprivate
      (hviews first List.mem_cons_self) (requestsOf first batch)
    have hcolon := hcolons first List.mem_cons_self
    have hcolons' : ∀ id ∈ ids, ':' ∉ id.toList :=
      fun id hid => hcolons id (List.mem_cons_of_mem _ hid)
    -- the turn of the first source does not concern those that are still to come
    have hviews' : ∀ id ∈ ids, (t.after s).view s part id = start.view s part id := by
      intro id hid
      have hne : id ≠ first := fun h => hfirst (h ▸ hid)
      have hturn : (t.after s).view s part id = k.view s part id :=
        Turn.after_view_of_ne hs hsound hprivate hne (hcolons' id hid) hcolon
      exact hturn.trans (hviews id (List.mem_cons_of_mem _ hid))
    obtain ⟨ihrows, ihviews, ihcounts⟩ := ih hnodup hcolons' hsound' hprivate' hviews'
    rw [processSources_cons]
    refine ⟨?_, ?_, ?_⟩
    · rw [List.map_cons]
      show (first, t.rows s) :: ((t.after s).processSources s batch ids).1 = _
      rw [ihrows, show t.rows s = _ from hrows]
      rfl
    · intro id hid
      rcases List.mem_cons.1 hid with rfl | hid
      · -- nor do their turns concern the first source
        have hothers := processSources_view_of_not_mem hs batch hcolons' hfirst hcolon hsound'
          hprivate'
        exact hothers.trans hview
      · exact ihviews id hid
    · intro o
      show ((t.after s).processSources s batch ids).2.metrics.counts.get o = _
      have hturn : (t.after s).metrics.counts.get o = k.metrics.counts.get o + t.gain s o := by
        rw [t.after_counts, Nat.add_assoc]
        rfl
      rw [ihcounts, hturn, show t.gain s o = _ from hgain o, List.map_cons, List.sum_cons,
        Nat.add_assoc]
      rfl

/-! ### A batch is as good as a batch for each source -/

/-- A batch of the requests of one source is its turn. -/
theorem process_requestsOf {batch : List Request} {id : String} (h : id ∈ batchSources batch)
    (k : Intake ω) :
    (k.process s (requestsOf id batch)).1 = (Turn.alone batch k id).rows s ∧
      ∃ records, (k.process s (requestsOf id batch)).2 =
        ((Turn.alone batch k id).after s).say records := by
  have hsources := batchSources_requestsOf h
  constructor
  · rw [Intake.process, hsources, processSources_cons, requestsOf_requestsOf]
    show Intake.gather [(id, (Turn.alone batch k id).rows s)] = _
    cases (Turn.alone batch k id).rows s with
    | error f => rfl
    | ok rows =>
      show Except.ok (rows ++ []) = Except.ok rows
      rw [List.append_nil]
  · obtain ⟨records, hprocess⟩ := process_snd (s := s) (requestsOf id batch) k
    refine ⟨records, ?_⟩
    rw [hprocess, hsources, processSources_cons, requestsOf_requestsOf]
    rfl

/-- A source that answers from a script keeps to its own part, which is how often it was asked. -/
theorem Source.scripted_private {script : Script}
    (hsteady : ∀ n name, (script n name).stops = false) (id : String) :
    (Source.scripted id script).Private fun id asked => asked id := by
  constructor
  · intro w w' hown name now
    show script (w id) name = script (w' id) name
    rw [show w id = w' id from hown]
  · intro w w' hown name now
    show Function.update w id (w id + 1) id = Function.update w' id (w' id + 1) id
    rw [Function.update_self, Function.update_self, show w id = w' id from hown]
  · intro other hne name now w
    exact Function.update_of_ne hne _ _
  · intro name now w
    exact hsteady _ _

/-- Sources that answer from scripts are kept apart. -/
theorem Surroundings.scripted_apart {scripts : String → Option Script}
    (hsteady : ∀ id script, scripts id = some script → ∀ n name, (script n name).stops = false) :
    (Surroundings.scripted scripts).Apart fun id asked => asked id := by
  have hbuild : ∀ id w, ((Surroundings.scripted scripts).build id w).2 = w := by
    intro id w
    unfold scripted
    dsimp only
    split <;> rfl
  have hsource : ∀ id w source, ((Surroundings.scripted scripts).build id w).1 = .ok source →
      ∃ script, scripts id = some script ∧ source = .scripted id script := by
    intro id w source h
    unfold scripted at h
    dsimp only at h
    split at h
    · rename_i script hscript
      exact ⟨script, hscript, (Except.ok.inj h).symm⟩
    · cases h
  constructor
  · intro id w source h
    obtain ⟨script, -, rfl⟩ := hsource id w source h
    rfl
  · intro id w w' _
    unfold scripted
    dsimp only
    split <;> rfl
  · intro id w w' hown
    rw [hbuild, hbuild, hown]
  · intro id other hne w
    rw [hbuild]
  · intro id w source h
    obtain ⟨script, hscript, rfl⟩ := hsource id w source h
    exact Source.scripted_private (hsteady id script hscript) id
  · intro w
    rfl
  · intro id w
    rfl

/-- Two intakes are the same as far as one source is concerned. -/
structure Intake.SameFor (s : Surroundings ω) (id : String) (k k' : Intake ω) : Prop where
  /-- The calls to the source in their order. -/
  calls : k.events.filter (·.isCallTo id) = k'.events.filter (·.isCallTo id)
  entries : ∀ key, k.store.get? ((s.cache id).storeKey key) =
    k'.store.get? ((s.cache id).storeKey key)
  timed : (k.metrics.latency (timerName id)).count = (k'.metrics.latency (timerName id)).count
  binding : k.bindingOf id = k'.bindingOf id

theorem Intake.sameFor_of_view_eq (part : String → ω → π) {id : String} {k k' : Intake ω}
    (h : k.view s part id = k'.view s part id) : k.SameFor s id k' where
  calls := congrArg View.calls h
  entries key := congrFun (congrArg View.entries h) key
  timed := congrArg View.timed h
  binding := congrArg View.binding h

/-- **Sources do not interfere**: if sources are kept apart and their ids have no colons, then for
each source of a batch the calls to it, the entries under its keys, the number of uses of its timer
and its binding are the same after the batch as after a batch of its requests only, whatever becomes
of the other sources.  A client that the source had before it keeps.  The counts grow by what they
grow by in those batches together, and there are rows just if there are rows in each of them, which
are those one after another.  The batch may find any intake whose bindings are as they should be, as
those of every run are (`Trail.sound`). -/
theorem process_separated (hs : s.Apart part) {k : Intake ω} (hsound : k.Sound s)
    (hprivate : k.Private part) {batch : List Request}
    (hcolons : ∀ r ∈ batch, ':' ∉ r.source.toList) :
    (∀ id ∈ batchSources batch,
      (k.process s batch).2.SameFor s id (k.process s (requestsOf id batch)).2 ∧
        ∀ client, k.resolver.client? id = some client →
          (k.process s batch).2.resolver.client? id = some client ∧
            (k.process s (requestsOf id batch)).2.resolver.client? id = some client) ∧
      (∀ o, ((k.process s batch).2.metrics.counts.get o : Int) - k.metrics.counts.get o =
        ((batchSources batch).map fun id =>
          ((k.process s (requestsOf id batch)).2.metrics.counts.get o : Int) -
            k.metrics.counts.get o).sum) ∧
      ∀ rows, (k.process s batch).1 = .ok rows ↔
        ∃ parts : List (List (List Reading)),
          (batchSources batch).map (fun id => (k.process s (requestsOf id batch)).1) =
            parts.map Except.ok ∧ rows = parts.flatten := by
  have hcolons' : ∀ id ∈ batchSources batch, ':' ∉ id.toList := by
    intro id hid
    obtain ⟨r, hr, rfl⟩ := mem_batchSources.1 hid
    exact hcolons r hr
  obtain ⟨hrows, hviews, hcounts⟩ := processSources_alone hs batch (nodup_batchSources batch)
    hcolons' hsound hsound hprivate fun id _ => rfl
  obtain ⟨records, hprocess⟩ := process_snd (s := s) batch k
  refine ⟨?_, ?_, ?_⟩
  · intro id hid
    obtain ⟨-, records', hprocess'⟩ := process_requestsOf (s := s) hid k
    refine ⟨?_, fun client hclient => ⟨process_keeps hclient _, process_keeps hclient _⟩⟩
    apply Intake.sameFor_of_view_eq part
    rw [hprocess, hprocess']
    exact hviews id hid
  · intro o
    -- each source adds in its own batch what its turn adds in the whole one
    have halone : ∀ id ∈ batchSources batch,
        ((k.process s (requestsOf id batch)).2.metrics.counts.get o : Int) -
          k.metrics.counts.get o = ((Turn.alone batch k id).gain s o : Nat) := by
      intro id hid
      obtain ⟨-, records', hprocess'⟩ := process_requestsOf (s := s) hid k
      have hturn : ((Turn.alone batch k id).after s).metrics.counts.get o =
          k.metrics.counts.get o + (Turn.alone batch k id).gain s o :=
        ((Turn.alone batch k id).after_counts o).trans (Nat.add_assoc ..)
      rw [hprocess']
      show (((Turn.alone batch k id).after s).metrics.counts.get o : Int) - _ = _
      omega
    have hwhole : (k.process s batch).2.metrics.counts.get o = k.metrics.counts.get o +
        ((batchSources batch).map fun id => (Turn.alone batch k id).gain s o).sum := by
      rw [hprocess]
      exact hcounts o
    rw [List.map_congr_left halone, hwhole, Nat.cast_add, Nat.cast_list_sum, List.map_map]
    exact add_sub_cancel_left _ _
  · intro rows
    have halone : (batchSources batch).map (fun id => (k.process s (requestsOf id batch)).1) =
        (batchSources batch).map fun id => (Turn.alone batch k id).rows s :=
      List.map_congr_left fun id hid => (process_requestsOf hid k).1
    rw [Intake.process, gather_eq_ok_iff, hrows, List.map_map, halone]
    rfl

/-- A source that has a sample, one that raises, one that fails, and no others. -/
def mixedScripts (id : String) : Option Script :=
  if id = "good" then
    some (.constant { name := "m", value := "1", updatedAt := "2026-01-20T10:15:00Z" })
  else if id = "broken" then
    some fun _ _ => .plain (.error (.fault (.foreign "RuntimeError" "broken")))
  else if id = "failing" then
    some fun _ _ => .plain (.error (.source ⟨.transport, id, "down"⟩))
  else none

/-- A batch with requests for all of them, and for a source that there is not. -/
def mixedBatch : List Request :=
  [⟨"broken", "m", none, 0⟩, ⟨"good", "m", none, 1000⟩, ⟨"gone", "m", none, 0⟩,
    ⟨"failing", "m", none, 0⟩, ⟨"good", "m", none, 1000⟩]

theorem mixed_steady (id : String) (script : Script) (h : mixedScripts id = some script)
    (n : Nat) (name : String) : (script n name).stops = false := by
  unfold mixedScripts at h
  split at h
  · obtain rfl := Option.some.inj h
    rfl
  · split at h
    · obtain rfl := Option.some.inj h
      rfl
    · split at h
      · obtain rfl := Option.some.inj h
        rfl
      · cases h

/-- The batch raises because of one source, and is for another one what its own requests are. -/
theorem process_mixedBatch :
    (Intake.unused.process (.scripted mixedScripts) mixedBatch).1 =
        .error (.fault (.foreign "RuntimeError" "broken")) ∧
      (Intake.unused.process (.scripted mixedScripts) mixedBatch).2.events.filter
          (·.isCallTo "good") = [.asked (.named "ScriptedSource") "good" "m"] ∧
      (Intake.unused.process (.scripted mixedScripts) mixedBatch).2.SameFor
        (.scripted mixedScripts) "good"
        (Intake.unused.process (.scripted mixedScripts) (requestsOf "good" mixedBatch)).2 := by
  have hmem : "good" ∈ batchSources mixedBatch := by decide +kernel
  have hcolons : ∀ r ∈ mixedBatch, ':' ∉ r.source.toList := by decide +kernel
  have hsound : Intake.unused.Sound (.scripted mixedScripts) := Intake.Sound.fresh ..
  have hprivate : Intake.unused.Private fun id asked => asked id := by
    rintro id client ⟨⟩
  obtain ⟨hsources, -, -⟩ :=
    process_separated (Surroundings.scripted_apart mixed_steady) hsound hprivate hcolons
  refine ⟨?_, ?_, (hsources "good" hmem).1⟩
  · decide +kernel
  · decide +kernel

end MetricIntake
