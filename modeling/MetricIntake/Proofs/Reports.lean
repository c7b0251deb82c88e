import MetricIntake.Proofs.Accounting
import MetricIntake.Proofs.Answers
import MetricIntake.Proofs.Chain
import MetricIntake.Proofs.View

/-!
# Reports

A `Report` says of a visit what it was for, what became of it and whether the source was asked.  The
rows of a batch, the metrics that each source is asked for, the counts, and how often each timer is
used depend on the reports of the batch only: `Call.rowsOf_eq`, `Call.after_asked`,
`Call.after_counts` and `Call.after_timed`.
-/

namespace MetricIntake

variable {ω : Type} {s : Surroundings ω}

/-- What a request was for, what became of it, and whether its source was asked. -/
structure Report where
  request : Request
  fate : Fate
  asks : Bool
deriving DecidableEq

/-- The event as a metric that the source with an id is asked for. -/
def Event.metricOf? (id : String) : Event → Option String
  | .asked _ other name => if other = id then some name else none
  | _ => none

/-- Only calls to the source are metrics that it is asked for. -/
theorem Event.filterMap_isCallTo (id : String) (events : List Event) :
    (events.filter (·.isCallTo id)).filterMap (·.metricOf? id) =
      events.filterMap (·.metricOf? id) := by
  rw [List.filterMap_filter]
  congr 1
  funext e
  cases e with
  | asked profile other name => simp [isCallTo, metricOf?]
  | _ => rfl

namespace Report

/-- The row of the request. -/
def row? (p : Report) : Option (List Reading) :=
  match p.fate.answer p.request with
  | .ok (some reading) => some [reading]
  | _ => none

/-- The metric, if it is one that the source with an id was asked for. -/
def metricOf? (id : String) (p : Report) : Option String :=
  if p.asks ∧ p.request.source = id then some p.request.name else none

/-- The timer was used. -/
def uses (timer : String) (p : Report) : Bool :=
  p.asks && Intake.timerName p.request.source = timer

end Report

/-- What there is to say about a visit. -/
def Visit.report (v : Visit ω) : Report := ⟨v.request, v.fate, v.asks⟩

/-! ### One visit -/

namespace Visit

variable (v : Visit ω)

theorem row?_eq : v.row? = v.report.row? := by
  rw [row?, v.answer_eq]
  rfl

theorem after_asked (h : v.client.source.id = v.request.source) (id : String) :
    v.after.events.filterMap (·.metricOf? id) =
      v.before.events.filterMap (·.metricOf? id) ++ (v.report.metricOf? id).toList := by
  rw [← Event.filterMap_isCallTo, v.after_calls, List.filterMap_append, Event.filterMap_isCallTo, h]
  congr 1
  by_cases hcall : v.asks = true ∧ v.request.source = id
  · simp [Event.metricOf?, Report.metricOf?, report, hcall]
  · rw [if_neg hcall, Report.metricOf?, report, if_neg hcall]
    rfl

theorem after_uses (h : v.client.source.id = v.request.source) (timer : String) :
    (v.after.metrics.latency timer).count =
      (v.before.metrics.latency timer).count + if v.report.uses timer then 1 else 0 := by
  rw [v.after_timed, h]
  congr 1
  refine if_congr ?_ rfl rfl
  rw [Report.uses, report, Bool.and_eq_true, decide_eq_true_iff]

end Visit

/-! ### Visits one after another -/

namespace Chained

variable {vs : List (Visit ω)}

/-- What a visit adds to a list if its report says so, all of them add in their order. -/
theorem collect {α : Type} {f : Intake ω → List α} {x y : List α} (g : Report → Option α)
    (h : Chained f x vs y)
    (hstep : ∀ v ∈ vs, f v.after = f v.before ++ (g v.report).toList) :
    y = x ++ (vs.map (·.report)).filterMap g := by
  induction h with
  | nil x => exact (List.append_nil x).symm
  | @cons x y v vs hx _ ih =>
    subst hx
    rw [ih fun w hw => hstep w (List.mem_cons_of_mem _ hw), hstep v List.mem_cons_self,
      List.map_cons, List.filterMap_cons, List.append_assoc]
    cases g v.report <;> rfl

/-- What a visit counts if its report says so, all of them count together. -/
theorem count {f : Intake ω → Nat} {x y : Nat} (p : Report → Bool) (h : Chained f x vs y)
    (hstep : ∀ v ∈ vs, f v.after = f v.before + if p v.report then 1 else 0) :
    y = x + (vs.map (·.report)).countP p := by
  induction h with
  | nil x => rfl
  | @cons x y v vs hx _ ih =>
    subst hx
    rw [ih fun w hw => hstep w (List.mem_cons_of_mem _ hw), hstep v List.mem_cons_self,
      List.map_cons, List.countP_cons]
    omega

end Chained

theorem byVisits_asked (s : Surroundings ω) (id : String) :
    ByVisits s fun k => k.events.filterMap (·.metricOf? id) := by
  have hbinding : ∀ events more : List Event, (∀ e ∈ more, e.isBinding = true) →
      (events ++ more).filterMap (·.metricOf? id) = events.filterMap (·.metricOf? id) := by
    intro events more hmore
    have hnone : more.filterMap (·.metricOf? id) = [] := by
      rw [List.filterMap_eq_nil_iff]
      intro e he
      have hbinds := hmore e he
      cases e with
      | asked profile other name => cases hbinds
      | _ => rfl
    rw [List.filterMap_append, hnone, List.append_nil]
  constructor
  · exact fun k records => rfl
  · intro k other
    obtain ⟨more, hevents, hmore⟩ := k.resolve_events s other
    rw [hevents]
    exact hbinding _ _ hmore
  · intro k client
    obtain ⟨more, hevents, hmore⟩ := k.cacheOf_events s client
    rw [hevents]
    exact hbinding _ _ hmore
  · exact fun k => rfl

theorem byVisits_timed (s : Surroundings ω) (timer : String) :
    ByVisits s fun k => (k.metrics.latency timer).count where
  say _ _ := rfl
  resolve k id := by rw [Intake.resolve_metrics]
  connect k client := by rw [Intake.cacheOf_metrics]
  miss _ := rfl

/-! ### Calls -/

/-- Parts that belong to different keys are told apart by them. -/
theorem filter_flatMap_of_nodup {α β κ : Type} [DecidableEq κ] {l : List α} {f : α → List β}
    (key : α → κ) (key' : β → κ) (hkey : ∀ a ∈ l, ∀ b ∈ f a, key' b = key a)
    (hnodup : (l.map key).Nodup) {a : α} (ha : a ∈ l) :
    (l.flatMap f).filter (key' · = key a) = f a := by
  induction l with
  | nil => cases ha
  | cons first rest ih =>
    obtain ⟨hfirst, hrest⟩ := List.nodup_cons.1 hnodup
    have hkey' : ∀ a ∈ rest, ∀ b ∈ f a, key' b = key a :=
      fun a ha => hkey a (List.mem_cons_of_mem _ ha)
    rw [List.flatMap_cons, List.filter_append]
    rcases List.mem_cons.1 ha with rfl | ha
    · -- all of the first part has the key, and nothing of the others
      have hall : (f a).filter (key' · = key a) = f a := by
        rw [List.filter_eq_self]
        exact fun b hb => decide_eq_true (hkey a List.mem_cons_self b hb)
      have hnone : (rest.flatMap f).filter (key' · = key a) = [] := by
        rw [List.filter_eq_nil_iff]
        intro b hb heq
        obtain ⟨other, hother, hb⟩ := List.mem_flatMap.1 hb
        rw [decide_eq_true_eq, hkey' other hother b hb] at heq
        exact hfirst (heq ▸ List.mem_map_of_mem hother)
      rw [hall, hnone, List.append_nil]
    · have hnone : (f first).filter (key' · = key a) = [] := by
        rw [List.filter_eq_nil_iff]
        intro b hb heq
        rw [decide_eq_true_eq, hkey first List.mem_cons_self b hb] at heq
        exact hfirst (heq ▸ List.mem_map_of_mem ha)
      rw [hnone, List.nil_append, ih hkey' hrest ha]

namespace Call

/-- The requests of a source in their turns. -/
def visitsFor (s : Surroundings ω) (c : Call ω) (id : String) : List (Visit ω) :=
  (c.visits s).filter (·.request.source = id)

/-- The rows of a source. -/
def rowsOf (s : Surroundings ω) (c : Call ω) (id : String) : List (List Reading) :=
  (c.visitsFor s id).filterMap (·.row?)

/-- The reports of a batch. -/
def reports (s : Surroundings ω) (c : Call ω) : List Report :=
  (c.visits s).map (·.report)

variable {c : Call ω}

/-- A turn has the requests of its source and no others. -/
theorem visitsFor_of_mem {t : Turn ω} (ht : t ∈ c.turns s) : c.visitsFor s t.id = t.visits s := by
  have hkey : ∀ u ∈ c.turns s, ∀ v ∈ u.visits s, v.request.source = u.id := by
    intro u hu v hv
    have hrequest := Turn.request_mem hv
    rw [requests_of_mem_turnsOf hu] at hrequest
    exact (mem_requestsOf.1 hrequest).2
  have hnodup : ((c.turns s).map (·.id)).Nodup := by
    rw [map_id_turns]
    exact nodup_batchSources _
  exact filter_flatMap_of_nodup Turn.id (fun v : Visit ω => v.request.source) hkey hnodup ht

theorem visitsFor_eq_nil {id : String} (h : ∀ r ∈ c.batch, r.source ≠ id) :
    c.visitsFor s id = [] := by
  rw [visitsFor, List.filter_eq_nil_iff]
  intro v hv heq
  exact h _ (request_mem hv) (of_decide_eq_true heq)

/-- **The rows of a batch are those of its sources**, in the order in which they first appear. -/
theorem rows_eq_flatMap {rows : List (List Reading)} (h : c.rows s = .ok rows) :
    rows = (batchSources c.batch).flatMap (c.rowsOf s) := by
  rw [rows_eq h, visits, ← map_id_turns (s := s), List.flatMap_map]
  generalize hturns : c.turns s = turns
  have hmem : ∀ t ∈ turns, t ∈ c.turns s := fun t ht => hturns ▸ ht
  clear hturns
  induction turns with
  | nil => rfl
  | cons t turns ih =>
    rw [List.flatMap_cons, List.flatMap_cons, List.filterMap_append,
      ih fun u hu => hmem u (List.mem_cons_of_mem _ hu), rowsOf,
      visitsFor_of_mem (hmem t List.mem_cons_self)]

/-- If a batch has rows and every source has a client, each source has the turns of its requests. -/
theorem map_request_visitsFor {rows : List (List Reading)} (h : c.rows s = .ok rows)
    (hfound : ∀ t ∈ c.turns s, t.found s = true) (id : String) :
    (c.visitsFor s id).map (·.request) = requestsOf id c.batch := by
  by_cases hid : id ∈ batchSources c.batch
  · rw [← map_id_turns (s := s)] at hid
    obtain ⟨t, ht, rfl⟩ := List.mem_map.1 hid
    obtain ⟨part, hpart⟩ := rows_of_mem_turns h ht
    rw [visitsFor_of_mem ht, (Turn.eq_of_rows hpart).2.1, if_pos (hfound t ht)]
    exact requests_of_mem_turnsOf ht
  · -- there is no such request in the batch
    have hbatch : ∀ r ∈ c.batch, r.source ≠ id :=
      fun r hr heq => hid (mem_batchSources.2 ⟨r, hr, heq⟩)
    have hnone : requestsOf id c.batch = [] := by
      rw [requestsOf, List.filter_eq_nil_iff]
      exact fun r hr heq => hbatch r hr (of_decide_eq_true heq)
    rw [visitsFor_eq_nil hbatch, hnone]
    rfl

theorem map_report_visitsFor (id : String) :
    (c.visitsFor s id).map (·.report) = (c.reports s).filter (·.request.source = id) := by
  rw [reports, List.filter_map]
  rfl

theorem rowsOf_eq (id : String) :
    c.rowsOf s id = ((c.visitsFor s id).map (·.report)).filterMap (·.row?) := by
  rw [rowsOf, List.filterMap_map]
  exact congrArg (List.filterMap · _) (funext fun v => v.row?_eq)

section Carried

variable (hcarries : ∀ v ∈ c.visits s, v.client.source.id = v.request.source)

include hcarries

/-- The metrics that a source was asked for after a batch. -/
theorem after_asked (id : String) :
    (c.before.process s c.batch).2.events.filterMap (·.metricOf? id) =
      c.before.events.filterMap (·.metricOf? id) ++
        ((c.visitsFor s id).map (·.report)).filterMap (·.metricOf? id) := by
  have hchain := (chained_call (byVisits_asked s id) c).collect (·.metricOf? id) fun v hv =>
    v.after_asked (hcarries v hv) id
  rw [hchain, map_report_visitsFor, List.filterMap_filter]
  -- reports of other sources are no calls to this one
  congr 2
  funext p
  by_cases hid : p.request.source = id
  · simp [hid]
  · simp [hid, Report.metricOf?]

/-- How often a timer was used after a batch. -/
theorem after_timed (timer : String) :
    ((c.before.process s c.batch).2.metrics.latency timer).count =
      (c.before.metrics.latency timer).count + (c.reports s).countP (·.uses timer) :=
  (chained_call (byVisits_timed s timer) c).count (·.uses timer) fun v hv =>
    v.after_uses (hcarries v hv) timer

end Carried

/-- The counts after a batch all of whose sources have clients. -/
theorem after_counts (hfound : ∀ t ∈ c.turns s, t.found s = true) (o : Outcome) :
    (c.before.process s c.batch).2.metrics.counts.get o =
      c.before.metrics.counts.get o + (c.reports s).countP (·.fate.outcome? = some o) := by
  have hmissed : (c.turns s).countP (·.missed s) = 0 := by
    rw [List.countP_eq_zero]
    intro t ht
    have hclient := hfound t ht
    rw [Turn.found] at hclient
    rw [Turn.missed]
    split at hclient
    · rename_i hc
      rw [hc]
      exact Bool.false_ne_true
    · cases hclient
  rw [c.process_counts (s := s) o, hmissed, ite_self, Nat.add_zero, reports, List.countP_map]
  rfl

end Call

end MetricIntake
