import MetricIntake.Proofs.Bindings
import MetricIntake.Proofs.Scripted

/-!
# Sources whose replies are known

A source answers as `answer` says if its replies depend on the metric and the time only
(`Source.Answers`), and `Surroundings.Builds` says of an id that such a source can always be built
for it.  A batch takes no client away (`process_keeps`) and needs no other sources than its own
(`turnsOf_only`).
-/

namespace MetricIntake

variable {ω : Type} {s : Surroundings ω}

/-- What the source replies depends on the metric and the time only. -/
def Source.Answers (source : Source ω) (answer : String → UtcTime → Reply) : Prop :=
  ∀ name now w, (source.ask name now w).1 = answer name now

/-- The source carries the id and answers as `answer` says. -/
structure Source.AnswersFor (id : String) (answer : String → UtcTime → Reply) (source : Source ω) :
    Prop where
  carries : source.id = id
  answers : source.Answers answer

/-- For the id there is always a source, which carries it and answers as `answer` says. -/
def Surroundings.Builds (s : Surroundings ω) (id : String) (answer : String → UtcTime → Reply) :
    Prop :=
  ∀ w, ∃ source, (s.build id w).1 = .ok source ∧ source.AnswersFor id answer

/-- All sources that are built for the id are such ones. -/
theorem Surroundings.Builds.of_ok {id : String} {answer : String → UtcTime → Reply}
    (h : s.Builds id answer) {w : ω} {source : Source ω} (hbuild : (s.build id w).1 = .ok source) :
    source.AnswersFor id answer := by
  obtain ⟨source', hbuild', hsource⟩ := h w
  obtain rfl := Except.ok.inj (hbuild.symm.trans hbuild')
  exact hsource

/-- The reply of a source that answers as it should. -/
theorem Visit.reply_of_answers {v : Visit ω} {answer : String → UtcTime → Reply}
    (h : v.client.source.Answers answer) :
    v.reply = answer v.request.name v.before.clock.now :=
  h _ _ _

/-- A source that can always be built has a client. -/
theorem Intake.resolve_of_builds {id : String} {answer : String → UtcTime → Reply}
    (h : s.Builds id answer) (k : Intake ω) :
    ∃ client, (k.resolve s id).1 = .ok (some client) := by
  cases hc : k.resolver.client? id with
  | some client => exact ⟨client, by rw [resolve_of_some hc]⟩
  | none =>
    obtain ⟨source, hbuild, -⟩ := h k.outside
    have hfound := (resolve_of_none (s := s) hc).1
    rw [hbuild] at hfound
    rcases hr : (k.resolve s id).1 with f | _ | client
    · rw [hr] at hfound
      cases hfound
    · rw [hr] at hfound
      cases hfound
    · exact ⟨client, rfl⟩

/-! ### Clients that are kept -/

section Kept

variable {id : String} {client : Client ω}

theorem resolve_keeps {k : Intake ω} (h : k.resolver.client? id = some client) (other : String) :
    (k.resolve s other).2.resolver.client? id = some client := by
  cases hother : k.resolver.client? other with
  | some bound =>
    rw [Intake.resolve_of_some hother]
    exact h
  | none =>
    obtain ⟨-, -, -, hclients⟩ := Intake.resolve_of_none (s := s) hother
    have hne : id ≠ other := by
      rintro rfl
      rw [h] at hother
      cases hother
    rw [hclients, if_neg hne, h]

theorem processRequests_resolver (client : Client ω) (cache : Cache) (requests : List Request)
    (k : Intake ω) : (k.processRequests client cache requests).2.resolver = k.resolver := by
  induction requests generalizing k with
  | nil => rfl
  | cons r rest ih =>
    let v : Visit ω := { request := r, client, cache, before := k }
    cases h : v.answer with
    | error f =>
      obtain ⟨hp, -⟩ := processRequests_of_error h rest
      rw [hp]
      exact v.after_resolver
    | ok reading? =>
      obtain ⟨hp, -⟩ := processRequests_of_ok h rest
      rw [hp]
      exact (ih v.after).trans v.after_resolver

/-- A turn changes the clients only as it looks for its own. -/
theorem Turn.after_resolver (t : Turn ω) :
    (t.after s).resolver = (t.before.resolve s t.id).2.resolver := by
  cases hc : t.client? s with
  | error f =>
    obtain ⟨-, -, hafter⟩ := Turn.eq_of_error hc
    rw [hafter]
  | ok client? =>
    cases client? with
    | none =>
      obtain ⟨-, -, records, hafter⟩ := Turn.eq_of_none hc
      rw [hafter]
      rfl
    | some client =>
      obtain ⟨f, -, -, -, hafter⟩ | ⟨bound, -, -, hafter, -⟩ := Turn.eq_of_some hc
      · rw [hafter]
        exact Intake.cacheOf_resolver ..
      · rw [hafter, processRequests_resolver]
        exact Intake.cacheOf_resolver ..

theorem Turn.after_keeps {t : Turn ω} (h : t.before.resolver.client? id = some client) :
    (t.after s).resolver.client? id = some client := by
  rw [Turn.after_resolver]
  exact resolve_keeps h t.id

/-- No turn takes the client of a source away. -/
theorem turnsOf_keeps (batch : List Request) (ids : List String) {k : Intake ω}
    (h : k.resolver.client? id = some client) :
    (∀ t ∈ turnsOf s batch ids k, t.before.resolver.client? id = some client) ∧
      (k.processSources s batch ids).2.resolver.client? id = some client := by
  induction ids generalizing k with
  | nil => exact ⟨fun t ht => absurd ht List.not_mem_nil, h⟩
  | cons first ids ih =>
    let t : Turn ω := { id := first, requests := requestsOf first batch, before := k }
    have hafter : (t.after s).resolver.client? id = some client := Turn.after_keeps h
    obtain ⟨hturns, hend⟩ := ih hafter
    rw [processSources_cons]
    refine ⟨?_, hend⟩
    rintro u (_ | ⟨_, hu⟩)
    · exact h
    · exact hturns u hu

/-- No batch takes the client of a source away. -/
theorem process_keeps {k : Intake ω} (h : k.resolver.client? id = some client)
    (batch : List Request) : (k.process s batch).2.resolver.client? id = some client :=
  (turnsOf_keeps batch (batchSources batch) h).2

end Kept

/-! ### Sources that are not needed -/

/-- Surroundings in which no other sources can be built. -/
def Surroundings.only (s : Surroundings ω) (ids : List String) : Surroundings ω :=
  { s with
    build := fun id w =>
      if id ∈ ids then s.build id w
      else (.error (.source { kind := .config, source := id, message := "" }), w) }

/-- The source has a client or is one of some. -/
def Intake.HasOrIn (k : Intake ω) (ids : List String) (id : String) : Prop :=
  id ∈ ids ∨ ∃ client, k.resolver.client? id = some client

section Only

variable {ids : List String}

theorem Surroundings.only_build {id : String} (hid : id ∈ ids) :
    (s.only ids).build id = s.build id :=
  funext fun _ => if_pos hid

/-- A source that can be built although no others can is one of these. -/
theorem Surroundings.of_only_build {id : String} {w : ω} {source : Source ω}
    (h : ((s.only ids).build id w).1 = .ok source) :
    id ∈ ids ∧ (s.build id w).1 = .ok source := by
  by_cases hid : id ∈ ids
  · rw [only_build hid] at h
    exact ⟨hid, h⟩
  · simp [only, hid] at h

/-- A client is found or built as if all sources could be. -/
theorem Intake.resolve_only {k : Intake ω} {id : String} (h : k.HasOrIn ids id) :
    k.resolve (s.only ids) id = k.resolve s id := by
  rcases h with hid | ⟨client, hclient⟩
  · unfold resolve
    rw [Surroundings.only_build hid]
  · rw [resolve_of_some hclient, resolve_of_some hclient]

/-- A batch needs no other sources than its own. -/
theorem turnsOf_only (batch : List Request) {needed : List String} {k : Intake ω}
    (hneeded : ∀ id ∈ needed, k.HasOrIn ids id) :
    turnsOf (s.only ids) batch needed k = turnsOf s batch needed k ∧
      k.processSources (s.only ids) batch needed = k.processSources s batch needed ∧
      ∀ t ∈ turnsOf s batch needed k, t.before.HasOrIn ids t.id := by
  induction needed generalizing k with
  | nil => exact ⟨rfl, rfl, fun t ht => absurd ht List.not_mem_nil⟩
  | cons id rest ih =>
    let t : Turn ω := { id, requests := requestsOf id batch, before := k }
    have hsource : k.processSource (s.only ids) id (requestsOf id batch) =
        k.processSource s id (requestsOf id batch) := by
      unfold Intake.processSource
      rw [Intake.resolve_only (hneeded id List.mem_cons_self)]
      rfl
    -- the clients that there are stay
    have hrest : ∀ other ∈ rest, (t.after s).HasOrIn ids other := by
      intro other hother
      rcases hneeded other (List.mem_cons_of_mem _ hother) with hin | ⟨client, hclient⟩
      · exact .inl hin
      · exact .inr ⟨client, Turn.after_keeps hclient⟩
    obtain ⟨hturns, hsources, hhas⟩ := ih hrest
    refine ⟨?_, ?_, ?_⟩
    · rw [turnsOf, turnsOf, Turn.after, Turn.after, hsource]
      exact congrArg _ hturns
    · simp only [processSources_cons, Turn.rows, Turn.after, hsource]
      exact congrArg (fun p : _ × Intake ω => ((id, t.rows s) :: p.1, p.2)) hsources
    · rintro u (_ | ⟨_, hu⟩)
      · exact hneeded id List.mem_cons_self
      · exact hhas u hu

end Only

/-! ### Scripts -/

/-- A script in which it does not matter how often the source was asked. -/
def Script.steady (answer : String → Reply) : Script := fun _ name => answer name

theorem Surroundings.scripted_builds {scripts : String → Option Script} {id : String}
    {answer : String → Reply} (h : scripts id = some (.steady answer)) :
    (Surroundings.scripted scripts).Builds id fun name _ => answer name := by
  intro w
  refine ⟨.scripted id (.steady answer), ?_, rfl, fun name now w => rfl⟩
  unfold scripted
  dsimp only
  rw [h]

/-- What a source replies that has a sample of one metric and of no others. -/
def oneMetric (name : String) : Reply :=
  if name = "m" then
    .plain (.ok (some { name := "m", value := "1", updatedAt := "2026-01-20T10:15:00Z" }))
  else .plain (.ok none)

end MetricIntake
