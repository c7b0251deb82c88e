import MetricIntake.Proofs.Run

/-!
# What visits hand on

A part of an intake that a call changes only through its visits (`ByVisits`) is handed on from each
visit to the next: `Chained`.  `chained_call` says so of every call.  The store is handed on through
a whole run if nothing expires in it and it stays up or down (`Command.Spares`):
`chained_store_run`.
-/

namespace MetricIntake

variable {ω α : Type}

/-! ### Chains of visits -/

/-- Visits of which each finds a part of the intake as the one before left it. -/
inductive Chained (f : Intake ω → α) : α → List (Visit ω) → α → Prop
  | nil (x : α) : Chained f x [] x
  | cons {x y : α} {v : Visit ω} {vs : List (Visit ω)} (hx : f v.before = x)
      (h : Chained f (f v.after) vs y) : Chained f x (v :: vs) y

namespace Chained

variable {f : Intake ω → α} {x y z : α} {vs ws : List (Visit ω)} {v : Visit ω}

theorem append (h : Chained f x vs y) (h' : Chained f y ws z) : Chained f x (vs ++ ws) z := by
  induction h with
  | nil x => exact h'
  | cons hx _ ih => exact .cons hx (ih h')

/-- A visit of a chain finds what those before it left. -/
theorem split {past rest : List (Visit ω)} (h : Chained f x (past ++ v :: rest) y) :
    Chained f x past (f v.before) ∧ Chained f (f v.after) rest y := by
  induction past generalizing x with
  | nil =>
    cases h with
    | cons hx h =>
      subst hx
      exact ⟨.nil _, h⟩
  | cons u past ih =>
    cases h with
    | cons hx h =>
      obtain ⟨hpast, hrest⟩ := ih h
      exact ⟨.cons hx hpast, hrest⟩

/-- Visits that leave the part as it is can be left out. -/
theorem filter (p : Visit ω → Bool) (h : Chained f x vs y)
    (hout : ∀ v ∈ vs, p v = false → f v.after = f v.before) : Chained f x (vs.filter p) y := by
  induction h with
  | nil x => exact .nil x
  | @cons x y v vs hx _ ih =>
    have ih := ih fun w hw => hout w (List.mem_cons_of_mem _ hw)
    cases hp : p v with
    | true =>
      rw [List.filter_cons_of_pos hp]
      exact .cons hx ih
    | false =>
      rw [List.filter_cons_of_neg (by rw [hp]; exact Bool.false_ne_true), ← hx,
        ← hout v List.mem_cons_self hp]
      exact ih

/-- What each visit that finds it leaves as it is, all of them do. -/
theorem eq_of_kept (h : Chained f x vs y) (hkept : ∀ v ∈ vs, f v.before = x → f v.after = x) :
    (∀ v ∈ vs, f v.before = x) ∧ y = x := by
  induction h with
  | nil x => exact ⟨fun v hv => absurd hv List.not_mem_nil, rfl⟩
  | @cons x y v vs hx _ ih =>
    have hv : f v.after = x := hkept v List.mem_cons_self hx
    rw [hv] at ih
    obtain ⟨hall, hy⟩ := ih fun w hw => hkept w (List.mem_cons_of_mem _ hw)
    exact ⟨List.forall_mem_cons.2 ⟨hx, hall⟩, hy⟩

/-- What each visit leaves as it is, all of them do. -/
theorem eq_of_forall (h : Chained f x vs y) (hsame : ∀ v ∈ vs, f v.after = f v.before) :
    (∀ v ∈ vs, f v.before = x) ∧ y = x :=
  h.eq_of_kept fun v hv hx => (hsame v hv).trans hx

end Chained

/-! ### Calls -/

/-- A part of an intake that nothing in a call changes but a visit. -/
structure ByVisits (s : Surroundings ω) (f : Intake ω → α) : Prop where
  say : ∀ k records, f (Intake.say k records) = f k
  resolve : ∀ k id, f (Intake.resolve s id k).2 = f k
  connect : ∀ k client, f (Intake.cacheOf s client k).2 = f k
  /-- A source has no client. -/
  miss : ∀ k, f (Intake.count k .failed) = f k

/-- What depends on such a part is one as well. -/
theorem ByVisits.comp {β : Type} {s : Surroundings ω} {f : Intake ω → α} (hf : ByVisits s f)
    (g : α → β) : ByVisits s fun k => g (f k) where
  say k records := congrArg g (hf.say k records)
  resolve k id := congrArg g (hf.resolve k id)
  connect k client := congrArg g (hf.connect k client)
  miss k := congrArg g (hf.miss k)

section Calls

variable {s : Surroundings ω} {f : Intake ω → α}

theorem chained_visitsOf (client : Client ω) (cache : Cache) (requests : List Request)
    (k : Intake ω) :
    Chained f (f k) (visitsOf client cache requests k)
      (f (k.processRequests client cache requests).2) := by
  induction requests generalizing k with
  | nil => exact .nil _
  | cons r rest ih =>
    let v : Visit ω := { request := r, client, cache, before := k }
    cases hanswer : v.answer with
    | error fault =>
      obtain ⟨hp, hvs⟩ := processRequests_of_error hanswer rest
      rw [hvs, hp]
      exact .cons rfl (.nil _)
    | ok reading? =>
      obtain ⟨hp, hvs⟩ := processRequests_of_ok hanswer rest
      rw [hvs, hp]
      exact .cons rfl (ih v.after)

theorem chained_turn (hf : ByVisits s f) (t : Turn ω) :
    Chained f (f t.before) (t.visits s) (f (t.after s)) := by
  have hresolve : f (t.before.resolve s t.id).2 = f t.before := hf.resolve _ _
  cases hc : t.client? s with
  | error fault =>
    obtain ⟨-, hvs, hafter⟩ := Turn.eq_of_error hc
    rw [hvs, hafter, hresolve]
    exact .nil _
  | ok client? =>
    cases client? with
    | none =>
      obtain ⟨-, hvs, records, hafter⟩ := Turn.eq_of_none hc
      rw [hvs, hafter, hf.miss, hf.say, hresolve]
      exact .nil _
    | some client =>
      have hconnect : f ((t.before.resolve s t.id).2.cacheOf s client).2 = f t.before :=
        (hf.connect _ _).trans hresolve
      obtain ⟨fault, -, -, hvs, hafter⟩ | ⟨bound, -, -, hafter, hvs⟩ := Turn.eq_of_some hc
      · rw [hvs, hafter, hconnect]
        exact .nil _
      · rw [hvs, hafter, ← hconnect]
        exact chained_visitsOf client bound.cache t.requests _

theorem chained_turnsOf (hf : ByVisits s f) (batch : List Request) (ids : List String)
    (k : Intake ω) :
    Chained f (f k) ((turnsOf s batch ids k).flatMap (·.visits s))
      (f (k.processSources s batch ids).2) := by
  induction ids generalizing k with
  | nil => exact .nil _
  | cons id ids ih =>
    rw [processSources_cons]
    exact (chained_turn hf { id, requests := requestsOf id batch, before := k }).append (ih _)

/-- **A call hands on from visit to visit what nothing else in it changes.** -/
theorem chained_call (hf : ByVisits s f) (c : Call ω) :
    Chained f (f c.before) (c.visits s) (f (c.before.process s c.batch).2) := by
  obtain ⟨records, h⟩ := process_snd (s := s) c.batch c.before
  rw [h, hf.say]
  exact chained_turnsOf hf c.batch (batchSources c.batch) c.before

end Calls

/-! ### The store in a run -/

theorem byVisits_store (s : Surroundings ω) : ByVisits s Intake.store where
  say _ _ := rfl
  resolve k id := k.resolve_store s id
  connect k client := k.cacheOf_store s client
  miss _ := rfl

/-- The store goes through an interlude as it is: nothing expires, and it stays up or down. -/
structure Interlude.Spares (i : Interlude ω) (store : Store) : Prop where
  expired : i.expired = []
  readFailure : i.readFailure = store.readFailure
  writeFailure : i.writeFailure = store.writeFailure

/-- Nothing but the visits of a command changes the store. -/
def Command.Spares (store : Store) : Command ω → Prop
  | .elapse i => i.Spares store
  | _ => True

theorem Intake.elapse_store {i : Interlude ω} {k : Intake ω} (h : i.Spares k.store) :
    (k.elapse i).store = k.store := by
  unfold elapse
  rw [h.expired, h.readFailure, h.writeFailure]
  rfl

theorem Chained.failures {x y : Store} {vs : List (Visit ω)} (h : Chained Intake.store x vs y) :
    y.readFailure = x.readFailure ∧ y.writeFailure = x.writeFailure := by
  induction h with
  | nil x => exact ⟨rfl, rfl⟩
  | @cons x y v vs hx _ ih =>
    subst hx
    exact ⟨ih.1.trans v.after_failures.1, ih.2.trans v.after_failures.2⟩

theorem Command.Spares.congr {store store' : Store} {command : Command ω}
    (h : command.Spares store)
    (hsame : store'.readFailure = store.readFailure ∧ store'.writeFailure = store.writeFailure) :
    command.Spares store' := by
  cases command with
  | elapse i => exact ⟨h.expired, h.readFailure.trans hsame.1.symm,
      h.writeFailure.trans hsame.2.symm⟩
  | _ => trivial

/-- **The store is handed on through a run** in which nothing expires. -/
theorem chained_store_run {s : Surroundings ω} {commands : List (Command ω)} {k : Intake ω}
    (h : ∀ command ∈ commands, command.Spares k.store) :
    Chained Intake.store k.store (visits s commands k) (k.run s commands).store := by
  induction commands generalizing k with
  | nil => exact .nil _
  | cons command rest ih =>
    have hrest : ∀ command ∈ rest, command.Spares k.store :=
      fun c hc => h c (List.mem_cons_of_mem _ hc)
    cases command with
    | process batch =>
      have hcall := chained_call (byVisits_store s) { batch, before := k }
      have hmore := ih (k := (k.process s batch).2) fun c hc =>
        (hrest c hc).congr hcall.failures
      exact hcall.append hmore
    | reset id? => exact ih (k := k.reset id?) hrest
    | trigger => exact ih (k := k.trigger) hrest
    | elapse i =>
      have helapse : (k.elapse i).store = k.store :=
        Intake.elapse_store (h (.elapse i) List.mem_cons_self)
      have hmore := ih (k := k.elapse i) (by rw [helapse]; exact hrest)
      rw [helapse] at hmore
      exact hmore

end MetricIntake
