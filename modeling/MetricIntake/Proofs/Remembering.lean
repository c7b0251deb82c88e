import MetricIntake.Proofs.Ownership

/-!
# What a resolver remembers

Whatever is resolved and forgotten, a source has the client that was last returned for it, unless it
was forgotten since: `Remembers`, which is about the calls and their answers only.  Such a client is
returned again, and where there is none the source is built: `resolver_memoizes`.

To forget everything goes through the ids that are known, and not through the clients.  That none is
left out, and none returned twice, is the invariant `Resolver.Listed`.
-/

namespace MetricIntake

variable {ω : Type}

/-! ### Calls and answers -/

/-- A call of a resolver. -/
inductive ResolverCall
  | resolve (id : String)
  | reset (id? : Option String)
deriving DecidableEq, Repr

/-- After the call an id has no client. -/
def ResolverCall.forgets (id : String) : ResolverCall → Bool
  | .resolve _ => false
  | .reset none => true
  | .reset (some other) => other = id

/-- What a call returns. -/
inductive ResolverAnswer (ω : Type)
  | found (outcome : Except Failure (Option (Client ω)))
  | dropped (clients : List (Client ω))

namespace Intake

/-- What a call returns, and the intake after it. -/
def answer (s : Surroundings ω) (k : Intake ω) : ResolverCall → ResolverAnswer ω × Intake ω
  | .resolve id => (.found (k.resolve s id).1, (k.resolve s id).2)
  | .reset id? =>
    (.dropped (k.resolver.reset id?).1, { k with resolver := (k.resolver.reset id?).2 })

/-- Calls one after another, each with what it returned, and the intake after all of them. -/
def answers (s : Surroundings ω) :
    List ResolverCall → Intake ω → List (ResolverCall × ResolverAnswer ω) × Intake ω
  | [], k => ([], k)
  | call :: calls, k =>
    let (answer, k) := k.answer s call
    let (past, k) := answers s calls k
    ((call, answer) :: past, k)

end Intake

/-- A call for the id returned the client, and no call after it forgets the client. -/
def Remembers (past : List (ResolverCall × ResolverAnswer ω)) (id : String) (client : Client ω) :
    Prop :=
  ∃ earlier later, past = earlier ++ (.resolve id, .found (.ok (some client))) :: later ∧
    ∀ entry ∈ later, entry.1.forgets id = false

/-- With one more call, what is remembered is what the call returns, or what was remembered and is
not forgotten. -/
theorem remembers_concat {past : List (ResolverCall × ResolverAnswer ω)} {call : ResolverCall}
    {answer : ResolverAnswer ω} {id : String} {client : Client ω} :
    Remembers (past ++ [(call, answer)]) id client ↔
      (call = .resolve id ∧ answer = .found (.ok (some client))) ∨
        Remembers past id client ∧ call.forgets id = false := by
  constructor
  · rintro ⟨earlier, later, hpast, hkept⟩
    -- the call in question is the last one, or the last one comes after it
    obtain rfl | ⟨between, last, rfl⟩ := later.eq_nil_or_concat'
    · obtain ⟨-, hlast⟩ := List.append_inj' hpast rfl
      obtain ⟨rfl, rfl⟩ := Prod.mk.inj (List.cons.inj hlast).1
      exact .inl ⟨rfl, rfl⟩
    · rw [← List.cons_append, ← List.append_assoc] at hpast
      obtain ⟨hbefore, hlast⟩ := List.append_inj' hpast rfl
      obtain rfl := (List.cons.inj hlast).1
      refine .inr ⟨⟨earlier, between, hbefore, fun entry h => ?_⟩, ?_⟩
      · exact hkept entry (List.mem_append_left _ h)
      · exact hkept _ (List.mem_append_right _ List.mem_cons_self)
  · rintro (⟨rfl, rfl⟩ | ⟨⟨earlier, later, rfl, hkept⟩, hcall⟩)
    · exact ⟨past, [], rfl, fun _ h => absurd h List.not_mem_nil⟩
    · refine ⟨earlier, later ++ [(call, answer)], by simp, ?_⟩
      intro entry hentry
      rcases List.mem_append.1 hentry with h | h
      · exact hkept entry h
      · rw [List.mem_singleton.1 h]
        exact hcall

/-! ### Ids that are known -/

namespace Resolver

/-- The known ids are different ones, and those of all clients are among them. -/
structure Listed (r : Resolver ω) : Prop where
  once : r.known.Nodup
  known : ∀ ⦃id client⦄, r.client? id = some client → id ∈ r.known

variable {r : Resolver ω}

theorem listed_empty : (empty : Resolver ω).Listed where
  once := List.nodup_nil
  known := by
    rintro id client ⟨⟩

theorem Listed.note (h : r.Listed) (id : String) : (r.note id).Listed where
  once := by
    unfold Resolver.note
    split
    · exact h.once
    · rename_i hnew
      have hnot : id ∉ r.known := by simpa using hnew
      exact List.nodup_append.2 ⟨h.once, List.nodup_singleton id,
        fun other hother _ hid heq => hnot (List.mem_singleton.1 hid ▸ heq ▸ hother)⟩
  known := by
    intro other client hclient
    rw [client?_note] at hclient
    exact mem_known_note.2 (.inl (h.known hclient))

/-- An id is noted before it has a client. -/
theorem Listed.bind (h : r.Listed) (id : String) (source : Source ω) :
    ((r.note id).bind id source).2.Listed where
  once := (h.note id).once
  known := by
    intro other client hclient
    rw [client?_bind, client?_note] at hclient
    refine mem_known_note.2 ?_
    split at hclient
    · rename_i hid
      exact .inr hid
    · exact .inl (h.known hclient)

theorem Listed.drop (h : r.Listed) (ids : List String) : (r.drop ids).2.Listed := by
  induction ids generalizing r with
  | nil => exact h
  | cons id ids ih =>
    rw [(drop_cons id ids).1]
    refine ih ⟨(h.note id).once, ?_⟩
    intro other client hclient
    rw [client?_unbind] at hclient
    split at hclient
    · cases hclient
    · exact (h.note id).known hclient

/-- Of different ids, each client is returned once, in their order. -/
theorem dropped_eq_filterMap {ids : List String} (once : ids.Nodup) :
    (r.drop ids).1 = ids.filterMap r.client? := by
  induction ids generalizing r with
  | nil => rfl
  | cons id ids ih =>
    obtain ⟨hnot, once⟩ := List.nodup_cons.1 once
    have hrest : ids.filterMap ((r.note id).unbind id).client? = ids.filterMap r.client? := by
      refine List.filterMap_congr fun other hother => ?_
      rw [client?_unbind, client?_note, if_neg (ne_of_mem_of_not_mem hother hnot)]
    rw [(drop_cons id ids).2, ih once, hrest, List.filterMap_cons]
    cases r.client? id <;> rfl

/-- **A reset forgets all that it covers**, and nothing else. -/
theorem Listed.client?_reset (h : r.Listed) (id? : Option String) (id : String) :
    (r.reset id?).2.client? id =
      if (ResolverCall.reset id?).forgets id then none else r.client? id := by
  cases id? with
  | some other =>
    rw [reset, client?_drop, ResolverCall.forgets]
    exact if_congr (by simp [eq_comm]) rfl rfl
  | none =>
    rw [reset, client?_drop, ResolverCall.forgets, if_pos rfl]
    split
    · rfl
    · -- an id that is not known has no client
      rename_i hunknown
      exact Option.eq_none_iff_forall_ne_some.2 fun client hclient => hunknown (h.known hclient)

/-- The clients that some ids have are those of the ids that have one. -/
theorem map_some_filterMap (ids : List String) :
    (ids.filterMap r.client?).map some =
      (ids.filter fun id => (r.client? id).isSome).map r.client? := by
  induction ids with
  | nil => rfl
  | cons id ids ih =>
    rw [List.filterMap_cons, List.filter_cons]
    cases hc : r.client? id with
    | none => exact ih
    | some client => simp [hc, ih]

/-- To forget everything returns the client of each id that has one, once, and binds none. -/
structure Empties (r : Resolver ω) : Prop where
  dropped : ∃ ids : List String, ids.Nodup ∧
    (∀ id, id ∈ ids ↔ ∃ client, r.client? id = some client) ∧
    (r.reset none).1.map some = ids.map r.client?
  /-- They are different clients. -/
  once : ((r.reset none).1.map (·.serial)).Nodup
  empty : ∀ id, (r.reset none).2.client? id = none

theorem Listed.empties (h : r.Listed)
    (apart : ∀ ⦃id id' client client'⦄, r.client? id = some client →
      r.client? id' = some client' → client.serial = client'.serial → id = id') : r.Empties := by
  have hdropped : (r.reset none).1 = r.known.filterMap r.client? := dropped_eq_filterMap h.once
  refine ⟨⟨r.known.filter fun id => (r.client? id).isSome, h.once.filter _, ?_, ?_⟩, ?_, ?_⟩
  · intro id
    rw [List.mem_filter, Option.isSome_iff_exists]
    constructor
    · exact And.right
    · rintro ⟨client, hclient⟩
      exact ⟨h.known hclient, client, hclient⟩
  · rw [hdropped, map_some_filterMap]
  · rw [hdropped, List.map_filterMap]
    refine h.once.filterMap ?_
    intro id id' serial hid hid'
    obtain ⟨client, hclient, rfl⟩ := Option.map_eq_some_iff.1 hid
    obtain ⟨client', hclient', hserial⟩ := Option.map_eq_some_iff.1 hid'
    exact apart hclient hclient' hserial.symm
  · intro id
    rw [h.client?_reset none id]
    rfl

end Resolver

/-! ### One call -/

namespace Intake

variable {s : Surroundings ω} {k : Intake ω} {id : String}

/-- For an id that has no client a call returns a new client of the source that is built, none if
the source is not available, and else it raises. -/
theorem resolve_fst_of_none (h : k.resolver.client? id = none) :
    (k.resolve s id).1 =
      match (s.build id k.outside).1 with
      | .ok source => .ok (some { serial := k.resolver.next, source })
      | .error (.source _) => .ok none
      | .error (.fault f) => .error (.fault f) := by
  unfold resolve emit
  rw [h]
  dsimp only
  rcases s.build id k.outside with ⟨(e | f) | source, outside⟩
  · rfl
  · rfl
  · show Except.ok (some (Client.mk (k.resolver.note id).next source)) = _
    rw [Resolver.note_next]

/-- The client that is returned for an id is the one that is bound to it. -/
theorem resolve_eq_ok_iff {client : Client ω} :
    (k.resolve s id).1 = .ok (some client) ↔
      (k.resolve s id).2.resolver.client? id = some client := by
  refine ⟨client?_of_resolve, fun h => ?_⟩
  cases hc : k.resolver.client? id with
  | some bound =>
    rw [resolve_of_some hc] at h ⊢
    exact congrArg Except.ok (hc.symm.trans h)
  | none =>
    rw [(resolve_of_none hc).2.2.2, if_pos rfl] at h
    rw [resolve_fst_of_none hc]
    split at h
    · rename_i source hbuild
      rw [hbuild, ← h]
    · cases h

/-- A call for one id leaves the client of another. -/
theorem client?_resolve_of_ne {other : String} (h : other ≠ id) :
    (k.resolve s id).2.resolver.client? other = k.resolver.client? other := by
  cases hc : k.resolver.client? id with
  | some client => rw [resolve_of_some hc]
  | none => rw [(resolve_of_none hc).2.2.2, if_neg h]

/-- How the source of an id that has no client is built. -/
structure Builds (s : Surroundings ω) (k : Intake ω) (id : String) : Prop where
  /-- It is built once. -/
  events : (k.resolve s id).2.events = k.events ++ [.built id]
  outside : (k.resolve s id).2.outside = (s.build id k.outside).2
  /-- The client is a new one, and it is bound. -/
  bound : ∀ source, (s.build id k.outside).1 = .ok source →
    ∃ client, client.source = source ∧ (k.resolve s id).1 = .ok (some client) ∧
      (k.resolve s id).2.resolver.client? id = some client ∧
      ∀ other old, k.resolver.client? other = some old → old.serial ≠ client.serial
  unavailable : ∀ e, (s.build id k.outside).1 = .error (.source e) →
    (k.resolve s id).1 = .ok none ∧ (k.resolve s id).2.resolver.client? id = none
  raised : ∀ f, (s.build id k.outside).1 = .error (.fault f) →
    (k.resolve s id).1 = .error (.fault f) ∧ (k.resolve s id).2.resolver.client? id = none

theorem builds_of_none (hk : k.Coherent s) (h : k.resolver.client? id = none) : k.Builds s id := by
  have hanswer := resolve_fst_of_none (s := s) h
  obtain ⟨-, houtside, hevents, hclients⟩ := resolve_of_none (s := s) h
  have hclient := hclients id
  rw [if_pos rfl] at hclient
  refine ⟨hevents, houtside, ?_, ?_, ?_⟩
  · intro source hbuild
    rw [hbuild] at hanswer hclient
    exact ⟨_, rfl, hanswer, hclient, fun other old hold => Nat.ne_of_lt (hk.numbered hold)⟩
  · intro e hbuild
    rw [hbuild] at hanswer hclient
    exact ⟨hanswer, hclient⟩
  · intro f hbuild
    rw [hbuild] at hanswer hclient
    exact ⟨hanswer, hclient⟩

/-! ### All calls -/

/-- The clients that are bound are those that the calls so far make them be. -/
structure Recalls (s : Surroundings ω) (past : List (ResolverCall × ResolverAnswer ω))
    (k : Intake ω) : Prop where
  coherent : k.Coherent s
  listed : k.resolver.Listed
  client?_iff : ∀ id client, k.resolver.client? id = some client ↔ Remembers past id client

namespace Recalls

variable {past : List (ResolverCall × ResolverAnswer ω)}

theorem resolve (h : k.Recalls s past) (id : String) :
    (k.resolve s id).2.Recalls s (past ++ [(.resolve id, .found (k.resolve s id).1)]) where
  coherent := h.coherent.resolve id
  listed := by
    cases hc : k.resolver.client? id with
    | some client =>
      rw [resolve_of_some hc]
      exact h.listed
    | none =>
      obtain ⟨source, -, hresolver⟩ | ⟨-, hresolver⟩ := resolve_cases (s := s) hc
      · rw [hresolver]
        exact h.listed.bind id source
      · rw [hresolver]
        exact h.listed.note id
  client?_iff := by
    intro other client
    rw [remembers_concat, ← h.client?_iff]
    by_cases ho : other = id
    · subst ho
      rw [← resolve_eq_ok_iff]
      constructor
      · intro hfound
        exact .inl ⟨rfl, congrArg _ hfound⟩
      · rintro (⟨-, hfound⟩ | ⟨hbound, -⟩)
        · exact ResolverAnswer.found.inj hfound
        · rw [resolve_of_some hbound]
    · rw [client?_resolve_of_ne ho]
      constructor
      · exact fun hbound => .inr ⟨hbound, rfl⟩
      · rintro (⟨hcall, -⟩ | ⟨hbound, -⟩)
        · exact absurd (ResolverCall.resolve.inj hcall).symm ho
        · exact hbound

theorem reset (h : k.Recalls s past) (id? : Option String) :
    ({ k with resolver := (k.resolver.reset id?).2 } : Intake ω).Recalls s
      (past ++ [(.reset id?, .dropped (k.resolver.reset id?).1)]) := by
  obtain ⟨ids, hids⟩ := k.resolver.reset_eq_drop id?
  refine ⟨?_, ?_, ?_⟩
  · rw [hids]
    exact h.coherent.of_le (fun _ _ => Resolver.client?_of_drop) (Resolver.next_drop ids)
      fun _ _ hcache => hcache
  · rw [hids]
    exact h.listed.drop ids
  · intro id client
    rw [remembers_concat, ← h.client?_iff]
    dsimp only
    rw [h.listed.client?_reset]
    cases (ResolverCall.reset id?).forgets id <;> simp

/-- **One call** does to the clients what it does to what is remembered. -/
theorem answer (h : k.Recalls s past) (call : ResolverCall) :
    (k.answer s call).2.Recalls s (past ++ [(call, (k.answer s call).1)]) := by
  cases call with
  | resolve id => exact h.resolve id
  | reset id? => exact h.reset id?

/-- All calls do. -/
theorem answers (h : k.Recalls s past) (calls : List ResolverCall) :
    (k.answers s calls).2.Recalls s (past ++ (k.answers s calls).1) := by
  induction calls generalizing k past with
  | nil =>
    rw [Intake.answers, List.append_nil]
    exact h
  | cons call calls ih =>
    have hcalls := ih (h.answer call)
    rw [List.append_assoc] at hcalls
    exact hcalls

end Recalls

theorem recalls_fresh (s : Surroundings ω) (outside : ω) (store : Store) (clock : Clock)
    (meter : String) : (Intake.fresh outside store clock meter).Recalls s [] where
  coherent := .fresh ..
  listed := Resolver.listed_empty
  client?_iff := by
    intro id client
    constructor
    · rintro ⟨⟩
    · rintro ⟨earlier, later, hpast, -⟩
      exact absurd hpast (by simp)

/-- What the next call does after some calls and their answers. -/
structure Memoizes (s : Surroundings ω) (past : List (ResolverCall × ResolverAnswer ω))
    (k : Intake ω) : Prop where
  binding : ∀ id client, k.resolver.client? id = some client ↔ Remembers past id client
  /-- A client that is remembered is returned, and nothing is done. -/
  hit : ∀ id client, Remembers past id client → k.resolve s id = (.ok (some client), k)
  miss : ∀ id, (∀ client, ¬ Remembers past id client) → k.Builds s id
  /-- A call for one id leaves the client of another. -/
  apart : ∀ id other, other ≠ id →
    (k.resolve s id).2.resolver.client? other = k.resolver.client? other ∧
      (k.resolver.reset (some id)).2.client? other = k.resolver.client? other
  resetOne : ∀ id, (k.resolver.reset (some id)).1 = (k.resolver.client? id).toList ∧
    (k.resolver.reset (some id)).2.client? id = none
  resetAll : k.resolver.Empties

theorem Recalls.memoizes {past : List (ResolverCall × ResolverAnswer ω)} (h : k.Recalls s past) :
    k.Memoizes s past where
  binding := h.client?_iff
  hit := fun id client hclient => resolve_of_some ((h.client?_iff id client).2 hclient)
  miss := by
    intro id hnone
    refine builds_of_none h.coherent (Option.eq_none_iff_forall_ne_some.2 ?_)
    exact fun client hclient => hnone client ((h.client?_iff id client).1 hclient)
  apart := by
    intro id other ho
    refine ⟨client?_resolve_of_ne ho, ?_⟩
    rw [h.listed.client?_reset, ResolverCall.forgets, if_neg]
    rw [decide_eq_true_eq]
    exact ho.symm
  resetOne := by
    intro id
    constructor
    · rw [Resolver.reset, Resolver.dropped_eq_filterMap (List.nodup_singleton id)]
      cases hc : k.resolver.client? id <;> simp [hc]
    · rw [h.listed.client?_reset, ResolverCall.forgets, if_pos (decide_eq_true rfl)]
  resetAll := h.listed.empties h.coherent.apart

end Intake

/-- **A resolver is a table of what it remembers.**  After any calls from a fresh intake, whatever
the attempts to build sources come to, a client is bound to an id just if a call for the id returned
it and no reset since covers the id.  Then the next call for the id returns it again and builds
nothing.  Otherwise the source is built once: it is bound, or there is none, or the call raises, and
in the last two cases no client is bound.  A reset of one id returns its client, if it has one, and
a reset of all returns every client once; none of these is bound any more.  No call for one id
changes the client of another. -/
theorem resolver_memoizes (s : Surroundings ω) (outside : ω) (store : Store) (clock : Clock)
    (meter : String) (calls : List ResolverCall) :
    ((Intake.fresh outside store clock meter).answers s calls).2.Memoizes s
      ((Intake.fresh outside store clock meter).answers s calls).1 :=
  ((Intake.recalls_fresh s outside store clock meter).answers calls).memoizes

end MetricIntake
