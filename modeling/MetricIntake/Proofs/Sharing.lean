import MetricIntake.Proofs.Bindings
import MetricIntake.Proofs.KeptSamples
import MetricIntake.Proofs.Provenance
import MetricIntake.Proofs.StoreKeys

/-!
# Entries that are shared

When a request is served with the sample of another one.  `confusable_of_servedFrom` says that in a
run from an empty store both are for the same metric of the same source, or they overlap, and
`canServe_of_confusable` that there is a run in which it happens for each two of that sort.
`canServe_iff` is both together.
-/

namespace MetricIntake

variable {ω : Type}

/-- A request is served with an entry that another one wrote. -/
structure Visit.ServedFrom (v w : Visit ω) : Prop where
  served : ∃ sample, v.cached = .ok (some sample)
  wrote : ∃ e sample, v.before.store.get? v.storeKey = some e ∧ w.Wrote v.storeKey e sample

/-- The requests are for the same metric of the same source, or they overlap. -/
def Confusable (r r' : Request) : Prop :=
  (r.source = r'.source ∧ r.name = r'.name) ∨ Overlap r.source r.name r'.source r'.name ∨
    Overlap r'.source r'.name r.source r.name

/-- Without colons in the ids of sources only the same requests are confusable. -/
theorem Confusable.eq_of_not_mem {r r' : Request} (h : Confusable r r')
    (hr : ':' ∉ r.source.toList) (hr' : ':' ∉ r'.source.toList) :
    r.source = r'.source ∧ r.name = r'.name := by
  rcases h with hsame | ⟨u, -, hsource, -⟩ | ⟨u, -, hsource, -⟩
  · exact hsame
  · exact absurd (by rw [hsource]; simp) hr'
  · exact absurd (by rw [hsource]; simp) hr

/-- The key of a visit is that of its source and its metric. -/
theorem Visit.storeKey_eq {s : Surroundings ω} {v : Visit ω} (h : v.before.Sound s)
    (hv : v.Attached) : v.storeKey = keyOf s.keyspace v.request.source v.request.name := by
  rw [storeKey, h.cache_eq hv]
  rfl

/-- A cache that has a sample has an entry. -/
theorem Visit.exists_entry {v : Visit ω} {sample : Sample} (h : v.cached = .ok (some sample)) :
    ∃ e, v.before.store.get? v.storeKey = some e := by
  unfold cached Cache.look at h
  split at h
  · cases h
  · rename_i hread
    split at h
    · cases h
    · rename_i e he
      exact ⟨e, he⟩

/-- In a run from an empty store, a request that is served from the cache is served with what an
earlier one wrote, and only those wrote it that share its key. -/
theorem confusable_of_servedFrom {s : Surroundings ω} (hs : s.Carries) {k : Intake ω}
    (hk : k.Sound s) (hempty : k.store.entries = []) {commands : List (Command ω)}
    {past rest : List (Visit ω)} {v : Visit ω} (h : visits s commands k = past ++ v :: rest)
    {sample : Sample} (hserved : v.cached = .ok (some sample)) :
    (∃ w ∈ past, v.ServedFrom w) ∧ ∀ w ∈ past, v.ServedFrom w → Confusable w.request v.request := by
  obtain ⟨hpast, hv, -⟩ := trail_of_visits h
  have hkey := Visit.storeKey_eq (hpast.sound hs hk) hv
  constructor
  · obtain ⟨e, he⟩ := Visit.exists_entry hserved
    have haccounted : v.before.store.Accounted past := hpast.accounted (.of_empty hempty)
    obtain ⟨w, hw, sample', hwrote⟩ := haccounted _ e (Named.mem_of_lookup he)
    exact ⟨w, hw, ⟨sample, hserved⟩, e, sample', he, hwrote⟩
  · rintro w hw ⟨-, e, sample', -, hwrote⟩
    -- `w` had the key of its own source and metric when it wrote
    obtain ⟨before, after, rfl⟩ := List.append_of_mem hw
    have hsplit : visits s commands k = before ++ w :: (after ++ v :: rest) := by
      rw [h, List.append_assoc]
      rfl
    obtain ⟨hbefore, hw', -⟩ := trail_of_visits hsplit
    have hkey' := Visit.storeKey_eq (hbefore.sound hs hk) hw'
    apply keyOf_eq_iff.1
    rw [← hkey, ← hkey']
    exact hwrote.key_eq.symm

/-! ### Runs in which entries are shared -/

/-- What every source answers in a run that shares an entry. -/
def storable : Sample := { name := "m", value := "1", updatedAt := "2026-01-20T10:15:00Z" }

/-- Any source can be built and has a sample. -/
def generous : Surroundings (String → Nat) := .scripted fun _ => some (.constant storable)

theorem storable_accepted : ∃ reading, storable.judge = .accepted reading := by
  have h : (match storable.judge with | .accepted _ => true | _ => false) = true := by
    decide +kernel
  cases hj : storable.judge with
  | accepted reading => exact ⟨reading, rfl⟩
  | rejected why =>
    rw [hj] at h
    cases h
  | fault f =>
    rw [hj] at h
    cases h

theorem halves?_storable : storable.halves? = none := by decide +kernel

theorem generous_carries : generous.Carries := by
  rintro id outside source ⟨⟩
  rfl

section Generous

variable (k : Intake (String → Nat))

theorem generous_resolve (id : String) :
    ∃ client, (k.resolve generous id).1 = .ok (some client) ∧
      (k.resolver.client? id = none → client.source = .scripted id (.constant storable)) := by
  unfold Intake.resolve
  split
  · rename_i client hclient
    refine ⟨client, rfl, fun hnone => ?_⟩
    rw [hclient] at hnone
    cases hnone
  · exact ⟨_, rfl, fun _ => rfl⟩

theorem generous_cacheOf (client : Client (String → Nat)) :
    ∃ bound, (k.cacheOf generous client).1 = .ok bound := by
  unfold Intake.cacheOf
  split <;> exact ⟨_, rfl⟩

/-- A batch of one request is one visit. -/
theorem generous_visits (r : Request) :
    ∃ v : Visit (String → Nat),
      ({ batch := [r], before := k } : Call (String → Nat)).visits generous = [v] ∧
        v.request = r ∧ v.before.store = k.store ∧ v.before.stopping = k.stopping ∧
        (k.resolver.client? r.source = none →
          v.client.source = .scripted r.source (.constant storable)) ∧
        (k.process generous [r]).2.store = v.after.store := by
  obtain ⟨t, ht, rfl⟩ : ∃ t : Turn (String → Nat),
      { id := r.source, requests := [r], before := k } = t ∧ k = t.before := ⟨_, rfl, rfl⟩
  have hids : batchSources [r] = [r.source] := by simp [batchSources, List.eraseDups_cons]
  have hrequests : requestsOf r.source [r] = [r] := by simp [requestsOf]
  have hid : t.id = r.source := by rw [← ht]
  obtain ⟨client, hclient, hsource⟩ := generous_resolve t.before t.id
  obtain ⟨bound, hbound⟩ := generous_cacheOf (t.before.resolve generous t.id).2 client
  obtain ⟨f, hf, -⟩ | ⟨bound', -, -, hturn, hvisits⟩ := Turn.eq_of_some hclient
  · rw [hbound] at hf
    cases hf
  · let v : Visit (String → Nat) :=
      { request := r, client, cache := bound'.cache,
        before := ((t.before.resolve generous t.id).2.cacheOf generous client).2 }
    have htrequests : t.requests = [r] := by rw [← ht]
    obtain ⟨hafter, hsingle⟩ := processRequests_single v
    refine ⟨v, ?_, rfl, ?_, ?_, ?_, ?_⟩
    · rw [Call.visits, Call.turns, hids, turnsOf, hrequests, ht, turnsOf, List.flatMap_singleton,
        hvisits, htrequests]
      exact hsingle
    · rw [Intake.cacheOf_store, Intake.resolve_store]
    · rw [Intake.cacheOf_part generous _ Intake.stopping fun _ _ _ _ => rfl,
        Intake.resolve_part generous _ Intake.stopping fun _ _ _ _ => rfl]
    · rw [← hid]
      exact hsource
    · obtain ⟨records, hprocess⟩ := process_snd (s := generous) [r] t.before
      rw [hprocess, hids, processSources_cons, hrequests, ht]
      show (t.after generous).store = v.after.store
      rw [hturn, htrequests]
      exact congrArg Intake.store hafter

end Generous

theorem settle_storable {r : Request} (h : 0 < r.cacheMillis) (now : UtcTime) :
    r.settle now (some storable) =
      some { sample := storable, shouldCache := true, isDefault := false } := by
  have hout : storable.isTimedOut = false := by decide
  unfold Request.settle
  cases r.defaultValue <;> simp [hout, h]

/-- A source that is asked for something to keep writes it. -/
theorem written?_of_storable {v : Visit ω} (hstore : v.before.store = .empty)
    (hstopping : v.before.stopping = false) (hpos : 0 < v.request.cacheMillis)
    (hreply : v.reply.outcome = .ok (some storable)) :
    v.written? = some { bytes := storable.dumpBytes, ttl := v.request.cacheMillis } := by
  have hcached : v.cached = .ok none := by
    rw [Visit.cached, hstore]
    rfl
  obtain ⟨reading, hjudge⟩ := storable_accepted
  let resolution : Resolution := { sample := storable, shouldCache := true, isDefault := false }
  have hkeeps : v.keeps resolution = true := Visit.keeps_eq_true_iff.2 ⟨rfl, hpos⟩
  have hfate : v.fate = .loaded resolution reading := by
    rw [v.fate_of_asks hcached hstopping, hreply]
    dsimp only
    rw [settle_storable hpos]
    show v.fateOf resolution = _
    have hhalves : storable.halves? = none := by decide
    rw [Visit.fateOf, hkeeps, if_pos rfl, hjudge]
    dsimp only
    rw [hhalves]
  have hwrite : v.before.store.writeFailure = none := by rw [hstore]; rfl
  rw [Visit.written?, hfate, Visit.entryOf, if_pos ⟨hkeeps, hwrite⟩]

/-! ### Who is served by whom -/

/-- In some run from an empty store a request is served with what another one wrote. -/
def CanServe (r r' : Request) : Prop :=
  ∃ (ω : Type) (s : Surroundings ω) (k : Intake ω) (commands : List (Command ω))
    (past rest : List (Visit ω)) (v w : Visit ω),
    s.Carries ∧ k.Sound s ∧ k.store.entries = [] ∧
      visits s commands k = past ++ v :: rest ∧ w ∈ past ∧
        w.request = r ∧ v.request = r' ∧ v.ServedFrom w

theorem canServe_of_confusable {r r' : Request} (hpos : 0 < r.cacheMillis) (h : Confusable r r') :
    CanServe r r' := by
  let k : Intake (String → Nat) := .unused
  let k' := (k.process generous [r]).2
  have hk : k.Sound generous := Intake.Sound.fresh ..
  obtain ⟨w, hw, hwr, hwstore, hwstopping, hwsource, hwafter⟩ := generous_visits k r
  obtain ⟨v, hv, hvr, hvstore, -⟩ := generous_visits k' r'
  have hvisits : visits generous [.process [r], .process [r']] k = [w] ++ v :: [] := by
    show Call.visits generous ⟨[r], k⟩ ++ (Call.visits generous ⟨[r'], k'⟩ ++ []) = _
    rw [hw, hv]
    rfl
  -- both requests find the caches of their own sources, whose keys are equal
  obtain ⟨hpast, hvattached, -⟩ := trail_of_visits hvisits
  have hfirst : visits generous [.process [r], .process [r']] k = [] ++ w :: [v] := hvisits
  obtain ⟨hnil, hwattached, -⟩ := trail_of_visits hfirst
  have hvkey := Visit.storeKey_eq (hpast.sound generous_carries hk) hvattached
  have hwkey := Visit.storeKey_eq (hnil.sound generous_carries hk) hwattached
  have hkey : w.storeKey = v.storeKey := by
    rw [hvkey, hwkey, hwr, hvr]
    exact keyOf_eq_iff.2 h
  -- the first one writes its sample, and the second one finds it
  have hreply : w.reply.outcome = .ok (some storable) := by
    rw [Visit.reply, Intake.replyOf, hwsource rfl]
    rfl
  have hwritten := written?_of_storable hwstore hwstopping (by rw [hwr]; exact hpos) hreply
  have hstore : v.before.store = w.before.store.insert w.storeKey
      { bytes := storable.dumpBytes, ttl := w.request.cacheMillis } := by
    rw [hvstore, show k'.store = w.after.store from hwafter, w.after_store, Visit.storeOf,
      show w.entryOf w.fate = _ from hwritten]
  have hget : v.before.store.get? v.storeKey =
      some { bytes := storable.dumpBytes, ttl := w.request.cacheMillis } := by
    rw [hstore, Store.get?_insert, if_pos hkey.symm]
  have hread : v.before.store.readFailure = none := by
    rw [hstore, hwstore]
    rfl
  have hserved : v.cached = .ok (some storable) := by
    have hbytes : storable.dumpBytes.isEmpty = false := by decide +kernel
    rw [Visit.storeKey] at hget
    rw [Visit.cached, Cache.look, hread, hget]
    dsimp only
    rw [hbytes, if_neg Bool.false_ne_true, Sample.ofBytes_dumpBytes halves?_storable]
    rfl
  obtain ⟨sample, hwrote⟩ := Visit.wrote_of_written? hwritten
  refine ⟨_, generous, k, _, [w], [], v, w, generous_carries, hk, rfl, hvisits,
    List.mem_cons_self, hwr, hvr, ⟨storable, hserved⟩, _, sample, hget, ?_⟩
  rw [← hkey]
  exact hwrote

/-- **Who is served by whom**: the keys of two requests are equal just if the requests are
confusable, whatever the first part of the keys is and however deep the caches read.  Just then one
of them is served in some run from an empty store with what the other one wrote, provided that the
other one may write at all. -/
theorem canServe_iff (keyspace : String) (depth : Json.Depth) (r r' : Request) :
    (Cache.storeKey ⟨keyspace, r.source, depth⟩ r.cacheKey =
        Cache.storeKey ⟨keyspace, r'.source, depth⟩ r'.cacheKey ↔ Confusable r r') ∧
      (CanServe r r' ↔ 0 < r.cacheMillis ∧ Confusable r r') := by
  refine ⟨keyOf_eq_iff, ?_⟩
  constructor
  · rintro ⟨ω, s, k, commands, past, rest, v, w, hs, hk, hempty, hvisits, hw, rfl, rfl, hfrom⟩
    obtain ⟨sample, hserved⟩ := hfrom.served
    obtain ⟨e, sample', -, hwrote⟩ := hfrom.wrote
    have hconfusable := (confusable_of_servedFrom hs hk hempty hvisits hserved).2 w hw hfrom
    exact ⟨hwrote.ttl_pos, hconfusable⟩
  · rintro ⟨hpos, h⟩
    exact canServe_of_confusable hpos h

/-! ### A source that is served with another one's sample -/

/-- Two sources, of which the second one's id goes on with a colon where the first one's ends. -/
def clashing : Surroundings (String → Nat) :=
  .scripted fun id =>
    if id = "a" then
      some (.constant { name := "a:a:x", value := "1", updatedAt := "2026-01-20T10:15:00Z" })
    else if id = "a:a" then
      some (.constant { name := "x", value := "2", updatedAt := "2026-01-20T10:15:00Z" })
    else none

/-- Each of the two sources is asked for a sample. -/
def clashes : List (Command (String → Nat)) :=
  [.process [⟨"a", "a:a:x", none, 1000⟩], .process [⟨"a:a", "x", none, 0⟩]]

/-- The second source has a sample of its own but its request is served with that of the first. -/
theorem clashes_cross :
    (¬ ∀ keyspace depth (r r' : Request),
      Cache.storeKey ⟨keyspace, r.source, depth⟩ r.cacheKey =
        Cache.storeKey ⟨keyspace, r'.source, depth⟩ r'.cacheKey →
      r.source = r'.source ∧ r.name = r'.name) ∧
    ∃ v ∈ visits clashing clashes .unused,
      v.request.source = "a:a" ∧ v.request.name = "x" ∧
        v.cached = .ok (some
          { name := "a:a:x", value := "1", updatedAt := "2026-01-20T10:15:00Z" }) ∧
        v.reply.outcome = .ok (some
          { name := "x", value := "2", updatedAt := "2026-01-20T10:15:00Z" }) := by
  constructor
  · intro h
    have hkeys := h "p" default ⟨"a", "a:a:x", none, 0⟩ ⟨"a:a", "x", none, 0⟩ (by decide)
    exact absurd hkeys.1 (by decide)
  · decide +kernel

end MetricIntake
