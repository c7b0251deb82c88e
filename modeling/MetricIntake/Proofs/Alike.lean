import MetricIntake.Proofs.Visit

/-!
# Requests that are alike

What becomes of a request depends on the request, on what the cache has for it, on the flag, the
time and the reply of the source, and on whether the store can be written, and on nothing else:
`Visit.Alike.fate_eq`.
-/

namespace MetricIntake

variable {ω : Type}

/-- The same request with the same to go on with. -/
structure Visit.Alike (v v' : Visit ω) : Prop where
  request : v.request = v'.request
  cached : v.cached = v'.cached
  stopping : v.before.stopping = v'.before.stopping
  now : v.before.clock.now = v'.before.clock.now
  reply : v.reply = v'.reply
  writeFailure : v.before.store.writeFailure = v'.before.store.writeFailure

namespace Visit.Alike

variable {v v' : Visit ω}

theorem asks_eq (h : v.Alike v') : v.asks = v'.asks := by
  rw [asks, asks, h.cached, h.stopping]

theorem keeps_eq (h : v.Alike v') (resolution : Resolution) :
    v.keeps resolution = v'.keeps resolution := by
  rw [keeps, keeps, h.request]

/-- The same becomes of both requests. -/
theorem fate_eq (h : v.Alike v') : v.fate = v'.fate := by
  have hof : v.fateOf = v'.fateOf := by
    funext resolution
    rw [fateOf, fateOf, h.keeps_eq]
  rw [fate, fate, h.cached, h.stopping, h.reply, h.now, h.request, hof]

theorem answer_eq (h : v.Alike v') : v.answer = v'.answer := by
  rw [Visit.answer_eq, Visit.answer_eq, h.fate_eq, h.request]

/-- Both requests leave the same entry, if any. -/
theorem entryOf_eq (h : v.Alike v') : v.entryOf v.fate = v'.entryOf v'.fate := by
  rw [← h.fate_eq]
  cases v.fate with
  | loaded resolution reading => rw [entryOf, entryOf, h.keeps_eq, h.writeFailure, h.request]
  | _ => rfl

/-- Under the same key both requests leave the same. -/
theorem after_get? (h : v.Alike v') (hstoreKey : v.storeKey = v'.storeKey) {key : String}
    (hget : v.before.store.get? key = v'.before.store.get? key) :
    v.after.store.get? key = v'.after.store.get? key := by
  rw [v.after_store, v'.after_store, storeOf, storeOf, h.entryOf_eq, hstoreKey]
  split
  · rw [Store.get?_insert, Store.get?_insert, hget]
  · exact hget

end Visit.Alike

end MetricIntake
