import MetricIntake.Proofs.JsonLimits
import MetricIntake.Proofs.Scripted
import MetricIntake.Proofs.Utf8

/-!
# Entries that cannot be read

The bytes under a key may be anything.  A cache finds a sample in them just if they are a JSON
object with the parts of the sample, and nothing otherwise (`readCache_outcomes`), but for texts
that nest deeper than the cache reads: these raise, and any text with brackets enough in front is
one of them (`readBytes_brackets`).
-/

namespace MetricIntake

variable {ω : Type}

/-! ### Objects with the parts of a sample -/

namespace Checked

variable {α β : Type}

theorem field_eq_ok_iff {name : String} {value : Except FieldError.Kind α} {x : α} :
    field name value = .ok x ↔ value = .ok x := by
  cases value <;> simp [field, Except.mapError]

theorem both_eq_ok_iff {a : Checked α} {b : Checked β} {x : α} {y : β} :
    a.both b = .ok (x, y) ↔ a = .ok x ∧ b = .ok y := by
  cases a <;> cases b <;> simp [both]

end Checked

theorem Json.asText_eq_ok_iff {value : Json} {s : CodeText} :
    value.asText = .ok s ↔ value = .text s := by
  cases value <;> simp [asText]

/-- A text that must be there is there. -/
theorem requiredField_asText_eq_ok_iff {members : List (CodeText × Json)} {name : String}
    {s : CodeText} :
    requiredField members name Json.asText = .ok s ↔ Json.lookup name members = some (.text s) := by
  unfold requiredField
  cases Json.lookup name members with
  | none => simp [Checked.fail]
  | some value => simp [Checked.field_eq_ok_iff, Json.asText_eq_ok_iff]

/-- An object has the parts of a sample as texts, the time under the first of its names that the
object has. -/
structure Sample.HeldBy (sample : Sample) (members : List (CodeText × Json)) : Prop where
  name : Json.lookup "name" members = some (.text sample.name)
  value : Json.lookup "value" members = some (.text sample.value)
  updatedAt : Json.lookup "updated_at" members = some (.text sample.updatedAt) ∨
    Json.lookup "updated_at" members = none ∧
      Json.lookup "updatedAt" members = some (.text sample.updatedAt)

namespace Sample

theorem checkUpdatedAt_eq_ok_iff {members : List (CodeText × Json)} {s : CodeText} :
    checkUpdatedAt members = .ok s ↔
      Json.lookup "updated_at" members = some (.text s) ∨
        Json.lookup "updated_at" members = none ∧
          Json.lookup "updatedAt" members = some (.text s) := by
  unfold checkUpdatedAt
  cases Json.lookup "updated_at" members with
  | some value => simp [Checked.field_eq_ok_iff, Json.asText_eq_ok_iff]
  | none =>
    cases Json.lookup "updatedAt" members with
    | some value => simp [Checked.field_eq_ok_iff, Json.asText_eq_ok_iff]
    | none => simp [Checked.fail]

/-- **An object is a sample** just if it has the parts of one. -/
theorem ofMembers_eq_ok_iff {members : List (CodeText × Json)} {sample : Sample} :
    ofMembers members = .ok sample ↔ sample.HeldBy members := by
  unfold ofMembers
  dsimp only
  constructor
  · intro h
    generalize hparts : ((requiredField members "name" Json.asText).both
      (requiredField members "value" Json.asText)).both (checkUpdatedAt members) = parts at h
    cases parts with
    | error errors => cases h
    | ok parts =>
      obtain ⟨⟨name, value⟩, updatedAt⟩ := parts
      obtain rfl := Except.ok.inj h
      obtain ⟨hboth, htime⟩ := Checked.both_eq_ok_iff.1 hparts
      obtain ⟨hname, hvalue⟩ := Checked.both_eq_ok_iff.1 hboth
      exact ⟨requiredField_asText_eq_ok_iff.1 hname, requiredField_asText_eq_ok_iff.1 hvalue,
        checkUpdatedAt_eq_ok_iff.1 htime⟩
  · intro ⟨hname, hvalue, htime⟩
    rw [requiredField_asText_eq_ok_iff.2 hname, requiredField_asText_eq_ok_iff.2 hvalue,
      checkUpdatedAt_eq_ok_iff.2 htime]
    rfl

/-! ### Bytes -/

/-- No bytes are a text, with nothing where a value should be. -/
theorem readBytes_nil (depth : Json.Depth) :
    Json.readBytes depth [] =
      some (.error (.problem .expectingValue (Json.Place.ofOffset [] 0))) := by
  have hscan : Json.scanDocument depth [] = .error (.problem .expectingValue []) := by
    unfold Json.scanDocument Json.scanValue
    rfl
  show some (Json.read depth []) = _
  rw [Json.read, hscan]
  rfl

/-- The bytes are the text of an object with the parts of a sample, no deeper than `depth`. -/
def WrittenIn (sample : Sample) (depth : Json.Depth) (bytes : List UInt8) : Prop :=
  ∃ members, Json.readBytes depth bytes = some (.ok (.object members)) ∧ sample.HeldBy members

/-- Nothing is written in no bytes. -/
theorem not_writtenIn_nil (sample : Sample) (depth : Json.Depth) :
    ¬sample.WrittenIn depth [] := by
  rintro ⟨members, hread, -⟩
  cases (readBytes_nil depth).symm.trans hread

/-- **Bytes keep a sample** just if it is written in them. -/
theorem ofBytes_eq_some_iff {depth : Json.Depth} {bytes : List UInt8} {sample : Sample} :
    ofBytes depth bytes = .ok (some sample) ↔ sample.WrittenIn depth bytes := by
  unfold ofBytes WrittenIn
  split
  · rename_i members hread
    rw [hread]
    simp only [Option.some.injEq, Except.ok.injEq, Json.object.injEq, exists_eq_left',
      ← ofMembers_eq_ok_iff]
    cases ofMembers members <;> simp [Except.toOption]
  · rename_i hread
    simp [hread]
  · rename_i hobject _
    simp only [Except.ok.injEq, reduceCtorEq, false_iff]
    rintro ⟨members, hread, -⟩
    exact hobject members hread

/-- Bytes fail just if the reader stops at values that lie too deep. -/
theorem ofBytes_eq_error_iff {depth : Json.Depth} {bytes : List UInt8} {f : Fault} :
    ofBytes depth bytes = .error f ↔
      ∃ c, f = .nesting c ∧ Json.readBytes depth bytes = some (.error (.nesting c)) := by
  unfold ofBytes
  split
  · rename_i hread
    simp [hread]
  · rename_i hread
    simp [hread, eq_comm]
  · rename_i hnesting
    simp only [reduceCtorEq, false_iff]
    rintro ⟨c, -, hread⟩
    exact hnesting c hread

end Sample

namespace Json

/-- Two brackets in front are two units of one byte. -/
theorem detect_brackets (bytes : List UInt8) :
    Encoding.detect (0x5B :: 0x5B :: bytes) = .utf8 false := by
  match bytes with
  | [] | [_] | _ :: _ :: _ => rfl

variable {depth : Depth}

/-- The bytes are a text with more opening brackets than values may lie deep. -/
def NestsDeep (depth : Depth) (bytes : List UInt8) : Prop :=
  ∃ text, (Encoding.detect bytes).decode? bytes = some text ∧ depth.levels < text.countP isOpening

theorem nestsDeep_of_readBytes {bytes : List UInt8} {c : Container}
    (h : readBytes depth bytes = some (.error (.nesting c))) : NestsDeep depth bytes := by
  obtain ⟨text, htext, hread⟩ := Option.map_eq_some_iff.1 h
  exact ⟨text, htext, shown_of_read hread⟩

/-- **Too deep a text in bytes**: more brackets than values may lie deep, and anything behind them.
-/
theorem readBytes_brackets (depth : Depth) (tail : List Char) :
    readBytes depth (Utf8.encode (List.replicate (depth.levels + 1) '[' ++ tail)) =
      some (.error (.nesting .array)) := by
  have hdetect : Encoding.detect (Utf8.encode (List.replicate (depth.levels + 1) '[' ++ tail)) =
      .utf8 false := by
    obtain ⟨room, hroom⟩ := depth.exists_levels_eq
    rw [hroom]
    exact detect_brackets (Utf8.encode (List.replicate room '[' ++ tail))
  have hread := read_brackets depth (CodeText.ofChars tail)
  rw [readBytes, hdetect, Encoding.decode?, if_neg Bool.false_ne_true, Utf8.decodeHalves?_encode,
    Option.map_some, CodeText.ofChars, List.map_append, List.map_replicate]
  exact congrArg some hread

end Json

/-! ### Look-ups -/

namespace Cache

variable {c : Cache} {store : Store} {key : String}

/-- A look-up finds what is written under its key. -/
theorem look_eq_found_iff {sample : Sample} :
    c.look store key = .ok (.found sample) ↔
      store.readFailure = none ∧
        ∃ entry, store.get? (c.storeKey key) = some entry ∧
          sample.WrittenIn c.depth entry.bytes := by
  unfold look
  cases store.readFailure with
  | some message => simp
  | none =>
    cases store.get? (c.storeKey key) with
    | none => simp
    | some entry =>
      simp only [Option.some.injEq, exists_eq_left', true_and, ← Sample.ofBytes_eq_some_iff]
      split
      · -- no bytes are no entry, and nothing is written in them
        rename_i hempty
        have hnone := Sample.not_writtenIn_nil sample c.depth
        rw [← Sample.ofBytes_eq_some_iff, ← List.isEmpty_iff.1 hempty] at hnone
        simp [hnone]
      · cases Sample.ofBytes c.depth entry.bytes with
        | error f => simp
        | ok sample? => cases sample? <;> simp

/-- A look-up fails just if what is under its key nests too deep. -/
theorem look_eq_error_iff {f : Fault} :
    c.look store key = .error f ↔
      store.readFailure = none ∧ ∃ entry container, store.get? (c.storeKey key) = some entry ∧
        f = .nesting container ∧
        Json.readBytes c.depth entry.bytes = some (.error (.nesting container)) := by
  unfold look
  cases store.readFailure with
  | some message => simp
  | none =>
    cases store.get? (c.storeKey key) with
    | none => simp
    | some entry =>
      simp only [Option.some.injEq, exists_and_left, exists_eq_left', true_and,
        ← Sample.ofBytes_eq_error_iff]
      split
      · rename_i hempty
        have hnil : Sample.ofBytes c.depth [] = .ok none := by
          rw [Sample.ofBytes, Sample.readBytes_nil]
        simp [List.isEmpty_iff.1 hempty, hnil]
      · cases Sample.ofBytes c.depth entry.bytes with
        | error g => simp
        | ok sample? => cases sample? <;> simp

end Cache

/-- **What is found in a cache.**  Nothing but what is said changes.  A sample is found just if it
is written under its key, and otherwise there is none, but for a text that nests deeper than the
cache reads: this raises. -/
theorem readCache_outcomes (cache : Cache) (key : String) (k : Intake ω) :
    ((k.readCache cache key).2.store = k.store ∧
      ∃ records, (k.readCache cache key).2 = k.say records) ∧
    (∀ sample, (k.readCache cache key).1 = .ok (some sample) ↔
      k.store.readFailure = none ∧
        ∃ entry, k.store.get? (cache.storeKey key) = some entry ∧
          sample.WrittenIn cache.depth entry.bytes) ∧
    ((∃ sample?, (k.readCache cache key).1 = .ok sample?) ∨
      ∃ entry container, k.store.get? (cache.storeKey key) = some entry ∧
        Json.readBytes cache.depth entry.bytes = some (.error (.nesting container)) ∧
        Json.NestsDeep cache.depth entry.bytes ∧
        (k.readCache cache key).1 = .error (.fault (.nesting container))) := by
  refine ⟨?_, fun sample => ?_, ?_⟩
  · unfold Intake.readCache
    cases cache.look k.store key with
    | ok found => exact ⟨rfl, _, rfl⟩
    | error f => exact ⟨rfl, [], by rw [Intake.say, List.append_nil]⟩
  · rw [← Cache.look_eq_found_iff]
    unfold Intake.readCache
    cases cache.look k.store key with
    | ok found => cases found <;> simp [Lookup.sample?]
    | error f => simp
  · unfold Intake.readCache
    cases hlook : cache.look k.store key with
    | ok found => exact .inl ⟨_, rfl⟩
    | error f =>
      obtain ⟨-, entry, container, hentry, rfl, hread⟩ := Cache.look_eq_error_iff.1 hlook
      exact .inr ⟨entry, container, hentry, hread, Json.nestsDeep_of_readBytes hread, rfl⟩

/-- A worker whose store has nothing but opening brackets under a key. -/
def Intake.bracketed : Intake (String → Nat) :=
  { Intake.unused with
    store := Store.empty.insert "sampleduct:s1:a"
      { bytes := Utf8.encode (List.replicate 3000 '['), ttl := 1 } }

/-- A cache that reads values up to a thousand deep. -/
def Cache.roomy : Cache where
  keyspace := "sampleduct"
  source := "s1"
  depth := ⟨1000, Nat.succ_pos _⟩

/-- Brackets alone raise. -/
theorem readCache_bracketed :
    (Intake.bracketed.readCache .roomy "a").1 = .error (.fault (.nesting .array)) := by
  have hread := Json.readBytes_brackets { levels := 1000 } (List.replicate 1999 '[')
  rw [List.replicate_append_replicate] at hread
  have hlook : Cache.roomy.look Intake.bracketed.store "a" = .error (.nesting .array) := by
    have hentry := (Store.empty.get?_insert "sampleduct:s1:a" "sampleduct:s1:a"
      { bytes := Utf8.encode (List.replicate 3000 '['), ttl := 1 }).trans (if_pos rfl)
    exact Cache.look_eq_error_iff.2 ⟨rfl, _, .array, hentry, rfl, hread⟩
  rw [Intake.readCache, hlook]

end MetricIntake
