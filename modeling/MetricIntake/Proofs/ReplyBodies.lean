import MetricIntake.Proofs.EndpointFailures
import MetricIntake.Proofs.JsonSpelling
import MetricIntake.Proofs.UnreadableEntries

/-!
# The bodies of replies

What the body of an answer comes to is told from the value that is spelled in it, whatever way it is
spelled: there is no sample for a value that counts as nothing (`Json.IsNothing`), an error of the
source for one that is no sample (`Json.IsRefused`), and otherwise the sample that the members
describe (`Sample.described`).  Of several members of one name the last counts.
`ask_of_spellsDocument` says it of asking an endpoint.
-/

namespace MetricIntake

/-! ### The last value of a name -/

namespace Named

variable {κ α : Type} [DecidableEq κ]

theorem lookup_append (name : κ) (xs ys : List (κ × α)) :
    lookup name (xs ++ ys) = (lookup name xs).or (lookup name ys) := by
  induction xs with
  | nil => rfl
  | cons x xs ih =>
    obtain ⟨n, v⟩ := x
    by_cases hn : n = name
    · simp [lookup, hn]
    · simp [lookup, hn, ih]

theorem lookup_map {β : Type} (f : α → β) (name : κ) (entries : List (κ × α)) :
    lookup name (entries.map fun entry => (entry.1, f entry.2)) = (lookup name entries).map f := by
  induction entries with
  | nil => rfl
  | cons entry entries ih =>
    obtain ⟨n, v⟩ := entry
    by_cases hn : n = name
    · simp [lookup, hn]
    · simp [lookup, hn, ih]

/-- **Of many values under one name the last is found.** -/
theorem lookup_putAll (name : κ) (entries pairs : List (κ × α)) :
    lookup name (putAll entries pairs) = (lookup name pairs.reverse).or (lookup name entries) := by
  induction pairs generalizing entries with
  | nil => rfl
  | cons pair pairs ih =>
    obtain ⟨n, v⟩ := pair
    have hstep : putAll entries ((n, v) :: pairs) = putAll (put n v entries) pairs := rfl
    rw [hstep, ih, lookup_put, List.reverse_cons, lookup_append, Option.or_assoc]
    by_cases hn : name = n
    · simp [lookup, hn]
    · simp [lookup, hn, Ne.symm hn]

/-- There is something under a name that something was put under. -/
theorem putAll_eq_nil_iff {pairs : List (κ × α)} : putAll [] pairs = [] ↔ pairs = [] := by
  constructor
  · intro h
    rcases List.eq_nil_or_concat' pairs with rfl | ⟨init, ⟨n, v⟩, rfl⟩
    · rfl
    · have hlookup := lookup_putAll n [] (init ++ [(n, v)])
      simp [h, lookup] at hlookup
  · rintro rfl
    rfl

end Named

namespace Json

theorem decodedItems_eq_nil_iff {items : List Json} : decodedItems items = [] ↔ items = [] := by
  cases items <;> simp [decodedItems]

theorem decodedMembers_eq_map (members : List (CodeText × Json)) :
    decodedMembers members = members.map fun member => (member.1, decoded member.2) := by
  induction members with
  | nil => rfl
  | cons member members ih =>
    obtain ⟨name, value⟩ := member
    rw [decodedMembers, ih, List.map_cons]

/-- The last value of a name among the members of an object as they are spelled. -/
def last (name : String) (members : List (CodeText × Json)) : Option Json :=
  Named.lookup (CodeText.ofString name) members.reverse

/-- The last value of a name is the one that the decoded object has. -/
theorem lookup_decoded (name : String) (members : List (CodeText × Json)) :
    lookup name (Named.putAll [] (decodedMembers members)) = (last name members).map decoded := by
  rw [lookup, Named.lookup_putAll, decodedMembers_eq_map, ← List.map_reverse, Named.lookup_map,
    Named.lookup, Option.or_none, last]

/-! ### Values that are no samples -/

/-- The values that count as nothing. -/
inductive IsNothing : Json → Prop
  | null : IsNothing .null
  | false : IsNothing (.bool false)
  | whole : IsNothing (.whole 0)
  | double (negative : Bool) : IsNothing (.double (.finite negative .zero))
  | text : IsNothing (.text [])
  | array : IsNothing (.array [])
  | object : IsNothing (.object [])

theorem isEmptyValue_eq_true_iff {v : Json} : v.isEmptyValue = true ↔ v.IsNothing := by
  constructor
  · intro h
    cases v with
    | null => exact .null
    | bool b =>
      obtain rfl : b = false := by simpa [isEmptyValue] using h
      exact .false
    | whole n =>
      obtain rfl : n = 0 := by simpa [isEmptyValue] using h
      exact .whole
    | double x =>
      cases x with
      | finite negative m =>
        obtain rfl : m = .zero := Magnitude.ext (of_decide_eq_true h)
        exact .double negative
      | _ => cases h
    | text s =>
      obtain rfl : s = [] := by simpa [isEmptyValue] using h
      exact .text
    | array items =>
      obtain rfl : items = [] := by simpa [isEmptyValue] using h
      exact .array
    | object members =>
      obtain rfl : members = [] := by simpa [isEmptyValue] using h
      exact .object
  · rintro (_ | _ | _ | _ | _ | _ | _) <;> rfl

/-- A value counts as nothing whether or not the names in it are there once. -/
theorem isNothing_decoded_iff {v : Json} : v.decoded.IsNothing ↔ v.IsNothing := by
  rw [← isEmptyValue_eq_true_iff, ← isEmptyValue_eq_true_iff]
  cases v with
  | array items => simp [decoded, isEmptyValue, decodedItems_eq_nil_iff]
  | object members =>
    simp [decoded, isEmptyValue, Named.putAll_eq_nil_iff, decodedMembers_eq_map]
  | _ => rfl

/-- Neither a text nor a value that counts as nothing. -/
structure IsMisfit (v : Json) : Prop where
  something : ¬ v.IsNothing
  notText : ∀ s, v ≠ .text s

/-- The values that are neither nothing nor a sample: those that are no objects, and objects whose
name or time is a misfit. -/
inductive IsRefused : Json → Prop
  | value {v : Json} (hsomething : ¬ v.IsNothing) (hobject : ∀ members, v ≠ .object members) :
      IsRefused v
  | field {members : List (CodeText × Json)} {name : String} {v : Json}
      (hname : name = "name" ∨ name = "updatedAt") (hlast : last name members = some v)
      (hmisfit : v.IsMisfit) : IsRefused (.object members)

theorem isRefused_object_iff {members : List (CodeText × Json)} :
    (Json.object members).IsRefused ↔
      (∃ v ∈ last "name" members, v.IsMisfit) ∨ ∃ v ∈ last "updatedAt" members, v.IsMisfit := by
  constructor
  · rintro (⟨-, hobject⟩ | ⟨rfl | rfl, hlast, hmisfit⟩)
    · exact absurd rfl (hobject members)
    · exact .inl ⟨_, hlast, hmisfit⟩
    · exact .inr ⟨_, hlast, hmisfit⟩
  · rintro (⟨v, hlast, hmisfit⟩ | ⟨v, hlast, hmisfit⟩)
    · exact .field (.inl rfl) hlast hmisfit
    · exact .field (.inr rfl) hlast hmisfit

/-- A text that is not empty, or another text in the place of everything else. -/
def textOr (other : String) : Option Json → CodeText
  | some (.text s) => if s = [] then CodeText.ofString other else s
  | _ => CodeText.ofString other

/-- The text of a value: none for no value, a text as it is, and all others as they are shown. -/
def valueText : Option Json → CodeText
  | none => []
  | some .null => []
  | some (.text s) => s
  | some v => .ofChars v.decoded.showInner

end Json

/-- The sample that the members of an answer describe. -/
def Sample.described (name : String) (members : List (CodeText × Json)) : Sample where
  name := Json.textOr name (Json.last "name" members)
  value := Json.valueText (Json.last "value" members)
  updatedAt := Json.textOr "" (Json.last "updatedAt" members)

namespace Endpoint

open Json

/-- A name or a time is a text, or a text in the place of one, unless it is a misfit. -/
theorem orElse_decoded_eq_text_iff {value? : Option Json} {other : String} {s : CodeText} :
    orElse (value?.map decoded) other = .text s ↔
      (∀ v ∈ value?, ¬ v.IsMisfit) ∧ s = textOr other value? := by
  cases value? with
  | none => simp [orElse, textOr, eq_comm]
  | some v =>
    rw [Option.map_some, orElse]
    by_cases hnothing : v.IsNothing
    · have hfits : ¬ v.IsMisfit := fun h => h.something hnothing
      have hother : textOr other (some v) = CodeText.ofString other := by cases hnothing <;> rfl
      rw [if_pos (isEmptyValue_eq_true_iff.2 (isNothing_decoded_iff.2 hnothing)), hother]
      simp [hfits, eq_comm]
    · rw [if_neg fun h => hnothing (isNothing_decoded_iff.1 (isEmptyValue_eq_true_iff.1 h))]
      cases v with
      | text s' =>
        have hfits : ¬ (Json.text s').IsMisfit := fun h => h.notText s' rfl
        have hne : s' ≠ [] := by
          rintro rfl
          exact hnothing .text
        simp [decoded, textOr, hfits, hne, eq_comm]
      | _ =>
        simp only [decoded, reduceCtorEq, false_iff, not_and]
        exact fun h => absurd ⟨hnothing, fun _ => Json.noConfusion⟩ (h _ rfl)

/-- The parts that the members of an object come to. -/
theorem readMembers_decoded (name : String) (members : List (CodeText × Json)) :
    readMembers name (Named.putAll [] (decodedMembers members)) =
      Sample.ofMembers
        [("name", orElse ((last "name" members).map decoded) name),
          ("value", .text (valueText (last "value" members))),
          ("updated_at", orElse ((last "updatedAt" members).map decoded) "")] := by
  unfold readMembers
  rw [lookup_decoded, lookup_decoded, lookup_decoded]
  cases last "value" members with
  | none => rfl
  | some v => cases v <;> rfl

/-- The parts of a sample under their names. -/
theorem heldBy_iff {sample : Sample} {name value updatedAt : Json} :
    sample.HeldBy [("name", name), ("value", value), ("updated_at", updatedAt)] ↔
      name = .text sample.name ∧ value = .text sample.value ∧
        updatedAt = .text sample.updatedAt := by
  have hvalue : CodeText.ofString "name" ≠ CodeText.ofString "value" := by decide
  have htime : CodeText.ofString "name" ≠ CodeText.ofString "updated_at" ∧
      CodeText.ofString "value" ≠ CodeText.ofString "updated_at" := by decide
  constructor
  · rintro ⟨hn, hv, ht⟩
    simpa [lookup, Named.lookup, hvalue, htime] using And.intro hn (And.intro hv ht)
  · rintro ⟨rfl, rfl, rfl⟩
    constructor <;> simp [lookup, Named.lookup, hvalue, htime]

/-- **Members are a sample** unless one of them is a misfit, and then it is the one that they
describe. -/
theorem readMembers_decoded_eq_ok_iff {name : String} {members : List (CodeText × Json)}
    {sample : Sample} :
    readMembers name (Named.putAll [] (decodedMembers members)) = .ok sample ↔
      ¬ (Json.object members).IsRefused ∧ sample = .described name members := by
  rw [readMembers_decoded, Sample.ofMembers_eq_ok_iff, heldBy_iff, orElse_decoded_eq_text_iff,
    orElse_decoded_eq_text_iff, Json.text.injEq]
  obtain ⟨n, v, t⟩ := sample
  -- both sides say of each part what it is, and of the name and the time that they fit
  simp only [isRefused_object_iff, Sample.described, Sample.mk.injEq]
  grind

/-! ### Values and bodies -/

/-- **What a value comes to**: nothing, an error, or the sample that its members describe. -/
theorem readValue_decoded (name : String) (v : Json) :
    (readValue name v.decoded = .ok none ↔ v.IsNothing) ∧
      ((∃ t, readValue name v.decoded = .error t) ↔ v.IsRefused) ∧
      (¬ v.IsNothing → ¬ v.IsRefused → ∃ members, v = .object members ∧
        readValue name v.decoded = .ok (some (.described name members))) := by
  unfold readValue
  by_cases hnothing : v.IsNothing
  · have hfits : ¬ v.IsRefused := by
      rintro (⟨hsomething, -⟩ | ⟨-, hlast, -⟩)
      · exact hsomething hnothing
      · cases hnothing
        cases hlast
    rw [if_pos (isEmptyValue_eq_true_iff.2 (isNothing_decoded_iff.2 hnothing))]
    simp [hnothing, hfits]
  · rw [if_neg fun h => hnothing (isNothing_decoded_iff.1 (isEmptyValue_eq_true_iff.1 h))]
    cases v with
    | object members =>
      rw [decoded]
      dsimp only
      cases hread : readMembers name (Named.putAll [] (decodedMembers members)) with
      | ok sample =>
        obtain ⟨hfits, rfl⟩ := readMembers_decoded_eq_ok_iff.1 hread
        simp [hnothing, hfits]
      | error errors =>
        have hrefused : (Json.object members).IsRefused := by
          by_contra hfits
          have hok : readMembers name (Named.putAll [] (decodedMembers members)) =
              .ok (Sample.described name members) :=
            readMembers_decoded_eq_ok_iff.2 ⟨hfits, rfl⟩
          rw [hread] at hok
          cases hok
        simp [hnothing, hrefused]
    | _ =>
      have hrefused := IsRefused.value hnothing fun _ => Json.noConfusion
      simp [decoded, hnothing, hrefused]

theorem readBody_of_spellsDocument {depth : Depth} (name : String) {text : List Char} {v : Json}
    (h : SpellsDocument depth text v) :
    readBody depth name (Utf8.encode text) = .ok (readValue name v.decoded) := by
  rw [readBody, Utf8.decode_encode]
  dsimp only
  rw [readUnmarked_of_spellsDocument h]

/-- **What a reply body comes to**, however its value is spelled.  There is no sample for a value
that counts as nothing, an error of transport for one that is refused, and otherwise the sample that
the members of an object describe. -/
theorem ask_of_spellsDocument {ω : Type} (network : Network ω) (e : Endpoint) (name : String)
    (outside : ω) {text : List Char} {v : Json}
    (haddress : addressFault? (e.request name).url = none)
    (htext : SpellsDocument network.depth text v)
    (hbody : (network.send (e.request name) outside).1.outcome = .body (Utf8.encode text)) :
    ((e.ask network name outside).1.outcome = .ok none ↔ v.IsNothing) ∧
      ((∃ error, (e.ask network name outside).1.outcome = .error (.source error) ∧
          error.kind = .transport ∧ error.source = e.id) ↔ v.IsRefused) ∧
      (¬ v.IsNothing → ¬ v.IsRefused → ∃ members, v = .object members ∧
        (e.ask network name outside).1.outcome = .ok (some (.described name members))) := by
  have houtcome : (e.ask network name outside).1.outcome =
      (readValue name v.decoded).mapError fun t => .source (t.toSourceError e name) := by
    rw [(ask_of_reached network e name outside haddress).2, hbody, Endpoint.outcome,
      Endpoint.answer, readBody_of_spellsDocument name htext]
    cases readValue name v.decoded <;> rfl
  obtain ⟨hnone, herror, hsample⟩ := readValue_decoded name v
  rw [houtcome, ← hnone, ← herror]
  refine ⟨?_, ?_, fun hsomething hfits => ?_⟩
  · cases readValue name v.decoded <;> simp [Except.mapError]
  · cases hread : readValue name v.decoded with
    | ok sample? => simp [Except.mapError]
    | error t =>
      have hkind : (t.toSourceError e name).kind = .transport := by
        refine (toSourceError_kind e name t).resolve_left fun h => ?_
        obtain ⟨code, ht⟩ := toSourceError_kind_iff.1 h
        exact ne_refused_of_readValue hread code ht
      simp only [Except.mapError, Except.error.injEq, Failure.source.injEq, exists_eq', iff_true]
      exact ⟨_, rfl, hkind, rfl⟩
  · obtain ⟨members, hobject, hread⟩ := hsample (fun h => hsomething (hnone.2 h)) fun h =>
      hfits (herror.2 h)
    refine ⟨members, hobject, ?_⟩
    rw [hread]
    rfl

/-- The last of two values counts, and a letter may be spelled by its number. -/
theorem ask_of_twoValues :
    (ask (.constant (.body (Utf8.encode
        "\x7b\"value\":1, \"n\\u0061me\":\"m\" ,\"value\":[true]\x7d\n".toList)))
      (.ofAddress "https://h") "q" ()).1.outcome =
        .ok (some { name := "m", value := "[True]", updatedAt := "" }) := by
  have hgap : IsGap [] := by simp [IsGap]
  have hspace : IsGap [' '] := by simp [IsGap, isWhitespace]
  have hvalue : SpellsChars ['v', 'a', 'l', 'u', 'e'] "value" := spellsChars_self (by decide)
  have hme : SpellsChars ['m', 'e'] "me" := spellsChars_self (by decide)
  have hm : SpellsChars ['m'] "m" := spellsChars_self (by decide)
  have hunit : IsUnit ['0', '0', '6', '1'] 'a'.toNat :=
    .digits (w := 0) (x := 0) (y := 6) (z := 1) rfl rfl rfl rfl
  have ha : SpellsChar ['\\', 'u', '0', '0', '6', '1'] 'a' := .unit hunit
  have hname : SpellsChars ['n', '\\', 'u', '0', '0', '6', '1', 'm', 'e'] "name" :=
    .char (.plain (by decide) (by decide) (by decide)) (.char ha hme)
  have hone : Spells 999 ['1'] (.whole 1) :=
    (SpellsLeaf.number (.whole false (.digits rfl (by decide) (by simp)) (by decide))).spells 999
  have htext : Spells 999 ['"', 'm', '"'] (.text "m") := (SpellsLeaf.text hm).spells 999
  have htrue : Spells 999 ['[', 't', 'r', 'u', 'e', ']'] (.array [.bool true]) :=
    .array hgap (.last (SpellsLeaf.true.spells 998) hgap)
  have hobject : Spells 1000
      "\x7b\"value\":1, \"n\\u0061me\":\"m\" ,\"value\":[true]\x7d".toList
      (.object [("value", .whole 1), ("name", .text "m"), ("value", .array [.bool true])]) :=
    .object hgap (.more (SpellsMember.pair hvalue hgap hgap hone) hgap hspace
      (.more (SpellsMember.pair hname hgap hgap htext) hspace hgap
        (.last (SpellsMember.pair hvalue hgap hgap htrue) hgap)))
  have hend : IsGap ['\n'] := by simp [IsGap, isWhitespace]
  have haddress : addressFault? ((Endpoint.ofAddress "https://h").request "q").url = none := by
    decide +kernel
  obtain ⟨-, -, hsample⟩ := ask_of_spellsDocument
    (.constant (.body (Utf8.encode _))) (.ofAddress "https://h") "q" () haddress
    (.value hgap hobject hend) rfl
  have hfits : ¬ (Json.object
      [("value", .whole 1), ("name", .text "m"), ("value", .array [.bool true])]).IsRefused := by
    rw [isRefused_object_iff]
    rintro (⟨v, hv, hmisfit⟩ | ⟨v, hv, -⟩)
    · obtain rfl : .text "m" = v := Option.some.inj hv
      exact hmisfit.notText _ rfl
    · cases hv
  obtain ⟨members, hmembers, houtcome⟩ := hsample (by rintro ⟨⟩) hfits
  obtain rfl := Json.object.inj hmembers
  exact houtcome

end Endpoint

end MetricIntake
