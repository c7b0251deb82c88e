import MetricIntake.Proofs.Addresses
import MetricIntake.Proofs.JsonLimits
import MetricIntake.Proofs.Utf8
import MetricIntake.Settings.Basic

/-!
# Failures of endpoints

Asked for a metric, an endpoint gives a sample or none, or it fails with an error of its own, which
is a refusal for the statuses 401 and 403 and one of transport for everything else: `Answers`.  A
fault is left where the network has one, where nothing can be requested at the address, for all
metrics alike, and where the body shows that it is too much for the reader (`Oversized`): it has too
many digits in a row or too many opening brackets.  `Conduct` says all of this of one endpoint, and
`conduct_of_buildSource` of those that settings declare.
-/

namespace MetricIntake

namespace Endpoint

/-! ### Bodies -/

/-- The text shows why reading it is a fault: it has too many digits in a row, or more opening
brackets and braces than values may lie deep. -/
def Oversized (depth : Json.Depth) (text : List Char) : Fault → Prop
  | .longWhole n => Numeral.digitsLimit < n ∧
      ∃ digits, digits <:+: text ∧ digits.length = n ∧ ∀ c ∈ digits, isDigit c = true
  | .nesting _ => depth.levels < text.countP fun c => c = '[' ∨ c = '\x7b'
  | _ => False

theorem countP_isOpening (text : List Char) :
    (CodeText.ofChars text).countP Json.isOpening = text.countP fun c => c = '[' ∨ c = '\x7b' := by
  rw [CodeText.ofChars, List.countP_map]
  refine List.countP_congr fun c _ => ?_
  simp [Json.isOpening]

/-- Characters within a text of characters. -/
theorem isInfix_of_ofChars {digits text : List Char}
    (h : CodeText.ofChars digits <:+: CodeText.ofChars text) : digits <:+: text := by
  have hinfix := h.filterMap CodePoint.char?
  rwa [CodeText.filterMap_char?_ofChars, CodeText.filterMap_char?_ofChars] at hinfix

/-- A fault of a body shows in its text. -/
theorem oversized_of_readBody {depth : Json.Depth} {name : String} {bytes : List UInt8} {f : Fault}
    (h : readBody depth name bytes = .error f) :
    ∃ text, Utf8.decode bytes = .ok text ∧ Oversized depth text f := by
  unfold readBody at h
  split at h
  · cases h
  · rename_i text hdecode
    refine ⟨text, hdecode, ?_⟩
    split at h
    · cases h
    · rename_i c hread
      obtain rfl := Except.error.inj h
      have hshown : depth.levels < (CodeText.ofChars text).countP Json.isOpening :=
        Json.shown_of_readUnmarked hread
      rwa [countP_isOpening] at hshown
    · rename_i n hread
      obtain rfl := Except.error.inj h
      obtain ⟨hlimit, digits, hdigits, hlength, hall⟩ := Json.shown_of_readUnmarked hread
      exact ⟨hlimit, digits, isInfix_of_ofChars hdigits, hlength, hall⟩
    · cases h

/-- No value of a body is a refusal. -/
theorem ne_refused_of_readValue {name : String} {value : Json} {t : Trouble}
    (h : readValue name value = .error t) : ∀ code, t ≠ .refused code := by
  rintro code rfl
  unfold readValue at h
  split at h
  · cases h
  · split at h
    · split at h <;> cases h
    · cases h

theorem ne_refused_of_readBody {depth : Json.Depth} {name : String} {bytes : List UInt8}
    {t : Trouble} (h : readBody depth name bytes = .ok (.error t)) : ∀ code, t ≠ .refused code := by
  unfold readBody at h
  split at h
  · cases h
    exact fun _ => Trouble.noConfusion
  · split at h
    · cases h
      exact fun _ => Trouble.noConfusion
    · cases h
    · cases h
    · exact ne_refused_of_readValue (Except.ok.inj h)

/-- Nothing but digits, the first of which is no zero, is a fault if they are too many. -/
theorem readBody_digits (depth : Json.Depth) (name : String) {digits : List Char}
    (hdigits : ∀ c ∈ digits, isDigit c = true) (hfirst : digits.head? ≠ some '0')
    (hlimit : Numeral.digitsLimit < digits.length) :
    readBody depth name (Utf8.encode digits) = .error (.longWhole digits.length) := by
  rw [readBody, Utf8.decode_encode]
  dsimp only
  rw [Json.readUnmarked_digits hdigits hfirst hlimit]

/-- Too many brackets are a fault, whatever stands behind them. -/
theorem readBody_brackets (depth : Json.Depth) (name : String) (tail : List Char) :
    readBody depth name (Utf8.encode (List.replicate (depth.levels + 1) '[' ++ tail)) =
      .error (.nesting .array) := by
  have htext : CodeText.ofChars (List.replicate (depth.levels + 1) '[' ++ tail) =
      List.replicate (depth.levels + 1) (.char '[') ++ CodeText.ofChars tail := by
    simp [CodeText.ofChars]
  rw [readBody, Utf8.decode_encode]
  dsimp only
  rw [htext, Json.readUnmarked_brackets]

/-! ### Answers -/

/-- What comes of an answer of a service, for those who ask the source `id` and read no deeper than
`depth`. -/
structure Answers (depth : Json.Depth) (id : String) (answer : HttpOutcome)
    (outcome : Except Failure (Option Sample)) : Prop where
  /-- Errors of the source are its own, and are refusals or of transport. -/
  expected : ∀ error, outcome = .error (.source error) →
    error.source = id ∧ (error.kind = .unauthorized ∨ error.kind = .transport)
  /-- Two statuses are refusals, and nothing else is. -/
  refused : (∃ error, outcome = .error (.source error) ∧ error.kind = .unauthorized) ↔
    answer = .status 401 ∨ answer = .status 403
  /-- A fault is one of the network, or shows in the body. -/
  fault : ∀ f, outcome = .error (.fault f) → answer = .broken f ∨
    ∃ bytes text, answer = .body bytes ∧ Utf8.decode bytes = .ok text ∧ Oversized depth text f

/-- Two statuses come to a refusal. -/
theorem answer_eq_refused_iff (depth : Json.Depth) (name : String) (o : HttpOutcome) :
    (∃ code, Endpoint.answer depth name o = .ok (.error (.refused code))) ↔
      o = .status 401 ∨ o = .status 403 := by
  constructor
  · rintro ⟨code, h⟩
    cases o with
    | status code' =>
      rw [Endpoint.answer] at h
      split at h
      · rename_i hcode
        exact hcode.imp (congrArg _) (congrArg _)
      · split at h <;> cases h
    | unreachable message => cases h
    | broken f => cases h
    | body bytes => exact absurd rfl (ne_refused_of_readBody h code)
  · rintro (rfl | rfl)
    · exact ⟨401, rfl⟩
    · exact ⟨403, rfl⟩

/-- Faults are those of the network and of bodies. -/
theorem fault_of_answer {depth : Json.Depth} {name : String} {o : HttpOutcome} {f : Fault}
    (h : Endpoint.answer depth name o = .error f) : o = .broken f ∨
      ∃ bytes text, o = .body bytes ∧ Utf8.decode bytes = .ok text ∧ Oversized depth text f := by
  cases o with
  | status code =>
    rw [Endpoint.answer] at h
    split at h
    · cases h
    · split at h <;> cases h
  | unreachable message => cases h
  | broken f' =>
    obtain rfl : f' = f := Except.error.inj h
    exact .inl rfl
  | body bytes =>
    obtain ⟨text, hdecode, htext⟩ := oversized_of_readBody h
    exact .inr ⟨bytes, text, rfl, hdecode, htext⟩

/-- A trouble is a refusal or one of transport. -/
theorem toSourceError_kind (e : Endpoint) (name : String) (t : Trouble) :
    (t.toSourceError e name).kind = .unauthorized ∨ (t.toSourceError e name).kind = .transport := by
  cases t with
  | refused code => exact .inl rfl
  | _ => exact .inr rfl

theorem toSourceError_kind_iff {e : Endpoint} {name : String} {t : Trouble} :
    (t.toSourceError e name).kind = .unauthorized ↔ ∃ code, t = .refused code := by
  cases t <;> simp [Trouble.toSourceError]

/-- **Every answer** comes to what it should. -/
theorem answers_outcome (e : Endpoint) (depth : Json.Depth) (name : String) (o : HttpOutcome) :
    Answers depth e.id o (e.outcome depth name o) := by
  have hrefused := answer_eq_refused_iff depth name o
  unfold Endpoint.outcome
  rcases hanswer : Endpoint.answer depth name o with f | t | sample?
  · refine ⟨fun _ h => (by cases h), ?_, ?_⟩
    · rw [← hrefused, hanswer]
      simp
    · rintro f' ⟨⟩
      exact fault_of_answer hanswer
  · refine ⟨?_, ?_, fun _ h => (by cases h)⟩
    · rintro _ ⟨⟩
      exact ⟨rfl, toSourceError_kind e name t⟩
    · rw [← hrefused, hanswer]
      simp [toSourceError_kind_iff]
  · refine ⟨fun _ h => (by cases h), ?_, fun _ h => (by cases h)⟩
    rw [← hrefused, hanswer]
    simp

theorem outcome_body (e : Endpoint) {depth : Json.Depth} {name : String} {bytes : List UInt8}
    {f : Fault} (h : readBody depth name bytes = .error f) :
    e.outcome depth name (.body bytes) = .error (.fault f) := by
  rw [Endpoint.outcome, Endpoint.answer, h]

/-! ### Asking -/

/-- What comes of asking an endpoint, for every metric and in every state of the world outside. -/
structure Conduct {ω : Type} (network : Network ω) (e : Endpoint) : Prop where
  /-- Where something can be requested, there is one request and its answer comes to what it
  should. -/
  reached : ∀ name outside, addressFault? (e.request name).url = none →
    (e.ask network name outside).1.requests = [e.request name] ∧
      Answers network.depth e.id (network.send (e.request name) outside).1.outcome
        (e.ask network name outside).1.outcome
  /-- Where nothing can be requested, nothing is, and this is a fault. -/
  unreached : ∀ name outside f, addressFault? (e.request name).url = some f →
    (e.ask network name outside).1.requests = [] ∧ (e.ask network name outside).2 = outside ∧
      (e.ask network name outside).1.outcome = .error (.fault f)
  /-- Whether something can be requested is the same for all metrics. -/
  address : ∀ name name', addressFault? (e.request name).url = none ↔
    addressFault? (e.request name').url = none

section Ask

variable {ω : Type} (network : Network ω) (e : Endpoint) (name : String) (outside : ω)

theorem ask_of_reached (h : addressFault? (e.request name).url = none) :
    (e.ask network name outside).1.requests = [e.request name] ∧
      (e.ask network name outside).1.outcome =
        e.outcome network.depth name (network.send (e.request name) outside).1.outcome := by
  unfold ask
  dsimp only
  rw [h]
  exact ⟨rfl, rfl⟩

theorem ask_of_unreached {f : Fault} (h : addressFault? (e.request name).url = some f) :
    (e.ask network name outside).1.requests = [] ∧ (e.ask network name outside).2 = outside ∧
      (e.ask network name outside).1.outcome = .error (.fault f) := by
  unfold ask
  dsimp only
  rw [h]
  exact ⟨rfl, rfl, rfl⟩

end Ask

/-- **Every endpoint** conducts itself so. -/
theorem conduct {ω : Type} (network : Network ω) (e : Endpoint) : e.Conduct network where
  reached name outside h := by
    obtain ⟨hrequests, houtcome⟩ := ask_of_reached network e name outside h
    rw [houtcome]
    exact ⟨hrequests, e.answers_outcome network.depth name _⟩
  unreached name outside _ h := ask_of_unreached network e name outside h
  address := e.addressFault?_eq_none_iff

end Endpoint

/-! ### Declared endpoints -/

/-- An endpoint is built from every address and token that are not empty. -/
theorem build_endpoint {ω : Type} (network : Network ω) (id : String) {config : SourceSettings}
    {baseUrl token : String} (hkind : config.kind = .endpoint)
    (hbase : config.baseUrl = some baseUrl) (hbaseUrl : baseUrl.isEmpty = false)
    (htoken : config.token = some token) (hsome : token.isEmpty = false) :
    config.build network id =
      .ok (.endpoint network (.make id baseUrl token config.timeoutSeconds)) := by
  unfold SourceSettings.build
  rw [hkind, hbase, htoken, Option.filter_some_pos (by simp [hbaseUrl]),
    Option.filter_some_pos (by simp [hsome])]

/-- **Declared endpoints** conduct themselves as endpoints do. -/
theorem conduct_of_buildSource {ω : Type} {network : Network ω} {settings : Settings} {id : String}
    {config : SourceSettings} {source : Source ω}
    (hconfig : Named.lookup id settings.sources = some config) (hkind : config.kind = .endpoint)
    (hsource : settings.buildSource network id = .ok source) :
    ∃ e : Endpoint, source = .endpoint network e ∧ e.id = id ∧ e.Conduct network := by
  have hbuild : config.build network id = .ok source := by
    rw [Settings.buildSource, hconfig] at hsource
    exact hsource
  unfold SourceSettings.build at hbuild
  rw [hkind] at hbuild
  dsimp only at hbuild
  split at hbuild
  · cases hbuild
  · cases hbuild
  · obtain rfl := Except.ok.inj hbuild
    exact ⟨_, rfl, rfl, Endpoint.conduct network _⟩

section Declared

/-- What declares an endpoint at an address. -/
def SourceSettings.ofAddress (baseUrl : String) : SourceSettings :=
  { kind := .endpoint
    baseUrl := some baseUrl
    token := some "token"
    timeoutSeconds := .ofWhole 10
    samples := [] }

/-- Settings with nothing but an endpoint at an address. -/
def Settings.ofAddress (baseUrl : String) : Settings :=
  { storeUrl := "store"
    queueName := "queue"
    jobTimeoutSeconds := 300
    resultTtlSeconds := 3600
    cacheKeyPrefix := "sampleduct"
    meterName := "Refocus"
    logLevel := "INFO"
    sources := [("prod", .ofAddress baseUrl)] }

/-- The endpoint of these settings. -/
def Endpoint.ofAddress (baseUrl : String) : Endpoint :=
  .make "prod" baseUrl "token" (SourceSettings.ofAddress baseUrl).timeoutSeconds

theorem lookup_ofAddress (baseUrl : String) :
    Named.lookup "prod" (Settings.ofAddress baseUrl).sources =
      some (SourceSettings.ofAddress baseUrl) := by
  simp [Settings.ofAddress, Named.lookup]

theorem buildSource_ofAddress {ω : Type} (network : Network ω) {baseUrl : String}
    (h : baseUrl.isEmpty = false) :
    (Settings.ofAddress baseUrl).buildSource network "prod" =
      .ok (.endpoint network (.ofAddress baseUrl)) := by
  rw [Settings.buildSource, lookup_ofAddress]
  exact build_endpoint network "prod" rfl rfl h rfl (by decide +kernel)

/-- All requests are answered alike, and values may lie a thousand deep. -/
def Network.constant (o : HttpOutcome) : Network Unit :=
  { send := fun _ outside => (⟨o, .zero, false⟩, outside), depth := { levels := 1000 } }

theorem conduct_of_ofAddress :
    Named.lookup "prod" (Settings.ofAddress "https://h").sources =
        some (SourceSettings.ofAddress "https://h") ∧
      (Settings.ofAddress "https://h").buildSource (.constant (.status 403)) "prod" =
        .ok (.endpoint (.constant (.status 403)) (.ofAddress "https://h")) ∧
      ∃ e, Source.endpoint (.constant (.status 403)) (.ofAddress "https://h") =
          .endpoint (.constant (.status 403)) e ∧
        e.id = "prod" ∧ e.Conduct (.constant (.status 403)) := by
  have hconfig := lookup_ofAddress "https://h"
  have hsource := buildSource_ofAddress (.constant (.status 403))
    (show "https://h".isEmpty = false by decide +kernel)
  exact ⟨hconfig, hsource, conduct_of_buildSource hconfig rfl hsource⟩

/-- Endpoints whose network never breaks have faults all the same: too long a number, too deep a
value, and an address without a scheme. -/
theorem conduct_faults :
    (¬ ∀ (network : Network Unit) (settings : Settings) (id : String) (source : Source Unit),
      settings.buildSource network id = .ok source →
        (∀ request outside f, (network.send request outside).1.outcome ≠ .broken f) →
          ∀ name now outside f, (source.ask name now outside).1.outcome ≠ .error (.fault f)) ∧
    (Endpoint.ask (.constant (.body (Utf8.encode (List.replicate 4301 '1'))))
      (.ofAddress "https://h") "m" ()).1.outcome = .error (.fault (.longWhole 4301)) ∧
    (Endpoint.ask (.constant (.body (Utf8.encode (List.replicate 3000 '['))))
      (.ofAddress "https://h") "m" ()).1.outcome = .error (.fault (.nesting .array)) ∧
    (Endpoint.ask (.constant (.body [])) (.ofAddress "h") "m" ()).1.outcome =
      .error (.fault (.unknownUrlType "h/v1/samples/m")) := by
  have hreached :
      Endpoint.addressFault? ((Endpoint.ofAddress "https://h").request "m").url = none := by
    decide +kernel
  have hunreached : Endpoint.addressFault? ((Endpoint.ofAddress "h").request "m").url =
      some (.unknownUrlType "h/v1/samples/m") := by
    decide +kernel
  have hdigits : (Endpoint.ask (.constant (.body (Utf8.encode (List.replicate 4301 '1'))))
      (.ofAddress "https://h") "m" ()).1.outcome = .error (.fault (.longWhole 4301)) := by
    rw [(Endpoint.ask_of_reached _ _ _ _ hreached).2]
    have hbody : Endpoint.readBody { levels := 1000 } "m" (Utf8.encode (List.replicate 4301 '1')) =
        .error (.longWhole 4301) := by
      have hones : ∀ c ∈ List.replicate 4301 '1', isDigit c = true := by
        intro c hc
        rw [List.eq_of_mem_replicate hc]
        decide
      rw [Endpoint.readBody_digits _ "m" hones (by simp)
        (by rw [List.length_replicate]; decide), List.length_replicate]
    exact Endpoint.outcome_body _ hbody
  refine ⟨fun h => ?_, hdigits, ?_, (Endpoint.ask_of_unreached _ _ _ _ hunreached).2.2⟩
  · exact h _ _ _ _ (buildSource_ofAddress _ (show "https://h".isEmpty = false by decide +kernel))
      (fun _ _ _ h => by cases h) "m" default () _ hdigits
  · rw [(Endpoint.ask_of_reached _ _ _ _ hreached).2]
    have hbody : Endpoint.readBody { levels := 1000 } "m" (Utf8.encode (List.replicate 3000 '[')) =
        .error (.nesting .array) := by
      have hsplit : List.replicate 3000 '[' =
          List.replicate (1000 + 1) '[' ++ List.replicate 1999 '[' := by
        rw [List.replicate_append_replicate]
      rw [hsplit]
      exact Endpoint.readBody_brackets { levels := 1000 } "m" _
    exact Endpoint.outcome_body _ hbody

end Declared

end MetricIntake
