import Mathlib.Data.List.DropRight
import MetricIntake.Proofs.Addresses
import MetricIntake.Proofs.PercentCodes
import MetricIntake.Proofs.StoreKeys

/-!
# Addresses of samples

Behind the base address of an endpoint and the path of samples the name of a metric is one segment.
An address tells base and name (`Endpoint.sampleUrl_eq_iff`), and which parts it has is up to the
base alone: without slashes, question marks and number signs the segment only goes on with the last
part that there is (`Url.partsBehind_append`).  `sampleUrl_unambiguous` puts this together, for the
address of a sample and for the one that is requested.
-/

namespace MetricIntake

/-! ### Parts of a URL -/

/-- What has no separator in it goes on with the last part. -/
theorem Text.splitFirst_append {separator : Char} {tail : List Char} (h : separator ∉ tail)
    (cs : List Char) :
    splitFirst separator (cs ++ tail) =
      match splitFirst separator cs with
      | (before, some behind) => (before, some (behind ++ tail))
      | (before, none) => (before ++ tail, none) := by
  have htail : ∀ c ∈ tail, decide (c ≠ separator) = true := fun c hc =>
    decide_eq_true fun heq => h (heq ▸ hc)
  unfold splitFirst
  rw [List.span_eq_takeWhile_dropWhile, List.span_eq_takeWhile_dropWhile]
  cases hdrop : cs.dropWhile (· ≠ separator) with
  | nil =>
    have hcs := List.dropWhile_eq_nil_iff.1 hdrop
    rw [List.takeWhile_append_of_pos hcs, List.dropWhile_append_of_pos hcs,
      List.takeWhile_eq_self_iff.2 htail, List.dropWhile_eq_nil_iff.2 htail,
      List.takeWhile_eq_self_iff.2 hcs]
  | cons c behind =>
    have hcs : cs.takeWhile (· ≠ separator) ++ c :: behind = cs :=
      hdrop ▸ List.takeWhile_append_dropWhile
    have hlength : (cs.takeWhile (· ≠ separator)).length ≠ cs.length := by
      intro hlength
      have hwhole := congrArg List.length hcs
      rw [List.length_append, hlength, List.length_cons] at hwhole
      omega
    rw [List.takeWhile_append, if_neg hlength, List.dropWhile_append, hdrop]
    rfl

/-- There is one part more than there are separators. -/
theorem Text.length_splitOn (separator : Char) (cs : List Char) :
    (cs.splitOn separator).length = cs.count separator + 1 := by
  induction cs with
  | nil => rfl
  | cons c cs ih =>
    rw [List.splitOn_cons_eq_if_modifyHead, List.count_cons]
    split
    · rw [List.length_cons, ih]
    · rw [List.length_modifyHead, ih]

namespace Url

/-- What stands behind the scheme of a URL, divided by all separators. -/
structure Parts where
  authority : List Char
  path : List Char
  /-- What is behind the first question mark, if there is one. -/
  query : Option (List Char)
  /-- What is behind the first number sign, if there is one. -/
  fragment : Option (List Char)

/-- An authority and the parts of what stands behind it. -/
def partsBehind (authority rest : List Char) : Parts :=
  let (front, fragment) := Text.splitFirst '#' rest
  let (path, query) := Text.splitFirst '?' front
  { authority, path, query, fragment }

/-- The parts of a text as a URL. -/
def parts (text : List Char) : Parts :=
  let (authority, rest) := splitAuthority (dropScheme (counted text))
  partsBehind authority rest

theorem parts_of_splitAuthority {text authority rest : List Char}
    (h : splitAuthority (dropScheme (counted text)) = (authority, rest)) :
    parts text = partsBehind authority rest := by
  rw [parts, h]

/-- A URL that is read has the parts of its text. -/
theorem eq_of_read {text : List Char} {u : Url} (h : read text = .ok u) :
    u = ⟨(parts text).authority, (parts text).path, (parts text).query.getD []⟩ := by
  unfold read at h
  dsimp only at h
  split at h
  · cases h
  · split at h
    · cases h
    · exact (Except.ok.inj h).symm

/-- Which parts a URL has. -/
structure Outline where
  authority : List Char
  /-- The number of segments that slashes divide the path into. -/
  segments : Nat
  hasQuery : Bool
  hasFragment : Bool
deriving DecidableEq

namespace Parts

/-- Which of the parts there are. -/
def outline (p : Parts) : Outline :=
  { authority := p.authority
    segments := (p.path.splitOn '/').length
    hasQuery := p.query.isSome
    hasFragment := p.fragment.isSome }

/-- The last of the parts goes on with some characters. -/
def extend (p : Parts) (tail : List Char) : Parts :=
  match p.fragment, p.query with
  | some fragment, _ => { p with fragment := some (fragment ++ tail) }
  | none, some query => { p with query := some (query ++ tail) }
  | none, none => { p with path := p.path ++ tail }

theorem outline_extend {tail : List Char} (h : '/' ∉ tail) (p : Parts) :
    (p.extend tail).outline = p.outline := by
  obtain ⟨authority, path, query, fragment⟩ := p
  cases fragment with
  | some fragment => rfl
  | none =>
    cases query with
    | some query => rfl
    | none =>
      have hsegments : ((path ++ tail).splitOn '/').length = (path.splitOn '/').length := by
        rw [Text.length_splitOn, Text.length_splitOn, List.count_append, List.count_eq_zero.2 h,
          Nat.add_zero]
      exact congrArg (Outline.mk authority · false false) hsegments

end Parts

theorem partsBehind_append {tail : List Char} (hquery : '?' ∉ tail) (hfragment : '#' ∉ tail)
    (authority rest : List Char) :
    partsBehind authority (rest ++ tail) = (partsBehind authority rest).extend tail := by
  unfold partsBehind
  rw [Text.splitFirst_append hfragment]
  obtain ⟨front, fragment⟩ := Text.splitFirst '#' rest
  cases fragment with
  | some fragment => rfl
  | none =>
    dsimp only
    rw [Text.splitFirst_append hquery]
    obtain ⟨path, query⟩ := Text.splitFirst '?' front
    cases query <;> rfl

end Url

namespace Endpoint

/-! ### Base addresses -/

/-- A base address is `front` with slashes behind it, and `front` does not end in one. -/
structure StripsTo (base front : List Char) : Prop where
  slashes : ∃ n, base = front ++ List.replicate n '/'
  last : front.getLast? ≠ some '/'

theorem dropSlashes_eq_rdropWhile (cs : List Char) : dropSlashes cs = cs.rdropWhile (· = '/') := rfl

theorem stripsTo_dropSlashes (base : List Char) : StripsTo base (dropSlashes base) where
  slashes := by
    obtain ⟨n, hn⟩ : ∃ n, base.reverse.takeWhile (· = '/') = List.replicate n '/' :=
      ⟨_, List.eq_replicate_of_mem fun _ hc => by simpa using List.mem_takeWhile_imp hc⟩
    refine ⟨n, ?_⟩
    calc base = (base.reverse.takeWhile (· = '/') ++ base.reverse.dropWhile (· = '/')).reverse := by
          rw [List.takeWhile_append_dropWhile, List.reverse_reverse]
      _ = dropSlashes base ++ List.replicate n '/' := by
          rw [hn, List.reverse_append, List.reverse_replicate, dropSlashes]
  last h := by
    have hne : dropSlashes base ≠ [] := by
      intro hnil
      rw [hnil] at h
      cases h
    rw [List.getLast?_eq_some_getLast hne] at h
    exact List.rdropWhile_last_not (· = '/') base hne (decide_eq_true (Option.some.inj h))

theorem StripsTo.dropSlashes_eq {base front : List Char} (h : StripsTo base front) :
    dropSlashes base = front := by
  obtain ⟨n, rfl⟩ := h.slashes
  induction n with
  | zero =>
    rw [List.replicate_zero, List.append_nil, dropSlashes_eq_rdropWhile,
      List.rdropWhile_eq_self_iff]
    intro hne hlast
    refine h.last ?_
    rw [List.getLast?_eq_some_getLast hne, of_decide_eq_true hlast]
  | succ n ih =>
    rw [List.replicate_succ', ← List.append_assoc, dropSlashes_eq_rdropWhile,
      List.rdropWhile_concat_pos _ _ _ (by decide)]
    exact ih ⟨⟨n, rfl⟩, h.last⟩

/-- There is one such `front`, the base address without the slashes at its end. -/
theorem stripsTo_iff {base front : List Char} : StripsTo base front ↔ dropSlashes base = front :=
  ⟨StripsTo.dropSlashes_eq, fun h => h ▸ stripsTo_dropSlashes base⟩

theorem toList_baseUrl_make (id baseUrl token : String) (timeout : Double) :
    (make id baseUrl token timeout).baseUrl.toList = dropSlashes baseUrl.toList :=
  String.toList_ofList

/-! ### What an address tells -/

/-- A name is one segment. -/
theorem slash_not_mem_encode (name : String) : '/' ∉ Percent.encode name.toList :=
  (Percent.isSegment_encode _).not_mem (by decide) (by decide)

/-- A path and what stands in front of it are told by both together. -/
theorem append_pathOf_inj {front front' : List Char} {name name' : String}
    (h : front ++ pathOf name = front' ++ pathOf name') : front = front' ∧ name = name' := by
  have hpath (front : List Char) (name : String) : front ++ pathOf name =
      (front ++ "/v1/samples".toList) ++ '/' :: Percent.encode name.toList := by
    rw [List.append_assoc]
    rfl
  rw [hpath, hpath] at h
  -- neither name has a slash in it that would be the last one
  rcases append_cons_eq_append_cons_iff.1 h with ⟨hfront, hname⟩ | ⟨u, -, hu⟩ | ⟨u, -, hu⟩
  · exact ⟨List.append_cancel_right hfront, String.toList_inj.1 (Percent.encode_injective hname)⟩
  · exact absurd (hu ▸ List.mem_append_right u List.mem_cons_self) (slash_not_mem_encode name)
  · exact absurd (hu ▸ List.mem_append_right u List.mem_cons_self) (slash_not_mem_encode name')

/-- **An address tells base and name.** -/
theorem sampleUrl_eq_iff (e e' : Endpoint) (name name' : String) :
    e.sampleUrl name = e'.sampleUrl name' ↔ e.baseUrl = e'.baseUrl ∧ name = name' := by
  rw [← String.toList_inj, toList_sampleUrl, toList_sampleUrl]
  constructor
  · intro h
    obtain ⟨hbase, hname⟩ := append_pathOf_inj h
    exact ⟨String.toList_inj.1 hbase, hname⟩
  · rintro ⟨hbase, rfl⟩
    rw [hbase]

/-! ### Which parts an address has -/

theorem not_isIgnored_of_isInPath {c : Char} (h : isInPath c = true) :
    (!Url.isIgnored c) = true := by
  rw [Bool.not_eq_true', Url.isIgnored]
  by_contra hc
  simp only [Bool.not_eq_false, Bool.or_eq_true, decide_eq_true_eq, or_assoc] at hc
  rcases hc with rfl | rfl | rfl <;> exact absurd h (by decide)

/-- A name goes on with the last part of what stands in front of it. -/
theorem exists_parts_append_pathOf (front : List Char) :
    ∃ bare : Url.Parts, ∀ name,
      Url.parts (front ++ pathOf name) = bare.extend (Percent.encode name.toList) := by
  obtain ⟨authority, rest, hsplit⟩ := Url.exists_splitAuthority (Url.dropScheme (Url.counted front))
  refine ⟨Url.partsBehind authority (rest ++ "/samples/".toList), fun name => ?_⟩
  have hsegment := Percent.isSegment_encode name.toList
  have hslash : pathOf name =
      '/' :: 'v' :: '1' :: '/' :: ("samples/".toList ++ Percent.encode name.toList) := rfl
  have hkept : (pathOf name).tail.filter (!Url.isIgnored ·) = (pathOf name).tail :=
    List.filter_eq_self.2 fun c hc =>
      not_isIgnored_of_isInPath (isInPath_of_mem (List.mem_of_mem_tail hc))
  -- the authority ends at a slash in front of the name, so that the name is at the end of the rest
  have hbehind : Url.splitAuthority (Url.dropScheme (Url.counted (front ++ pathOf name))) =
      (authority, rest ++ "/samples/".toList ++ Percent.encode name.toList) := by
    rw [hslash, List.tail_cons] at hkept
    rw [hslash, Url.counted_append_slash, hkept, Url.dropScheme_append_slash, hsplit,
      List.append_assoc]
    rfl
  rw [Url.parts_of_splitAuthority hbehind]
  exact Url.partsBehind_append (hsegment.not_mem (by decide) (by decide))
    (hsegment.not_mem (by decide) (by decide)) authority _

/-- Addresses in which each name is a segment of its own. -/
structure Unambiguous (front : List Char) (urlOf : String → String) : Prop where
  /-- Behind the path of samples stands one segment, and it stands for the bytes of the name. -/
  segment : ∀ name, ∃ segment, (urlOf name).toList = front ++ "/v1/samples/".toList ++ segment ∧
    Percent.IsSegment segment ∧ Percent.decode segment = name.toUTF8.data.toList
  injective : Function.Injective urlOf
  /-- No name adds a segment of the path, a query or a fragment. -/
  outline : ∀ name name',
    (Url.parts (urlOf name).toList).outline = (Url.parts (urlOf name').toList).outline

theorem unambiguous_of_pathOf {front : List Char} {urlOf : String → String}
    (h : ∀ name, (urlOf name).toList = front ++ pathOf name) : Unambiguous front urlOf where
  segment name := by
    refine ⟨Percent.encode name.toList, ?_, Percent.isSegment_encode _, ?_⟩
    · rw [h, List.append_assoc]
      rfl
    · rw [Percent.decode_encode, Utf8.encode_toList]
  injective name name' heq := by
    have hlists : front ++ pathOf name = front ++ pathOf name' := by
      rw [← h, heq, h]
    exact (append_pathOf_inj hlists).2
  outline name name' := by
    obtain ⟨bare, hbare⟩ := exists_parts_append_pathOf front
    rw [h, h, hbare, hbare, Url.Parts.outline_extend (slash_not_mem_encode name),
      Url.Parts.outline_extend (slash_not_mem_encode name')]

end Endpoint

/-- **Addresses of samples are unambiguous.**  For any base address, the name of a metric stands
behind it, without the slashes at its end, and the path of samples: as letters, digits, `_ . - ~`
and escapes, which stand for the bytes of the name.  Different names have different addresses, of
the same parts, also as they are requested.  Two base addresses give the same addresses just if they
differ in slashes at their ends only. -/
theorem sampleUrl_unambiguous (id baseUrl token : String) (timeout : Double) :
    ∃ front, Endpoint.StripsTo baseUrl.toList front ∧
      Endpoint.Unambiguous front (Endpoint.make id baseUrl token timeout).sampleUrl ∧
      (∃ asked, Endpoint.Unambiguous asked fun name =>
        ((Endpoint.make id baseUrl token timeout).request name).url) ∧
      ∀ id' baseUrl' token' timeout' name name',
        (Endpoint.make id' baseUrl' token' timeout').sampleUrl name' =
            (Endpoint.make id baseUrl token timeout).sampleUrl name ↔
          Endpoint.StripsTo baseUrl'.toList front ∧ name' = name := by
  refine ⟨Endpoint.dropSlashes baseUrl.toList, Endpoint.stripsTo_dropSlashes _, ?_, ?_, ?_⟩
  · refine Endpoint.unambiguous_of_pathOf fun name => ?_
    rw [Endpoint.toList_sampleUrl, Endpoint.toList_baseUrl_make]
  · exact (Endpoint.exists_requestedUrl _).imp fun _ h => Endpoint.unambiguous_of_pathOf h
  · intro id' baseUrl' token' timeout' name name'
    rw [Endpoint.sampleUrl_eq_iff, Endpoint.stripsTo_iff, ← String.toList_inj,
      Endpoint.toList_baseUrl_make, Endpoint.toList_baseUrl_make]

/-- Slashes, question marks and percent signs of a name are escaped. -/
example (id token : String) (timeout : Double) :
    (Endpoint.make id "https://h//" token timeout).sampleUrl "50% of a/b?" =
      "https://h/v1/samples/50%25%20of%20a%2Fb%3F" := by
  rfl

end MetricIntake
