import MetricIntake.Source.Endpoint
import Mathlib.Data.List.TakeDrop

/-!
# Addresses of endpoints

Whether samples can be requested of an endpoint at all depends on its base address alone, and not on
the metric: `Endpoint.addressFault?_eq_none_iff`.  The name of a metric is percent-encoded behind a
slash, so that neither the scheme nor the authority of an address reaches into it.
-/

namespace MetricIntake

/-! ### What stands behind a base address -/

/-- The path of a sample. -/
def Endpoint.pathOf (name : String) : List Char :=
  Endpoint.samplesPath.toList ++ Percent.encode name.toList

/-- A character that is not blank and starts no fragment. -/
def isInPath (c : Char) : Bool := !Text.isBlank c && c ≠ '#'

theorem isInPath_encodeByte (b : UInt8) : ∀ c ∈ Percent.encodeByte b, isInPath c = true := by
  have hall : ∀ n < 256, (Percent.encodeByte (UInt8.ofNat n)).all isInPath = true := by
    decide +kernel
  have hb := hall b.toNat b.toNat_lt
  rw [UInt8.ofNat_toNat] at hb
  exact List.all_eq_true.1 hb

namespace Endpoint

theorem isInPath_of_mem {name : String} {c : Char} (h : c ∈ pathOf name) : isInPath c = true := by
  rcases List.mem_append.1 h with h | h
  · have hpath : samplesPath.toList.all isInPath = true := by decide +kernel
    exact List.all_eq_true.1 hpath c h
  · obtain ⟨b, -, hb⟩ := List.mem_flatMap.1 h
    exact isInPath_encodeByte b c hb

/-- A path starts with a slash and no second one. -/
theorem pathOf_eq (name : String) : ∃ tail, pathOf name = '/' :: 'v' :: '1' :: '/' :: tail :=
  ⟨_, rfl⟩

end Endpoint

/-! ### Parts of an address -/

section Parts

variable {p : Char → Bool}

/-- Characters in front are dropped up to the slash at the latest. -/
theorem dropWhile_append_slash (hp : p '/' = false) (base tail : List Char) :
    (base ++ '/' :: tail).dropWhile p = base.dropWhile p ++ '/' :: tail := by
  induction base with
  | nil => exact List.dropWhile_cons_of_neg (by rw [hp]; exact Bool.false_ne_true)
  | cons c base ih =>
    rw [List.cons_append, List.dropWhile_cons, List.dropWhile_cons, ih]
    split <;> rfl

theorem takeWhile_append_slash (hp : p '/' = false) (base tail : List Char) :
    (base ++ '/' :: tail).takeWhile p = base.takeWhile p := by
  induction base with
  | nil => exact List.takeWhile_cons_of_neg (by rw [hp]; exact Bool.false_ne_true)
  | cons c base ih =>
    rw [List.cons_append, List.takeWhile_cons, List.takeWhile_cons, ih]

end Parts

/-! ### The requested address -/

namespace Endpoint

/-- Blank characters stand around the base address only. -/
theorem trim_append_pathOf (base : List Char) (name : String) :
    Text.trim (base ++ pathOf name) = base.dropWhile Text.isBlank ++ pathOf name := by
  obtain ⟨tail, htail⟩ := pathOf_eq name
  have hfront : (base ++ pathOf name).dropWhile Text.isBlank =
      base.dropWhile Text.isBlank ++ pathOf name := by
    rw [htail]
    exact dropWhile_append_slash (by decide) base _
  -- the last character of the path is not blank
  obtain ⟨c, rest, hend⟩ : ∃ c rest, (pathOf name).reverse = c :: rest := by
    refine List.exists_cons_of_ne_nil ?_
    rw [htail]
    simp
  have hc : Text.isBlank c = false := by
    have hmem : c ∈ pathOf name := List.mem_reverse.1 (hend ▸ List.mem_cons_self)
    have hpath := isInPath_of_mem hmem
    rw [isInPath, Bool.and_eq_true, Bool.not_eq_true'] at hpath
    exact hpath.1
  have hkept : ((pathOf name).reverse ++ (base.dropWhile Text.isBlank).reverse).dropWhile
      Text.isBlank = (pathOf name).reverse ++ (base.dropWhile Text.isBlank).reverse := by
    rw [hend, List.cons_append, List.dropWhile_cons_of_neg (by rw [hc]; exact Bool.false_ne_true)]
  rw [Text.trim, Text.trimBy, hfront, List.reverse_append, hkept, List.reverse_append,
    List.reverse_reverse, List.reverse_reverse]

/-- A mark without a slash stands in front of the base address if it does at all. -/
theorem isPrefixOf_append_slash {mark : List Char} (hmark : '/' ∉ mark) (base tail : List Char) :
    mark.isPrefixOf (base ++ '/' :: tail) = mark.isPrefixOf base := by
  induction mark generalizing base with
  | nil => simp
  | cons m mark ih =>
    rw [List.mem_cons, not_or] at hmark
    cases base with
    | nil => simp [List.isPrefixOf, Ne.symm hmark.1]
    | cons c base => simp [List.isPrefixOf, ih hmark.2 base]

theorem toList_sampleUrl (e : Endpoint) (name : String) :
    (e.sampleUrl name).toList = e.baseUrl.toList ++ pathOf name := by
  simp [sampleUrl, pathOf, String.toList_append]

/-- The requested address is the path behind what depends on the base address only. -/
theorem exists_requestedUrl (e : Endpoint) :
    ∃ base, ∀ name, (e.request name).url.toList = base ++ pathOf name := by
  let marker := "URL:".toList
  let body := e.baseUrl.toList.dropWhile Text.isBlank
  refine ⟨if marker.isPrefixOf body then (body.drop marker.length).dropWhile Text.isBlank else body,
    fun name => ?_⟩
  have hbody : Text.trim (e.sampleUrl name).toList = body ++ pathOf name := by
    rw [toList_sampleUrl, trim_append_pathOf]
  have hmarker : marker.isPrefixOf (body ++ pathOf name) = marker.isPrefixOf body := by
    obtain ⟨tail, htail⟩ := pathOf_eq name
    rw [htail]
    exact isPrefixOf_append_slash (by decide) body _
  show (requestedUrl (e.sampleUrl name)).toList = _
  unfold requestedUrl
  dsimp only
  rw [hbody, String.toList_ofList, hmarker]
  split
  · rename_i hprefix
    have hlength : marker.length ≤ body.length :=
      (List.isPrefixOf_iff_prefix.1 hprefix).length_le
    rw [List.drop_append_of_le_length hlength, trim_append_pathOf]
  · rfl

/-! ### Schemes and authorities -/

/-- A fragment starts in the base address if there is one. -/
theorem dropFragment_append_pathOf (base : List Char) :
    (∃ front, ∀ name, dropFragment (base ++ pathOf name) = front) ∨
      ∀ name, dropFragment (base ++ pathOf name) = base ++ pathOf name := by
  have hskip (name : String) : (base ++ pathOf name).reverse.dropWhile (· ≠ '#') =
      base.reverse.dropWhile (· ≠ '#') := by
    rw [List.reverse_append]
    refine List.dropWhile_append_of_pos fun c hc => ?_
    have hpath := isInPath_of_mem (List.mem_reverse.1 hc)
    rw [isInPath, Bool.and_eq_true] at hpath
    exact hpath.2
  cases h : base.reverse.dropWhile (· ≠ '#') with
  | nil =>
    refine .inr fun name => ?_
    rw [dropFragment, List.span_eq_takeWhile_dropWhile, hskip, h]
  | cons c front =>
    refine .inl ⟨front.reverse, fun name => ?_⟩
    rw [dropFragment, List.span_eq_takeWhile_dropWhile, hskip, h]

/-- Whether there is a scheme is up to the base address. -/
theorem hasScheme_eq {url url' : String} {base : List Char} {name name' : String}
    (h : url.toList = base ++ pathOf name) (h' : url'.toList = base ++ pathOf name') :
    hasScheme url = hasScheme url' := by
  have hslash (name : String) : ∃ tail, pathOf name = '/' :: tail :=
    (pathOf_eq name).imp' _ fun _ htail => htail
  unfold hasScheme
  rw [h, h']
  obtain ⟨front, hfront⟩ | hwhole := dropFragment_append_pathOf base
  · rw [hfront, hfront]
  · obtain ⟨tail, htail⟩ := hslash name
    obtain ⟨tail', htail'⟩ := hslash name'
    rw [hwhole, hwhole, htail, htail']
    dsimp only
    rw [List.span_eq_takeWhile_dropWhile, List.span_eq_takeWhile_dropWhile,
      takeWhile_append_slash (by decide), takeWhile_append_slash (by decide),
      dropWhile_append_slash (by decide), dropWhile_append_slash (by decide)]
    generalize base.takeWhile _ = scheme
    generalize base.dropWhile _ = behind
    cases scheme with
    | nil => rfl
    | cons c scheme =>
      cases behind with
      | nil => simp
      | cons d behind =>
        by_cases hd : d = ':'
        · simp [hd]
        · simp [hd]

end Endpoint

namespace Url

/-- The characters of a text that count. -/
def counted (text : List Char) : List Char :=
  (text.dropWhile (·.toNat ≤ 0x20)).filter (!isIgnored ·)

/-- A text is a URL or not, whichever path stands behind its authority. -/
theorem isOk_read {text text' : List Char}
    (h : (splitAuthority (dropScheme (counted text))).1 =
      (splitAuthority (dropScheme (counted text'))).1) :
    (read text).isOk = (read text').isOk := by
  unfold counted at h
  unfold read
  dsimp only
  rw [← h]
  split
  · rfl
  · split <;> rfl

theorem counted_append_slash (base tail : List Char) :
    counted (base ++ '/' :: tail) = counted base ++ '/' :: tail.filter (!isIgnored ·) := by
  rw [counted, dropWhile_append_slash (by decide), List.filter_append]
  rfl

theorem dropScheme_append_slash (base tail : List Char) :
    dropScheme (base ++ '/' :: tail) = dropScheme base ++ '/' :: tail := by
  unfold dropScheme
  rw [List.span_eq_takeWhile_dropWhile, List.span_eq_takeWhile_dropWhile,
    takeWhile_append_slash (by decide), dropWhile_append_slash (by decide)]
  generalize base.takeWhile _ = scheme
  generalize base.dropWhile _ = behind
  cases scheme with
  | nil => rfl
  | cons letter scheme =>
    cases behind with
    | nil => simp
    | cons d behind =>
      by_cases hd : d = ':'
      · subst hd
        show (if letter.isAlpha then behind ++ '/' :: tail else base ++ '/' :: tail) =
          (if letter.isAlpha then behind else base) ++ '/' :: tail
        split <;> rfl
      · simp [hd]

/-- The authority ends in front of a path, or at the second slash of it, and the rest of the path
stands at the end of what is behind it. -/
theorem exists_splitAuthority (base : List Char) :
    ∃ authority front, ∀ tail,
      splitAuthority (base ++ '/' :: 'v' :: '1' :: '/' :: tail) =
        (authority, front ++ '/' :: tail) := by
  match base with
  | [] => exact ⟨[], ['/', 'v', '1'], fun _ => rfl⟩
  | [c] =>
    by_cases hc : c = '/'
    · subst hc
      refine ⟨['v', '1'], [], fun tail => ?_⟩
      show List.span _ (['v', '1'] ++ '/' :: tail) = _
      rw [List.span_eq_takeWhile_dropWhile]
      rfl
    · exact ⟨[], [c, '/', 'v', '1'], fun tail => by simp [splitAuthority, hc]⟩
  | c :: d :: rest =>
    by_cases hcd : c = '/' ∧ d = '/'
    · obtain ⟨rfl, rfl⟩ := hcd
      refine ⟨rest.takeWhile (!endsAuthority ·),
        rest.dropWhile (!endsAuthority ·) ++ ['/', 'v', '1'], fun tail => ?_⟩
      show List.span _ (rest ++ '/' :: _) = _
      rw [List.span_eq_takeWhile_dropWhile, takeWhile_append_slash (by decide),
        dropWhile_append_slash (by decide), List.append_assoc]
      rfl
    · refine ⟨[], c :: d :: rest ++ ['/', 'v', '1'], fun tail => ?_⟩
      unfold splitAuthority
      split
      · rename_i heq
        simp only [List.cons_append, List.cons.injEq] at heq
        exact absurd ⟨heq.1, heq.2.1⟩ hcd
      · rw [List.append_assoc]
        rfl

end Url

/-! ### Where samples can be requested -/

namespace Endpoint

theorem counted_append_pathOf (base : List Char) (name : String) :
    ∃ tail, Url.counted (base ++ pathOf name) =
      Url.counted base ++ '/' :: 'v' :: '1' :: '/' :: tail := by
  obtain ⟨tail, htail⟩ := pathOf_eq name
  refine ⟨tail.filter (!Url.isIgnored ·), ?_⟩
  rw [htail, Url.counted_append_slash]
  rfl

theorem addressFault?_eq_none {url : String} :
    addressFault? url = none ↔ hasScheme url = true ∧ (Url.read url.toList).isOk = true := by
  unfold addressFault?
  cases hasScheme url with
  | false => simp
  | true => cases Url.read url.toList <;> simp [Except.isOk, Except.toBool]

/-- **Every metric or none** can be requested of an endpoint. -/
theorem addressFault?_eq_none_iff (e : Endpoint) (name name' : String) :
    addressFault? (e.request name).url = none ↔ addressFault? (e.request name').url = none := by
  obtain ⟨base, hbase⟩ := e.exists_requestedUrl
  have hread : (Url.read (e.request name).url.toList).isOk =
      (Url.read (e.request name').url.toList).isOk := by
    refine Url.isOk_read ?_
    obtain ⟨tail, htail⟩ := counted_append_pathOf base name
    obtain ⟨tail', htail'⟩ := counted_append_pathOf base name'
    obtain ⟨authority, front, hsplit⟩ :=
      Url.exists_splitAuthority (Url.dropScheme (Url.counted base))
    rw [hbase, hbase, htail, htail', Url.dropScheme_append_slash, Url.dropScheme_append_slash,
      hsplit, hsplit]
  rw [addressFault?_eq_none, addressFault?_eq_none, hasScheme_eq (hbase name) (hbase name'), hread]

end Endpoint

end MetricIntake
