import MetricIntake.Proofs.JsonText
import MetricIntake.Proofs.Utf8
import MetricIntake.Cache
import Mathlib.Data.List.TakeDrop
import Mathlib.Data.List.TakeWhile

/-!
# Samples that are kept

A sample without halves of characters is read back from the bytes that are kept of it:
`Sample.ofBytes_dumpBytes`.  So a cache finds what it keeps.
-/

namespace MetricIntake

/-- A text without halves of characters is one of characters. -/
theorem CodeText.eq_ofChars_of_halves? {s : CodeText} (h : s.halves? = none) :
    ∃ cs, s = CodeText.ofChars cs := by
  unfold halves? at h
  rw [List.span_eq_takeWhile_dropWhile] at h
  have hrest : s.dropWhile (!·.isHalf) = [] := by
    cases hd : s.dropWhile (!·.isHalf) with
    | nil => rfl
    | cons p rest =>
      -- what stops the search is a half
      have hp := List.head_dropWhile_not (!CodePoint.isHalf ·) (l := s)
        (by rw [hd]; exact List.cons_ne_nil _ _)
      simp only [hd, List.head_cons] at hp
      rw [hd] at h
      cases p with
      | char c => simp [CodePoint.isHalf] at hp
      | half offset => simp at h
  have hall : ∀ p ∈ s, CodePoint.isHalf p = false := by
    simp only [List.dropWhile_eq_nil_iff] at hrest
    simpa using hrest
  exact ⟨s.filterMap CodePoint.char?, (CodeText.ofChars_filterMap_char? hall).symm⟩

namespace Sample

/-- The parts of a sample that can be kept are texts of characters. -/
theorem exists_chars_of_halves? {sample : Sample} (h : sample.halves? = none) :
    ∃ name value updatedAt, sample =
      ⟨CodeText.ofChars name, CodeText.ofChars value, CodeText.ofChars updatedAt⟩ := by
  obtain ⟨name, value, updatedAt⟩ := sample
  simp only [halves?, List.findSome?_eq_none_iff, List.mem_cons, List.not_mem_nil, or_false,
    forall_eq_or_imp, forall_eq] at h
  obtain ⟨hname, hvalue, htime⟩ := h
  obtain ⟨cs, rfl⟩ := CodeText.eq_ofChars_of_halves? hname
  obtain ⟨ds, rfl⟩ := CodeText.eq_ofChars_of_halves? hvalue
  obtain ⟨es, rfl⟩ := CodeText.eq_ofChars_of_halves? htime
  exact ⟨cs, ds, es, rfl⟩

/-- The bytes of a sample start with a brace, a quote and two letters, so they are UTF-8. -/
theorem detect_dumpBytes (sample : Sample) : Encoding.detect sample.dumpBytes = .utf8 false := by
  rfl

/-- **A sample is read back from the bytes that are kept of it.** -/
theorem ofBytes_dumpBytes {sample : Sample} (h : sample.halves? = none) (depth : Json.Depth) :
    Sample.ofBytes depth sample.dumpBytes = .ok (some sample) := by
  obtain ⟨name, value, updatedAt, rfl⟩ := exists_chars_of_halves? h
  let members : List (List Char × List Char) :=
    [("name".toList, name), ("value".toList, value), ("updated_at".toList, updatedAt)]
  generalize hsample : (Sample.mk (CodeText.ofChars name) (CodeText.ofChars value)
    (CodeText.ofChars updatedAt)) = sample
  have hjson : sample.toJson = .object (Json.textMembers members) := by
    rw [← hsample]
    rfl
  have hbytes : Json.readBytes depth sample.dumpBytes =
      some (.ok (.object (Named.ofPairs (Json.textMembers members)))) := by
    rw [Json.readBytes, detect_dumpBytes]
    show (Utf8.decodeHalves? sample.dumpBytes).map (Json.read depth) = _
    rw [dumpBytes, Utf8.decodeHalves?_encode, dumpText, hjson, Option.map_some,
      Json.read_render_texts]
  have hmembers : Named.ofPairs (Json.textMembers members) = Json.textMembers members := by
    rw [Named.ofPairs_eq]
    rfl
  have hsampleOf : Sample.ofMembers (Json.textMembers members) = .ok sample := by
    rw [← hsample]
    rfl
  rw [ofBytes, hbytes, hmembers]
  simp only [hsampleOf]
  rfl

end Sample

end MetricIntake
