import ControlPlaneKit.Topology.Material

/-!
# HexDigests — the texts that hold a digest

A digest is sixty-four hexadecimal characters, which every grammar of identities
takes: a text that ends in one is well formed where what stands before it is.
-/

namespace ControlPlaneKit.Topology

open ControlPlaneKit.Library.Sha256 (isHexDigit)
open ControlPlaneKit.Library.Text

theorem sha256Hexdigest_chars (text : String) :
    (sha256Hexdigest text).toList.length = 64 ∧
      ∀ c ∈ (sha256Hexdigest text).toList, isHexDigit c = true := by
  rw [sha256Hexdigest, String.toList_ofList]
  exact ⟨Library.Sha256.hexdigestChars_length _,
    fun c hc => Library.Sha256.isHexDigit_of_mem_hexdigest hc⟩

theorem isIdentityTail_of_hexDigit {c : Char} (h : isHexDigit c = true) :
    isIdentityTail c = true := by
  simp only [isHexDigit, Bool.or_eq_true, Bool.and_eq_true, decide_eq_true_eq] at h
  simp only [isIdentityTail, isAsciiAlnum, Bool.or_eq_true, Bool.and_eq_true,
    decide_eq_true_eq]
  omega

theorem isReferenceTail_of_hexDigit {c : Char} (h : isHexDigit c = true) :
    isReferenceTail c = true := by
  simp only [isHexDigit, Bool.or_eq_true, Bool.and_eq_true, decide_eq_true_eq] at h
  simp only [isReferenceTail, isAsciiLower, Bool.or_eq_true, Bool.and_eq_true,
    decide_eq_true_eq]
  omega

/-- A digest under a tag is a canonical identity. -/
theorem isCanonicalIdentity_tagged {tag : String}
    (htag : isCanonicalIdentity tag = true) (hlength : tag.length ≤ 136)
    (text : String) : isCanonicalIdentity (tag ++ sha256Hexdigest text) = true := by
  obtain ⟨hdigest, hdigits⟩ := sha256Hexdigest_chars text
  rw [isCanonicalIdentity] at htag ⊢
  rw [String.toList_append]
  refine isIdentityChars_append htag
    (List.all_eq_true.mpr fun c hc => isIdentityTail_of_hexDigit (hdigits c hc)) ?_
  rw [hdigest, String.length_toList]
  omega

/-- A digest under a tag is a reference. -/
theorem isReference_tagged {tag : String} (htag : isReference tag = true)
    (hlength : tag.length ≤ 64) (text : String) :
    isReference (tag ++ sha256Hexdigest text) = true := by
  obtain ⟨hdigest, hdigits⟩ := sha256Hexdigest_chars text
  rw [← String.length_toList] at hlength
  rw [isReference] at htag ⊢
  rw [String.toList_append]
  cases hchars : tag.toList with
  | nil => simp [hchars] at htag
  | cons c cs =>
      simp only [hchars, Bool.and_eq_true, decide_eq_true_eq] at htag
      rw [hchars, List.length_cons] at hlength
      simp only [List.cons_append, List.all_append, List.length_append, hdigest,
        htag.1.1, htag.1.2, List.all_eq_true.mpr fun c hc => isReferenceTail_of_hexDigit
        (hdigits c hc), Bool.and_true, Bool.true_and, decide_eq_true_eq]
      omega

end ControlPlaneKit.Topology
