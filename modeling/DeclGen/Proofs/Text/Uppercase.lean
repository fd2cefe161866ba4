import Mathlib
import DeclGen.Text.Letter
import DeclGen.Text.Uppercase

/-!
# DeclGen.Proofs.Text.Uppercase

What upper-case forms are made of.

A character has an upper-case form (`uppercase_ne_nil`), and what is new in it
is a capital letter of ASCII or lies beyond ASCII (`mem_uppercase`).  So no
underscore and no line feed comes in by upper case.
-/

namespace DeclGen.Text

/-- The code points that upper case may bring in: the capital letters of ASCII,
and all beyond ASCII. -/
def formRanges : List (Nat × Nat) := [(0x41, 0x5A), (0x80, 0xD7FF), (0xE000, 0x10FFFF)]

/-! ## the tables -/

/-- A character lies in the ranges if its code point was taken from them. -/
theorem inRanges_ofNat {n : Nat} (h : inRanges formRanges n = true) :
    inRanges formRanges (Char.ofNat n).toNat = true := by
  have hvalid : n.isValidChar := by
    simp only [inRanges, formRanges, List.any_cons, List.any_nil, Bool.or_false, Bool.or_eq_true,
      Bool.and_eq_true, decide_eq_true_eq] at h
    rw [Nat.isValidChar]
    omega
  rwa [Char.toNat_ofNat, if_pos hvalid]

/-- Both ends of a run of forms lie in one range. -/
theorem uppercaseRuns_within : ∀ run ∈ uppercaseRuns, ∃ range ∈ formRanges,
    (range.1 : Int) ≤ run.first + run.distance ∧ run.last + run.distance ≤ range.2 := by
  decide +kernel

/-- The longer forms are not empty and lie in the ranges. -/
theorem uppercaseSequences_within : ∀ entry ∈ uppercaseSequences,
    entry.2 ≠ [] ∧ ∀ n ∈ entry.2, inRanges formRanges n = true := by
  decide +kernel

/-- A form in a run lies in the ranges. -/
theorem inRanges_of_holds {run : UppercaseRun} (hrun : run ∈ uppercaseRuns) {n : Nat}
    (h : run.holds n = true) : inRanges formRanges (n + run.distance).toNat = true := by
  obtain ⟨range, hrange, hfirst, hlast⟩ := uppercaseRuns_within run hrun
  simp only [UppercaseRun.holds, Bool.and_eq_true, decide_eq_true_eq] at h
  obtain ⟨⟨hle, hge⟩, -⟩ := h
  rw [inRanges, List.any_eq_true]
  refine ⟨range, hrange, ?_⟩
  rw [Bool.and_eq_true, decide_eq_true_eq, decide_eq_true_eq]
  omega

/-- The upper-case form of an ASCII character is the character or in the ranges. -/
theorem toUpper_cases {c : Char} (hc : c.toNat < 0x80) :
    c.toUpper = c ∨ inRanges formRanges c.toUpper.toNat = true := by
  have hall : ∀ n < 0x80, (Char.ofNat n).toUpper = Char.ofNat n ∨
      inRanges formRanges (Char.ofNat n).toUpper.toNat = true := by decide +kernel
  simpa using hall c.toNat hc

/-! ## upper-case forms -/

/-- The upper-case form of an ASCII character is one character. -/
theorem uppercase_of_ascii {c : Char} (hc : c.toNat < 0x80) : uppercase c = [c.toUpper] :=
  if_pos hc

/-- The upper-case form is one character, or stands in the table of longer ones. -/
theorem uppercase_cases (c : Char) :
    (∃ d, uppercase c = [d] ∧ (d = c ∨ inRanges formRanges d.toNat = true)) ∨
      ∃ entry ∈ uppercaseSequences, uppercase c = entry.2.map Char.ofNat := by
  by_cases hc : c.toNat < 0x80
  · exact .inl ⟨c.toUpper, uppercase_of_ascii hc, toUpper_cases hc⟩
  · rw [uppercase, if_neg hc]
    cases hlookup : uppercaseSequences.lookup c.toNat with
    | some image =>
        obtain ⟨before, behind, hsplit, -⟩ := List.lookup_eq_some_iff.mp hlookup
        exact .inr ⟨(c.toNat, image), by simp [hsplit], rfl⟩
    | none =>
        left
        cases hfind : uppercaseRuns.find? (·.holds c.toNat) with
        | some run =>
            have hholds := List.find?_some hfind
            have hform := inRanges_of_holds (List.mem_of_find?_eq_some hfind) hholds
            exact ⟨_, rfl, .inr (inRanges_ofNat hform)⟩
        | none => exact ⟨c, rfl, .inl rfl⟩

/-- Every character has an upper-case form. -/
theorem uppercase_ne_nil (c : Char) : uppercase c ≠ [] := by
  rcases uppercase_cases c with ⟨d, hd, -⟩ | ⟨entry, hentry, hc⟩
  · rw [hd]
    exact List.cons_ne_nil d []
  · rw [hc, Ne, List.map_eq_nil_iff]
    exact (uppercaseSequences_within entry hentry).1

/-- What is in an upper-case form is the character or in the ranges. -/
theorem mem_uppercase {c d : Char} (h : d ∈ uppercase c) :
    d = c ∨ inRanges formRanges d.toNat = true := by
  rcases uppercase_cases c with ⟨e, he, hcases⟩ | ⟨entry, hentry, hc⟩
  · rw [he, List.mem_singleton] at h
    rwa [h]
  · rw [hc] at h
    obtain ⟨n, hn, rfl⟩ := List.mem_map.mp h
    exact .inr (inRanges_ofNat ((uppercaseSequences_within entry hentry).2 n hn))

/-- Upper case brings in no character outside the ranges. -/
theorem not_mem_uppercase {c d : Char} (hd : inRanges formRanges d.toNat = false) (h : c ≠ d) :
    d ∉ uppercase c := by
  intro hmem
  rcases mem_uppercase hmem with heq | hin
  · exact h heq.symm
  · rw [hd] at hin
    contradiction

end DeclGen.Text
