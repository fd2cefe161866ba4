/-!
# DeclGen.Text.Blank

White space in the sense of the Unicode property White_Space, and trimming.
-/

namespace DeclGen.Text

/-- The property White_Space: the blanks that may stand between two tokens and
that trimming removes. -/
def isBlank (c : Char) : Bool :=
  let n := c.toNat
  (0x9 ≤ n && n ≤ 0xD) || n == 0x20 || n == 0x85 || n == 0xA0 || n == 0x1680 ||
    (0x2000 ≤ n && n ≤ 0x200A) || n == 0x2028 || n == 0x2029 || n == 0x202F ||
    n == 0x205F || n == 0x3000

/-- The text without its leading blanks. -/
def skipBlanks (s : List Char) : List Char := s.dropWhile isBlank

/-- The text without its leading and trailing blanks. -/
def trim (s : List Char) : List Char := (skipBlanks (skipBlanks s).reverse).reverse

/-! ## small facts -/

/-- Blanks skipped once leave none to skip. -/
theorem skipBlanks_idem (s : List Char) : skipBlanks (skipBlanks s) = skipBlanks s := by
  induction s with
  | nil => rfl
  | cons c r ih =>
      by_cases h : isBlank c = true
      · simpa [skipBlanks, h] using ih
      · simp [skipBlanks, h]

/-- What is left after skipping blanks is a tail of the text. -/
theorem skipBlanks_suffix (s : List Char) : skipBlanks s <:+ s := List.dropWhile_suffix _

/-- No blank comes first where blanks are skipped. -/
theorem isBlank_of_head_skipBlanks {s : List Char} {c : Char} (h : c ∈ (skipBlanks s).head?) :
    isBlank c = false := by
  have hstop := List.head?_dropWhile_not isBlank s
  rw [skipBlanks, Option.mem_def] at h
  rw [h] at hstop
  simpa using hstop

/-- Blanks in front of a text are skipped. -/
theorem skipBlanks_append {blanks s : List Char} (h : ∀ c ∈ blanks, isBlank c = true) :
    skipBlanks (blanks ++ s) = skipBlanks s := List.dropWhile_append_of_pos h

/-- Blanks are not skipped beyond a character that is not blank. -/
theorem skipBlanks_append_cons {c : Char} (hc : isBlank c = false) (before behind : List Char) :
    skipBlanks (before ++ c :: behind) = skipBlanks before ++ c :: behind := by
  rw [skipBlanks, List.dropWhile_append]
  cases h : before.dropWhile isBlank <;> simp [skipBlanks, h, hc]

/-- Nothing is left of a text if and only if it has nothing but blanks. -/
theorem skipBlanks_eq_nil {s : List Char} : skipBlanks s = [] ↔ ∀ c ∈ s, isBlank c = true := by
  induction s with
  | nil => simp [skipBlanks]
  | cons c r ih =>
      rw [skipBlanks, List.dropWhile_cons, List.forall_mem_cons, ← ih]
      cases h : isBlank c <;> simp [skipBlanks]

/-- A trimmed text does not end with a blank. -/
theorem isBlank_of_getLast_trim {s : List Char} {c : Char} (h : c ∈ (trim s).getLast?) :
    isBlank c = false := by
  rw [trim, List.getLast?_reverse] at h
  exact isBlank_of_head_skipBlanks h

/-- A trimmed text does not start with a blank. -/
theorem isBlank_of_head_trim {s : List Char} {c : Char} (h : c ∈ (trim s).head?) :
    isBlank c = false := by
  obtain ⟨r, hr⟩ := List.head?_eq_some_iff.mp h
  obtain ⟨k, hk⟩ : (skipBlanks (skipBlanks s).reverse).reverse <+: skipBlanks s := by
    rw [← List.reverse_suffix, List.reverse_reverse]
    exact skipBlanks_suffix _
  have hhead : c ∈ (skipBlanks s).head? := by
    rw [← hk, ← trim, hr]
    rfl
  exact isBlank_of_head_skipBlanks hhead

/-- A text with a character that is not blank is not trimmed away. -/
theorem trim_ne_nil {s : List Char} {c : Char} (hmem : c ∈ s) (hc : isBlank c = false) :
    trim s ≠ [] := by
  intro h
  obtain ⟨before, behind, rfl⟩ := List.append_of_mem hmem
  rw [trim, List.reverse_eq_nil_iff, skipBlanks_append_cons hc, skipBlanks_eq_nil] at h
  rw [h c (by simp)] at hc
  contradiction

end DeclGen.Text
