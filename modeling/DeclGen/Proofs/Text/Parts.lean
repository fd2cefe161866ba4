import Mathlib.Data.List.Infix
import DeclGen.Text.Segments

/-!
# DeclGen.Proofs.Text.Parts

Texts made of parts with the same text between each two of them.

* `intercalate_flatten`: parts that are made of parts are joined all at once.
* `segments_eq_filter_splitOnP`: the segments of a text are the parts between
  separating characters that are not empty.
* `segments_intercalate`: segments are found again in the text that joins them
  with a separating character.
* `exists_intercalate_eq`: every text is made of parts in which a pattern does not
  occur, with the pattern between each two.
* `replaceAll_intercalate`: replacing the pattern keeps these parts and puts the new
  text between each two, if the pattern cannot occur across their ends
  (`Apart`).  So the new text is not searched.
-/

namespace DeclGen.Text

/-! ## joining -/

/-- Two lists of parts are joined with a separator between them, if there is
something in both. -/
theorem intercalate_append {sep : List Char} {ss ts : List (List Char)} (hs : ss ≠ [])
    (ht : ts ≠ []) :
    sep.intercalate (ss ++ ts) = sep.intercalate ss ++ sep ++ sep.intercalate ts := by
  induction ss with
  | nil => contradiction
  | cons s ss ih =>
      cases ss with
      | nil =>
          rw [List.singleton_append, List.intercalate_cons_of_ne_nil ht,
            List.intercalate_singleton]
      | cons s' ss =>
          have hrest := ih (List.cons_ne_nil s' ss)
          rw [List.cons_append] at hrest
          rw [List.cons_append, List.cons_append, List.intercalate_cons_cons, hrest,
            List.intercalate_cons_cons]
          simp only [List.append_assoc]

/-- Parts that are made of parts themselves are joined all at once. -/
theorem intercalate_flatten {sep : List Char} {ls : List (List (List Char))}
    (h : ∀ l ∈ ls, l ≠ []) :
    sep.intercalate ls.flatten = sep.intercalate (ls.map sep.intercalate) := by
  induction ls with
  | nil => rfl
  | cons l ls ih =>
      obtain ⟨hl, hls⟩ := List.forall_mem_cons.mp h
      cases ls with
      | nil => simp
      | cons k ls =>
          have hk : (k :: ls).flatten ≠ [] := by simp [hls k List.mem_cons_self]
          have hmap : (k :: ls).map sep.intercalate ≠ [] := by simp
          rw [List.flatten_cons, intercalate_append hl hk, ih hls]
          exact (List.intercalate_cons_of_ne_nil hmap).symm

/-- A text of characters of a class, and of one at least. -/
def IsRun (p : Char → Bool) (s : List Char) : Prop := s ≠ [] ∧ ∀ c ∈ s, p c = true

instance (p : Char → Bool) (s : List Char) : Decidable (IsRun p s) :=
  decidable_of_iff ((!s.isEmpty && s.all p) = true) (by simp [IsRun])

/-- Runs with characters of the class between them are a run. -/
theorem isRun_intercalate {p : Char → Bool} {sep : List Char} {parts : List (List Char)}
    (hne : parts ≠ []) (hsep : ∀ c ∈ sep, p c = true) (h : ∀ part ∈ parts, IsRun p part) :
    IsRun p (sep.intercalate parts) := by
  induction parts with
  | nil => contradiction
  | cons part parts ih =>
      obtain ⟨⟨hpart, hchars⟩, htail⟩ := List.forall_mem_cons.mp h
      cases parts with
      | nil =>
          rw [List.intercalate_singleton]
          exact ⟨hpart, hchars⟩
      | cons next parts =>
          obtain ⟨-, hrest⟩ := ih (List.cons_ne_nil next parts) htail
          rw [List.intercalate_cons_cons]
          refine ⟨by simp [hpart], fun c hc => ?_⟩
          rw [List.mem_append, List.mem_append] at hc
          rcases hc with (hc | hc) | hc
          · exact hchars c hc
          · exact hsep c hc
          · exact hrest c hc

/-! ## segments -/

/-- The segments of a text are what stands between the separating characters,
where there is something. -/
theorem segments_eq_filter_splitOnP (p : Char → Bool) (s : List Char) :
    segments p s = (s.splitOnP p).filter (· ≠ []) := by
  induction s with
  | nil => simp [segments]
  | cons c r ih =>
      rw [List.splitOnP_cons_eq_if_modifyHead]
      by_cases hc : p c = true
      · simpa [segments, hc] using ih
      · cases r with
        | nil => simp [segments, hc]
        | cons d r =>
            rw [segments, ih, List.splitOnP_cons_eq_if_modifyHead]
            by_cases hd : p d = true
            · simp [hc, hd]
            · obtain ⟨head, rest, hsplit⟩ := List.exists_cons_of_ne_nil (List.splitOnP_ne_nil p r)
              simp [hc, hd, hsplit]

/-- A separating character parts the segments before it from those behind it. -/
theorem segments_append_cons {p : Char → Bool} {sep : Char} (hsep : p sep = true)
    (s t : List Char) : segments p (s ++ sep :: t) = segments p s ++ segments p t := by
  simp only [segments_eq_filter_splitOnP, List.splitOnP_append_cons s t hsep, List.filter_append]

/-- A text without separating characters is its only segment. -/
theorem segments_eq_singleton {p : Char → Bool} {s : List Char} (hne : s ≠ [])
    (h : ∀ c ∈ s, p c = false) : segments p s = [s] := by
  simp [segments_eq_filter_splitOnP, List.splitOnP_eq_singleton h, hne]

/-- Nothing separates within what stands between two separating characters. -/
theorem not_separates_of_mem_splitOnP {p : Char → Bool} {s part : List Char}
    (h : part ∈ s.splitOnP p) : ∀ c ∈ part, p c = false := by
  induction s generalizing part with
  | nil =>
      obtain rfl : part = [] := by simpa using h
      simp
  | cons c r ih =>
      rw [List.splitOnP_cons_eq_if_modifyHead] at h
      split at h
      · next hc =>
          rcases List.mem_cons.mp h with rfl | h
          · simp
          · exact ih h
      · next hc =>
          -- The character goes to the front of the first part, which has none that separates.
          obtain ⟨head, rest, hsplit⟩ := List.exists_cons_of_ne_nil (List.splitOnP_ne_nil p r)
          rw [hsplit, List.modifyHead_cons] at h
          rw [hsplit] at ih
          rcases List.mem_cons.mp h with rfl | h
          · exact List.forall_mem_cons.mpr ⟨Bool.eq_false_iff.mpr hc, ih List.mem_cons_self⟩
          · exact ih (List.mem_cons_of_mem head h)

/-- Segments have characters, and none of these separates. -/
theorem mem_segments {p : Char → Bool} {s segment : List Char} (h : segment ∈ segments p s) :
    segment ≠ [] ∧ ∀ c ∈ segment, p c = false := by
  rw [segments_eq_filter_splitOnP] at h
  obtain ⟨hmem, hne⟩ := List.mem_filter.mp h
  exact ⟨by simpa using hne, not_separates_of_mem_splitOnP hmem⟩

/-- Segments are found again in the text that joins them. -/
theorem segments_intercalate {p : Char → Bool} {sep : Char} (hsep : p sep = true)
    {parts : List (List Char)} (h : ∀ part ∈ parts, part ≠ [] ∧ ∀ c ∈ part, p c = false) :
    segments p ([sep].intercalate parts) = parts := by
  induction parts with
  | nil => rfl
  | cons part parts ih =>
      obtain ⟨⟨hne, hpart⟩, hparts⟩ := List.forall_mem_cons.mp h
      cases parts with
      | nil => rw [List.intercalate_singleton, segments_eq_singleton hne hpart]
      | cons next parts =>
          rw [List.intercalate_cons_cons, List.append_assoc, List.singleton_append,
            segments_append_cons hsep, segments_eq_singleton hne hpart, ih hparts,
            List.singleton_append]

/-! ## one step of a replacement -/

variable {pattern new : List Char}

/-- The characters that are still to be dropped are dropped at once. -/
theorem replaceFrom_eq (skip : Nat) (s : List Char) :
    replaceFrom pattern new skip s = replaceAll pattern new (s.drop skip) := by
  induction s generalizing skip with
  | nil => cases skip <;> simp [replaceAll, replaceFrom]
  | cons c r ih =>
      cases skip with
      | zero => rfl
      | succ skip => rw [replaceFrom, ih, List.drop_succ_cons]

/-- A character is kept if the pattern does not start there. -/
theorem replaceAll_cons {c : Char} {r : List Char} (h : ¬ pattern <+: c :: r) :
    replaceAll pattern new (c :: r) = c :: replaceAll pattern new r := by
  rw [replaceAll, replaceFrom, if_neg (by rwa [List.isPrefixOf_iff_prefix]), replaceAll]

/-- An occurrence of the pattern is replaced. -/
theorem replaceAll_append (h : pattern ≠ []) (r : List Char) :
    replaceAll pattern new (pattern ++ r) = new ++ replaceAll pattern new r := by
  obtain ⟨c, rest, rfl⟩ := List.exists_cons_of_ne_nil h
  have hprefix : (c :: rest).isPrefixOf (c :: (rest ++ r)) = true :=
    List.isPrefixOf_iff_prefix.mpr (List.prefix_append (c :: rest) r)
  rw [List.cons_append, replaceAll, replaceFrom, if_pos hprefix, replaceFrom_eq]
  simp

/-! ## parts -/

/-- In a part with the pattern behind it, the pattern stands at the end only. -/
def Apart (pattern part : List Char) : Prop :=
  ∀ v, v <:+ part → v ≠ [] → ¬ pattern <+: v ++ pattern

/-- The pattern does not start in a part, whatever follows the pattern behind it. -/
theorem Apart.not_prefix {part v : List Char} (h : Apart pattern part) (hv : v <:+ part)
    (hne : v ≠ []) (r : List Char) : ¬ pattern <+: v ++ (pattern ++ r) := by
  intro hp
  refine h v hv hne ?_
  rw [← List.append_assoc] at hp
  exact List.prefix_of_prefix_length_le hp (List.prefix_append _ r) (by simp)

/-- What does not contain the first character of the pattern is apart from it. -/
theorem apart_of_not_mem {c : Char} {rest part : List Char} (h : c ∉ part) :
    Apart (c :: rest) part := by
  intro v hv hne hp
  obtain ⟨d, v, rfl⟩ := List.exists_cons_of_ne_nil hne
  obtain ⟨rfl, -⟩ := List.cons_prefix_cons.mp hp
  exact h (hv.subset List.mem_cons_self)

/-- A pattern whose first character does not occur in it again cannot occur
across the end of a part. -/
theorem apart_of_not_infix {c : Char} {rest part : List Char} (hc : c ∉ rest)
    (h : ¬ c :: rest <:+: part) : Apart (c :: rest) part := by
  intro v hv hne hp
  rcases Nat.lt_or_ge v.length (c :: rest).length with hshort | hlong
  · -- `v` is the front of the pattern, which starts again behind it
    obtain ⟨w, hw⟩ : v <+: c :: rest :=
      List.prefix_of_prefix_length_le (List.prefix_append v _) hp hshort.le
    obtain ⟨e, w, rfl⟩ : ∃ e u, w = e :: u := by
      refine List.exists_cons_of_ne_nil fun hnil => ?_
      rw [hnil, List.append_nil] at hw
      exact Nat.lt_irrefl _ (hw ▸ hshort)
    rw [← hw, List.prefix_append_right_inj, hw] at hp
    obtain ⟨rfl, -⟩ := List.cons_prefix_cons.mp hp
    obtain ⟨d, v, rfl⟩ := List.exists_cons_of_ne_nil hne
    have hrest : v ++ e :: w = rest := (List.cons.inj hw).2
    exact hc (by rw [← hrest]; simp)
  · have hin : c :: rest <+: v :=
      List.prefix_of_prefix_length_le hp (List.prefix_append v _) hlong
    exact h (hin.isInfix.trans hv.isInfix)

/-- A part is kept, and the pattern behind it is replaced. -/
theorem Apart.replaceAll_append {part : List Char} (h : Apart pattern part) (hne : pattern ≠ [])
    (r : List Char) : replaceAll pattern new (part ++ (pattern ++ r)) =
      part ++ (new ++ replaceAll pattern new r) := by
  induction part with
  | nil => exact Text.replaceAll_append hne r
  | cons c part ih =>
      have hstart : ¬ pattern <+: c :: (part ++ (pattern ++ r)) :=
        h.not_prefix List.suffix_rfl (List.cons_ne_nil c part) r
      rw [List.cons_append, replaceAll_cons hstart,
        ih fun v hv => h v (hv.trans (List.suffix_cons c part)), List.cons_append]

/-- A part by itself is kept. -/
theorem Apart.replaceAll_eq {part : List Char} (h : Apart pattern part) :
    replaceAll pattern new part = part := by
  induction part with
  | nil => rfl
  | cons c part ih =>
      have hstart : ¬ pattern <+: c :: part := fun hp =>
        h _ List.suffix_rfl (List.cons_ne_nil c part) (hp.trans (List.prefix_append _ pattern))
      rw [replaceAll_cons hstart, ih fun v hv => h v (hv.trans (List.suffix_cons c part))]

/-- The pattern between parts is replaced, and the parts are kept. -/
theorem replaceAll_intercalate (hne : pattern ≠ []) {parts : List (List Char)}
    (h : ∀ part ∈ parts, Apart pattern part) :
    replaceAll pattern new (pattern.intercalate parts) = new.intercalate parts := by
  induction parts with
  | nil => rfl
  | cons part parts ih =>
      obtain ⟨hpart, hparts⟩ := List.forall_mem_cons.mp h
      cases parts with
      | nil => simpa using hpart.replaceAll_eq
      | cons next parts =>
          rw [List.intercalate_cons_cons, List.intercalate_cons_cons, List.append_assoc,
            List.append_assoc, hpart.replaceAll_append hne, ih hparts]

/-- Every text is made of parts without the pattern. -/
theorem exists_intercalate_eq (hne : pattern ≠ []) (s : List Char) :
    ∃ parts, s = pattern.intercalate parts ∧ ∀ part ∈ parts, ¬ pattern <:+: part := by
  induction hlen : s.length using Nat.strong_induction_on generalizing s with
  | _ n ih =>
    by_cases hp : pattern <+: s
    · -- an empty part stands in front of the pattern
      obtain ⟨r, rfl⟩ := hp
      have hshort : r.length < n := by
        have := List.length_pos_iff.mpr hne
        rw [List.length_append] at hlen
        omega
      obtain ⟨parts, hr, hparts⟩ := ih _ hshort r rfl
      have hempty : ¬ pattern <:+: [] := by simpa using hne
      cases parts with
      | nil => exact ⟨[[], []], by simp [hr], by simpa using hempty⟩
      | cons part parts =>
          refine ⟨[] :: part :: parts, by simp [hr], ?_⟩
          exact List.forall_mem_cons.mpr ⟨hempty, hparts⟩
    · -- a character is put in front of the first part
      cases s with
      | nil => exact ⟨[], rfl, by simp⟩
      | cons c r =>
          have hshort : r.length < n := by
            rw [List.length_cons] at hlen
            omega
          obtain ⟨parts, hr, hparts⟩ := ih _ hshort r rfl
          cases parts with
          | nil =>
              refine ⟨[[c]], by simp [hr], ?_⟩
              rw [List.forall_mem_singleton, List.infix_cons_iff]
              rintro (hin | hin)
              · exact hp (hin.trans (by simp))
              · exact hne (List.infix_nil.mp hin)
          | cons part parts =>
              obtain ⟨hpart, hparts⟩ := List.forall_mem_cons.mp hparts
              have hsplit : c :: r = pattern.intercalate ((c :: part) :: parts) := by
                cases parts <;> simp [hr]
              refine ⟨(c :: part) :: parts, hsplit, List.forall_mem_cons.mpr ⟨?_, hparts⟩⟩
              rw [List.infix_cons_iff]
              rintro (hin | hin)
              · refine hp (hin.trans ?_)
                rw [hsplit]
                cases parts <;> simp
              · exact hpart hin

end DeclGen.Text
