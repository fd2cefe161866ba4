import Mathlib.Data.List.Basic
import Mathlib.Data.List.Infix
import DeclGen.Pattern.Parser

/-!
# DeclGen.Proofs.Pattern.Tail

Readers that do not look behind a closing bracket which they do not read.

`Alike tail tail' s s'` says that two texts are the same up to their tails: in
front of a closing bracket in the first text, and in front of a closing bracket or
of the end in the second.  A reader is blind (`Blind`) if it gives the same on
both, as long as it leaves the whole tail of the first one.

There is one law for each way in which readers are put together: `Blind.bind`,
`Blind.space`, `Blind.cons`, and `Blind.cases` for a choice by what the text starts
with.  None of them holds where a comment reaches into the tail; such a reader
leaves less than the tail.
-/

namespace DeclGen.Pattern

open Text

variable {tail tail' s s' : List Char} {α β : Type}

/-! ## texts with different tails -/

/-- Two texts that are the same up to their tails.  The tail of the first one is a
closing bracket with something behind it; that of the second one is, too, or it is
empty. -/
structure Alike (tail tail' s s' : List Char) : Prop where
  closes : tail.head? = some ')'
  ends : ∀ c ∈ tail'.head?, c = ')'
  same : ∃ w, s = w ++ tail ∧ s' = w ++ tail'

namespace Alike

/-- Texts are alike wherever they stand in front of the tails. -/
theorem front (h : Alike tail tail' s s') (w : List Char) :
    Alike tail tail' (w ++ tail) (w ++ tail') := ⟨h.closes, h.ends, w, rfl, rfl⟩

/-- What is not in the tail is in both texts. -/
theorem of_cons {c : Char} {r : List Char} (h : Alike tail tail' (c :: r) s')
    (hlen : tail.length ≤ r.length) : ∃ r', s' = c :: r' ∧ Alike tail tail' r r' := by
  obtain ⟨w, hs, rfl⟩ := h.same
  cases w with
  | nil =>
      have hcount : (c :: r).length = tail.length := by rw [hs, List.nil_append]
      rw [List.length_cons] at hcount
      omega
  | cons d w =>
      obtain ⟨rfl, rfl⟩ := List.cons.inj hs
      exact ⟨w ++ tail', rfl, h.front w⟩

/-- A character that is no closing bracket stands in front of both tails. -/
theorem cons_iff (h : Alike tail tail' s s') {c : Char} (hc : c ≠ ')') :
    (∀ r, s = c :: r → ∃ r', s' = c :: r' ∧ Alike tail tail' r r') ∧
      ∀ r', s' = c :: r' → ∃ r, s = c :: r ∧ Alike tail tail' r r' := by
  obtain ⟨w, rfl, rfl⟩ := h.same
  have hcloses := h.closes
  have hends := h.ends
  cases w with
  | nil =>
      constructor
      · intro r hr
        rw [List.nil_append] at hr
        simp [hr, hc] at hcloses
      · intro r' hr'
        rw [List.nil_append] at hr'
        simp [hr', hc] at hends
  | cons d w =>
      constructor
      · intro r hr
        obtain ⟨rfl, rfl⟩ := List.cons.inj hr
        exact ⟨w ++ tail', rfl, h.front w⟩
      · intro r' hr'
        obtain ⟨rfl, rfl⟩ := List.cons.inj hr'
        exact ⟨w ++ tail, rfl, h.front w⟩

/-- A beginning without closing brackets stands in front of both tails. -/
theorem beginning {u : List Char} (hu : ')' ∉ u) (h : Alike tail tail' s s') :
    (∀ r, s = u ++ r → ∃ r', s' = u ++ r' ∧ Alike tail tail' r r') ∧
      ∀ r', s' = u ++ r' → ∃ r, s = u ++ r ∧ Alike tail tail' r r' := by
  induction u generalizing s s' with
  | nil =>
      constructor
      · rintro r rfl
        exact ⟨s', rfl, h⟩
      · rintro r' rfl
        exact ⟨s, rfl, h⟩
  | cons c u ih =>
      have hc : c ≠ ')' := by grind
      have hu : ')' ∉ u := by grind
      constructor
      · intro r hr
        obtain ⟨m', rfl, hm⟩ := (h.cons_iff hc).1 (u ++ r) hr
        obtain ⟨r', rfl, hr'⟩ := (ih hu hm).1 r rfl
        exact ⟨r', rfl, hr'⟩
      · intro r' hr'
        obtain ⟨m, rfl, hm⟩ := (h.cons_iff hc).2 (u ++ r') hr'
        obtain ⟨r, rfl, hr⟩ := (ih hu hm).2 r' rfl
        exact ⟨r, rfl, hr⟩

/-- Texts of which the first one is its tail. -/
theorem eq_tails (h : Alike tail tail' s s') (hlen : s.length ≤ tail.length) :
    s = tail ∧ s' = tail' := by
  obtain ⟨w, rfl, rfl⟩ := h.same
  rw [List.length_append] at hlen
  obtain rfl := List.length_eq_zero_iff.mp (by omega : w.length = 0)
  exact ⟨rfl, rfl⟩

/-- Texts that do not end here start with the same character. -/
theorem head_eq {c d : Char} {r r' : List Char} (h : Alike tail tail' (c :: r) (d :: r')) :
    c = d := by
  obtain ⟨w, hs, hs'⟩ := h.same
  cases w with
  | nil =>
      rw [List.nil_append] at hs hs'
      have hc : c = ')' := by simpa [← hs] using h.closes
      have hd : d = ')' := h.ends d (by rw [← hs']; rfl)
      rw [hc, hd]
  | cons e w => rw [(List.cons.inj hs).1, (List.cons.inj hs').1]

end Alike

/-! ## what may be skipped -/

theorem skipTrivia_suffix (inComment : Bool) (s : List Char) : skipTrivia inComment s <:+ s := by
  fun_induction skipTrivia inComment s with
  | case1 => exact List.suffix_refl _
  | case2 c r ih => exact ih.trans (List.suffix_cons c r)
  | case3 c r hblank ih => exact ih.trans (List.suffix_cons c r)
  | case4 r hblank ih => exact ih.trans (List.suffix_cons _ r)
  | case5 c r => exact List.suffix_refl _

theorem space_suffix (skip : Bool) (s : List Char) : space skip s <:+ s := by
  cases skip with
  | false => exact List.suffix_refl s
  | true => exact skipTrivia_suffix false s

theorem Alike.skipTrivia {inComment : Bool} (h : Alike tail tail' s s')
    (hlen : tail.length ≤ (skipTrivia inComment s).length) :
    Alike tail tail' (skipTrivia inComment s) (skipTrivia inComment s') := by
  obtain ⟨w, rfl, rfl⟩ := h.same
  obtain ⟨r, rfl⟩ : ∃ r, tail = ')' :: r := List.head?_eq_some_iff.mp h.closes
  induction w generalizing inComment with
  | nil =>
      cases inComment with
      | true =>
          have hskip := length_skipTrivia_le false r
          have hshort : (Pattern.skipTrivia true (')' :: r)).length ≤ r.length :=
            length_skipTrivia_le _ r
          rw [List.nil_append, List.length_cons] at hlen
          omega
      | false =>
          have hstop : ∀ u : List Char, (∀ c ∈ u.head?, c = ')') →
              Pattern.skipTrivia false u = u := by
            intro u hu
            cases u with
            | nil => rfl
            | cons c u =>
                obtain rfl := hu c rfl
                rfl
          rw [List.nil_append, List.nil_append, hstop _ (by simp), hstop _ h.ends]
          exact h.front []
  | cons c w ih =>
      cases inComment with
      | true => exact ih hlen (h.front w)
      | false =>
          simp only [List.cons_append, Pattern.skipTrivia] at hlen ⊢
          split
          · next hblank =>
              rw [if_pos hblank] at hlen
              exact ih hlen (h.front w)
          · next hblank =>
              rw [if_neg hblank] at hlen
              split
              · next hsign =>
                  rw [if_pos hsign] at hlen
                  exact ih hlen (h.front w)
              · exact h.front (c :: w)

theorem Alike.space {skip : Bool} (h : Alike tail tail' s s')
    (hlen : tail.length ≤ (space skip s).length) :
    Alike tail tail' (space skip s) (space skip s') := by
  cases skip with
  | false => exact h
  | true => exact h.skipTrivia hlen

theorem Alike.dropWhile {p : Char → Bool} (h : Alike tail tail' s s')
    (hlen : tail.length ≤ (s.dropWhile p).length) :
    s'.takeWhile p = s.takeWhile p ∧ Alike tail tail' (s.dropWhile p) (s'.dropWhile p) := by
  obtain ⟨w, rfl, rfl⟩ := h.same
  obtain ⟨r, rfl⟩ : ∃ r, tail = ')' :: r := List.head?_eq_some_iff.mp h.closes
  induction w with
  | nil =>
      have hstop : p ')' = false := by
        by_contra hp
        have hshort := (List.dropWhile_suffix (l := r) p).length_le
        rw [List.nil_append, List.dropWhile_cons, if_pos (by simpa using hp),
          List.length_cons] at hlen
        omega
      have hrun : ∀ u : List Char, (∀ c ∈ u.head?, c = ')') →
          u.takeWhile p = [] ∧ u.dropWhile p = u := by
        intro u hu
        cases u with
        | nil => exact ⟨rfl, rfl⟩
        | cons c u =>
            obtain rfl := hu c rfl
            simp [hstop]
      obtain ⟨htake, hdrop⟩ := hrun (')' :: r) (by simp)
      obtain ⟨htake', hdrop'⟩ := hrun tail' h.ends
      rw [List.nil_append, List.nil_append, htake, htake', hdrop, hdrop']
      exact ⟨rfl, h.front []⟩
  | cons c w ih =>
      by_cases hp : p c = true
      · simp only [List.cons_append, List.dropWhile_cons, List.takeWhile_cons, hp, if_true]
          at hlen ⊢
        obtain ⟨htake, hdrop⟩ := ih hlen (h.front w)
        exact ⟨by rw [htake], hdrop⟩
      · simp only [List.cons_append, List.dropWhile_cons, List.takeWhile_cons, hp]
        exact ⟨rfl, h.front (c :: w)⟩

/-! ## blind readers -/

/-- A reader that does not look behind the closing bracket at which a tail starts:
if it leaves the whole tail, it gives the same with another tail and leaves that
one.  What it leaves is an end of the text. -/
structure Blind (tail tail' : List Char) (f : Reader α) : Prop where
  leaves : ∀ {s r : List Char} {a : α}, f s = some (a, r) → r <:+ s
  alike : ∀ {s s' r : List Char} {a : α}, Alike tail tail' s s' → f s = some (a, r) →
    tail.length ≤ r.length → ∃ r', f s' = some (a, r') ∧ Alike tail tail' r r'

namespace Blind

variable {f g : Reader α}

theorem shortens (hf : Blind tail tail' f) {s r : List Char} {a : α} (h : f s = some (a, r)) :
    r.length ≤ s.length := (hf.leaves h).length_le

theorem congr (hg : Blind tail tail' g) (h : ∀ s, f s = g s) : Blind tail tail' f := by
  rwa [funext h]

theorem none : Blind tail tail' fun _ => (Option.none : Option (α × List Char)) :=
  ⟨by simp, by simp⟩

theorem pure (a : α) : Blind tail tail' fun s => some (a, s) := by
  constructor
  · intro s r b h
    obtain ⟨rfl, rfl⟩ := Prod.mk.inj (Option.some.inj h)
    exact List.suffix_refl _
  · intro s s' r b hs h hlen
    obtain ⟨rfl, rfl⟩ := Prod.mk.inj (Option.some.inj h)
    exact ⟨s', rfl, hs⟩

/-- A value that does not depend on the text. -/
theorem option {o : Option β} {k : β → Reader α} (hk : ∀ b, Blind tail tail' (k b)) :
    Blind tail tail' fun s => o.bind fun b => k b s := by
  cases o with
  | none => exact none
  | some b => exact hk b

/-- Two readers one behind the other. -/
theorem bind {k : α → Reader β} (hf : Blind tail tail' f) (hk : ∀ a, Blind tail tail' (k a)) :
    Blind tail tail' fun s => (f s).bind fun p => k p.1 p.2 := by
  constructor
  · intro s r b h
    obtain ⟨⟨a, m⟩, ha, hb⟩ := Option.bind_eq_some_iff.mp h
    exact ((hk a).leaves hb).trans (hf.leaves ha)
  · intro s s' r b hs h hlen
    obtain ⟨⟨a, m⟩, ha, hb⟩ := Option.bind_eq_some_iff.mp h
    have hm := (hk a).shortens hb
    obtain ⟨m', ha', hmm⟩ := hf.alike hs ha (Nat.le_trans hlen hm)
    obtain ⟨r', hb', hr⟩ := (hk a).alike hmm hb hlen
    refine ⟨r', ?_, hr⟩
    rw [ha']
    exact hb'

/-- What is made of the value alone. -/
theorem map {k : α → β} (hf : Blind tail tail' f) :
    Blind tail tail' fun s => (f s).map fun p => (k p.1, p.2) := by
  refine (hf.bind (k := fun a s => some (k a, s)) fun a => pure (k a)).congr fun s => ?_
  cases f s <;> rfl

/-- Blanks and comments in front. -/
theorem space (skip : Bool) (hf : Blind tail tail' f) :
    Blind tail tail' fun s => f (Pattern.space skip s) := by
  constructor
  · intro s r a h
    exact (hf.leaves h).trans (space_suffix skip s)
  · intro s s' r a hs h hlen
    exact hf.alike (hs.space (Nat.le_trans hlen (hf.shortens h))) h hlen

/-- A run of characters in front, which is taken note of. -/
theorem dropWhile {p : Char → Bool} {k : List Char → Reader α}
    (hk : ∀ u, Blind tail tail' (k u)) :
    Blind tail tail' fun s => k (s.takeWhile p) (s.dropWhile p) := by
  constructor
  · intro s r a h
    exact ((hk _).leaves h).trans (List.dropWhile_suffix p)
  · intro s s' r a hs h hlen
    obtain ⟨htake, hdrop⟩ := hs.dropWhile (Nat.le_trans hlen ((hk _).shortens h))
    obtain ⟨r', hr', hr⟩ := (hk _).alike hdrop h hlen
    exact ⟨r', by rw [htake]; exact hr', hr⟩

/-- A character in front. -/
theorem cons (hnil : f [] = Option.none) (hcons : ∀ c, Blind tail tail' fun r => f (c :: r)) :
    Blind tail tail' f := by
  constructor
  · intro s r a h
    cases s with
    | nil => simp [hnil] at h
    | cons c s => exact ((hcons c).leaves h).trans (List.suffix_cons c s)
  · intro s s' r a hs h hlen
    cases s with
    | nil => simp [hnil] at h
    | cons c s =>
        have hle := (hcons c).shortens h
        obtain ⟨m', rfl, hm⟩ := hs.of_cons (by omega)
        exact (hcons c).alike hm h hlen

/-- A choice by what is in front; no beginning that is looked for has a closing
bracket. -/
theorem cases (us : List (List Char)) (hus : ∀ u ∈ us, ')' ∉ u)
    (hf : us.Forall fun u => Blind tail tail' fun r => f (u ++ r)) (hg : Blind tail tail' g)
    (hother : ∀ s, (us.Forall fun u => ∀ r, s ≠ u ++ r) → f s = g s) : Blind tail tail' f := by
  simp only [List.forall_iff_forall_mem] at hf hother
  constructor
  · intro s r a h
    by_cases hs : ∃ u ∈ us, ∃ m, s = u ++ m
    · obtain ⟨u, hu, m, rfl⟩ := hs
      exact ((hf u hu).leaves h).trans (List.suffix_append u m)
    · refine hg.leaves (a := a) ?_
      rw [← hother s (by simpa using hs)]
      exact h
  · intro s s' r a hs h hlen
    by_cases hu : ∃ u ∈ us, ∃ m, s = u ++ m
    · obtain ⟨u, hu, m, rfl⟩ := hu
      obtain ⟨m', rfl, hm⟩ := (hs.beginning (hus u hu)).1 m rfl
      exact (hf u hu).alike hm h hlen
    · have hu' : ∀ u ∈ us, ∀ m', s' ≠ u ++ m' := by
        intro u hmem m' hm'
        obtain ⟨m, rfl, -⟩ := (hs.beginning (hus u hmem)).2 m' hm'
        exact hu ⟨u, hmem, m, rfl⟩
      rw [hother s (by simpa using hu)] at h
      rw [hother s' hu']
      exact hg.alike hs h hlen

/-- A choice by the character in front, which is no closing bracket. -/
theorem head {c : Char} (hc : c ≠ ')') (hf : Blind tail tail' fun r => f (c :: r))
    (hg : Blind tail tail' g) (hother : ∀ s, (∀ r, s ≠ c :: r) → f s = g s) :
    Blind tail tail' f :=
  cases [[c]] (by simpa using hc.symm) hf hg hother

/-- A choice that does not depend on the text. -/
theorem ite {p : Prop} [Decidable p] (hf : p → Blind tail tail' f)
    (hg : ¬ p → Blind tail tail' g) : Blind tail tail' fun s => if p then f s else g s := by
  by_cases h : p
  · exact (hf h).congr fun s => if_pos h
  · exact (hg h).congr fun s => if_neg h

/-- A choice by what both texts have. -/
theorem test {p : List Char → Bool} (hp : ∀ {s s'}, Alike tail tail' s s' → p s' = p s)
    (hf : Blind tail tail' f) (hg : Blind tail tail' g) :
    Blind tail tail' fun s => if p s then f s else g s := by
  constructor
  · intro s r a h
    by_cases hs : p s = true
    · exact hf.leaves ((if_pos hs).symm.trans h)
    · exact hg.leaves ((if_neg hs).symm.trans h)
  · intro s s' r a hs h hlen
    simp only [hp hs]
    by_cases hps : p s = true
    · simp only [hps, if_true] at h ⊢
      exact hf.alike hs h hlen
    · simp only [hps] at h ⊢
      exact hg.alike hs h hlen

end Blind

end DeclGen.Pattern
