import Mathlib.Data.List.Basic
import DeclGen.Pattern.Match

/-!
# DeclGen.Proofs.Pattern.Matching

What it means that an expression matches a part of a text, and that the places
which the matcher finds are those.

1. `Expr.Matches t e i j` says that `e` matches the part of `t` between two
   places.  A repetition makes its least number of rounds, and further ones up to
   its bound (`Rounds`).
2. The matcher makes no more rounds than the text has places.  That is enough: a
   longer run stays where it is in some round, which can be left out or made
   twice (`rounds_of_long`).
3. `follows_reach`: a place is reached from some places if and only if the expression
   matches between one of them and it.
-/

namespace DeclGen.Pattern

/-! ## rounds -/

/-- So many steps of a relation, one behind the other. -/
def Rounds (step : Nat → Nat → Prop) : (rounds : Nat) → Nat → Nat → Prop
  | 0, i, j => i = j
  | rounds + 1, i, j => ∃ k, step i k ∧ Rounds step rounds k j

variable {step : Nat → Nat → Prop} {size : Nat}

/-- Rounds are made in two parts. -/
theorem rounds_add {a b i j : Nat} :
    Rounds step (a + b) i j ↔ ∃ k, Rounds step a i k ∧ Rounds step b k j := by
  induction a generalizing i with
  | zero => simp [Rounds]
  | succ a ih =>
      have hcount : a + 1 + b = a + b + 1 := by omega
      simp only [hcount, Rounds, ih]
      grind

/-- No step goes back, or on behind the end of a text. -/
def Forward (size : Nat) (step : Nat → Nat → Prop) : Prop :=
  ∀ i j, i ≤ size → step i j → i ≤ j ∧ j ≤ size

theorem Forward.rounds (h : Forward size step) {n i j : Nat} (hi : i ≤ size)
    (hrounds : Rounds step n i j) : i ≤ j ∧ j ≤ size := by
  induction n generalizing i with
  | zero =>
      obtain rfl : i = j := hrounds
      exact ⟨Nat.le_refl i, hi⟩
  | succ n ih =>
      obtain ⟨k, hstep, hrest⟩ := hrounds
      have hk := h i k hi hstep
      have hj := ih hk.2 hrest
      omega

/-- In more rounds than there are places on the way, one round stays where it
is. -/
theorem Forward.exists_idle (h : Forward size step) {n i j : Nat} (hi : i ≤ size)
    (hrounds : Rounds step n i j) (hlong : j < i + n) :
    ∃ a b k, n = a + 1 + b ∧ Rounds step a i k ∧ step k k ∧ Rounds step b k j := by
  induction n generalizing i with
  | zero =>
      obtain rfl : i = j := hrounds
      omega
  | succ n ih =>
      obtain ⟨k, hstep, hrest⟩ := hrounds
      have hk := h i k hi hstep
      by_cases hidle : k = i
      · subst hidle
        exact ⟨0, n, k, by omega, rfl, hstep, hrest⟩
      · obtain ⟨a, b, l, hn, hbefore, hloop, hafter⟩ := ih hk.2 hrest (by omega)
        exact ⟨a + 1, b, l, by omega, ⟨k, hstep, hbefore⟩, hloop, hafter⟩

/-- More rounds than a text has characters may as well be any other number of
rounds that is as large as that. -/
theorem Forward.rounds_of_long (h : Forward size step) {n m i j : Nat} (hi : i ≤ size)
    (hrounds : Rounds step n i j) (hn : size < n) (hm : size ≤ m) : Rounds step m i j := by
  have hj := h.rounds hi hrounds
  have hsucc : ∀ k, size < k → Rounds step k i j →
      Rounds step (k + 1) i j ∧ Rounds step (k - 1) i j := by
    intro k hk hpath
    obtain ⟨a, b, l, hab, hbefore, hloop, hafter⟩ := h.exists_idle hi hpath (by omega)
    have htwice : Rounds step (a + (1 + 1 + b)) i j :=
      rounds_add.mpr ⟨l, hbefore, rounds_add.mpr ⟨l, ⟨l, hloop, l, hloop, rfl⟩, hafter⟩⟩
    have hnever : Rounds step (a + b) i j := rounds_add.mpr ⟨l, hbefore, hafter⟩
    have hmore : k + 1 = a + (1 + 1 + b) := by omega
    have hless : k - 1 = a + b := by omega
    rw [hmore, hless]
    exact ⟨htwice, hnever⟩
  -- first down to one round more than the text has characters, then up
  have hshort : ∀ k, Rounds step (size + 1 + k) i j → Rounds step (size + 1) i j := by
    intro k
    induction k with
    | zero => exact id
    | succ k ih =>
        intro hpath
        exact ih (hsucc (size + 1 + (k + 1)) (by omega) hpath).2
  have hlong : ∀ k, Rounds step (size + 1 + k) i j := by
    intro k
    induction k with
    | zero =>
        refine hshort (n - (size + 1)) ?_
        rwa [Nat.add_sub_cancel' (by omega : size + 1 ≤ n)]
    | succ k ih => exact (hsucc (size + 1 + k) (by omega) ih).1
  by_cases hmax : m = size
  · have hone := (hsucc (size + 1) (by omega) (hlong 0)).2
    rwa [Nat.add_sub_cancel, ← hmax] at hone
  · have hup := hlong (m - (size + 1))
    rwa [Nat.add_sub_cancel' (by omega : size + 1 ≤ m)] at hup

/-! ## places -/

/-- A round of the matcher takes places to those that a step leads to from one of
them. -/
def Follows (size : Nat) (round : List Nat → List Nat) (step : Nat → Nat → Prop) : Prop :=
  ∀ places, (∀ i ∈ places, i ≤ size) → ∀ j, j ∈ round places ↔ ∃ i ∈ places, step i j

variable {round : List Nat → List Nat} {places latest : List Nat}

/-- The places behind so many rounds. -/
theorem mem_exactly (hround : Follows size round step) (hstep : Forward size step) {n : Nat}
    (hplaces : ∀ i ∈ places, i ≤ size) {j : Nat} :
    j ∈ exactly round n places ↔ ∃ i ∈ places, Rounds step n i j := by
  induction n generalizing places with
  | zero => simp [exactly, Rounds]
  | succ n ih =>
      have hnext : ∀ i ∈ round places, i ≤ size := by
        intro i hi
        obtain ⟨k, hk, hki⟩ := (hround places hplaces i).mp hi
        exact (hstep k i (hplaces k hk) hki).2
      have hrounds : (∃ i ∈ places, Rounds step (n + 1) i j) ↔
          ∃ i ∈ round places, Rounds step n i j := by
        simp only [Rounds, hround places hplaces]
        grind
      rw [hrounds]
      by_cases hfixed : round places = places
      · -- then the places stay the same in all further rounds
        have hsame : j ∈ exactly round n places ↔ j ∈ places := by
          cases n with
          | zero => exact Iff.rfl
          | succ n => rw [exactly]; simp [hfixed]
        rw [hfixed, ← ih hplaces, hsame, exactly]
        simp [hfixed]
      · rw [← ih hnext, exactly]
        simp [hfixed]

/-- The places behind at most so many rounds, if the matcher has gone on from all
places but the latest ones. -/
theorem mem_upTo (hround : Follows size round step) (hstep : Forward size step) {n : Nat}
    (hplaces : ∀ i ∈ places, i ≤ size) (hlatest : latest ⊆ places)
    (hdone : ∀ i ∈ places, i ∉ latest → ∀ j, step i j → j ∈ places) {j : Nat} :
    j ∈ upTo round n places latest ↔ ∃ i ∈ places, ∃ k ≤ n, Rounds step k i j := by
  induction n generalizing places latest with
  | zero => simp [upTo, Rounds]
  | succ n ih =>
      have hmem : ∀ k, k ∈ round latest ↔ ∃ i ∈ latest, step i k :=
        hround latest fun i hi => hplaces i (hlatest hi)
      have hnew : ∀ k, k ∈ (round latest).filter (!places.contains ·) ↔
          (∃ i ∈ latest, step i k) ∧ k ∉ places := by
        intro k
        simp [hmem k]
      rw [upTo]
      generalize (round latest).filter (!places.contains ·) = new at hnew ⊢
      -- a step from a place leads to a place or to a new one
      have hleads : ∀ i ∈ places, ∀ k, step i k → k ∈ places ∨ k ∈ new := by
        intro i hi k hik
        by_cases hk : k ∈ places
        · exact .inl hk
        · have hilatest : i ∈ latest := by
            by_contra hnot
            exact hk (hdone i hi hnot k hik)
          exact .inr ((hnew k).mpr ⟨⟨i, hilatest, hik⟩, hk⟩)
      split
      · next hempty =>
          -- nothing is new, so no round leads anywhere else
          have hclosed : ∀ m, ∀ i ∈ places, Rounds step m i j → j ∈ places := by
            intro m
            induction m with
            | zero =>
                intro i hi hij
                obtain rfl : i = j := hij
                exact hi
            | succ m ihm =>
                intro i hi hrounds
                obtain ⟨k, hik, hkj⟩ := hrounds
                have hk : k ∈ places := by
                  simpa [List.isEmpty_iff.mp hempty] using hleads i hi k hik
                exact ihm k hk hkj
          constructor
          · intro hj
            exact ⟨j, hj, 0, Nat.zero_le _, rfl⟩
          · intro ⟨i, hi, m, _, hrounds⟩
            exact hclosed m i hi hrounds
      · have hplaces' : ∀ i ∈ places ++ new, i ≤ size := by
          intro i hi
          cases List.mem_append.mp hi with
          | inl hold => exact hplaces i hold
          | inr hi =>
              obtain ⟨⟨k, hk, hki⟩, -⟩ := (hnew i).mp hi
              exact (hstep k i (hplaces k (hlatest hk)) hki).2
        have hdone' : ∀ i ∈ places ++ new, i ∉ new → ∀ k, step i k → k ∈ places ++ new := by
          intro i hi hold k hik
          cases List.mem_append.mp hi with
          | inl hi => exact List.mem_append.mpr (hleads i hi k hik)
          | inr hi => exact absurd hi hold
        rw [ih hplaces' (List.subset_append_right _ _) hdone']
        constructor
        · intro ⟨i, hi, m, hm, hrounds⟩
          cases List.mem_append.mp hi with
          | inl hold => exact ⟨i, hold, m, by omega, hrounds⟩
          | inr hi =>
              obtain ⟨⟨k, hk, hki⟩, -⟩ := (hnew i).mp hi
              exact ⟨k, hlatest hk, m + 1, by omega, i, hki, hrounds⟩
        · -- the first round that leads out of the places brings one of the new ones
          intro ⟨i, hi, m, hm, hrounds⟩
          induction m generalizing i with
          | zero => exact ⟨i, List.mem_append_left _ hi, 0, Nat.zero_le _, hrounds⟩
          | succ m ihm =>
              obtain ⟨k, hik, hkj⟩ := hrounds
              cases hleads i hi k hik with
              | inl hk => exact ihm k hk (by omega) hkj
              | inr hk => exact ⟨k, List.mem_append_right _ hk, m, by omega, hkj⟩

/-- How many further rounds a repetition may make. -/
def MayFurther (least : Nat) (most : Option Nat) (further : Nat) : Prop :=
  ∀ bound ∈ most, further ≤ bound - least

/-- The places behind a number of rounds within the bounds of a repetition. -/
theorem mem_between (hround : Follows size round step) (hstep : Forward size step) {least : Nat}
    {most : Option Nat} (hplaces : ∀ i ∈ places, i ≤ size) {j : Nat} :
    j ∈ between size round least most places ↔
      ∃ i ∈ places, ∃ further, MayFurther least most further ∧
        Rounds step (least + further) i j := by
  let first := exactly round (min least (size + 1)) places
  have hfirst : ∀ i, i ∈ first ↔ ∃ k ∈ places, Rounds step (min least (size + 1)) k i :=
    fun i => mem_exactly hround hstep hplaces
  have hinside : ∀ i ∈ first, i ≤ size := by
    intro i hi
    obtain ⟨k, hk, hki⟩ := (hfirst i).mp hi
    exact (hstep.rounds (hplaces k hk) hki).2
  have hreach : ∀ n, j ∈ upTo round n first first ↔
      ∃ i ∈ places, ∃ m ≤ n, Rounds step (min least (size + 1) + m) i j := by
    intro n
    rw [mem_upTo hround hstep hinside (List.Subset.refl _) fun i hi hnot => absurd hi hnot]
    simp only [hfirst, rounds_add]
    grind
  have hcut : ∀ bound, (∃ i ∈ places, ∃ m ≤ min bound (size + 1),
      Rounds step (min least (size + 1) + m) i j) ↔
        ∃ i ∈ places, ∃ m ≤ bound, Rounds step (least + m) i j := by
    intro bound
    constructor
    · intro ⟨i, hi, m, hm, hrounds⟩
      by_cases hle : least ≤ size + 1
      · rw [Nat.min_eq_left hle] at hrounds
        exact ⟨i, hi, m, by omega, hrounds⟩
      · have hlong := hstep.rounds_of_long (m := least) (hplaces i hi) hrounds (by omega) (by omega)
        exact ⟨i, hi, 0, Nat.zero_le _, hlong⟩
    · intro ⟨i, hi, m, hm, hrounds⟩
      by_cases hle : least + m ≤ size
      · have hmin : min least (size + 1) = least := by omega
        exact ⟨i, hi, m, by omega, by rwa [hmin]⟩
      · by_cases hmin : m ≤ size + 1 ∧ least ≤ size + 1
        · exact ⟨i, hi, m, by omega, by rwa [Nat.min_eq_left hmin.2]⟩
        · have hlong := hstep.rounds_of_long (m := min least (size + 1) + min m (size + 1))
            (hplaces i hi) hrounds (by omega) (by omega)
          exact ⟨i, hi, min m (size + 1), by omega, hlong⟩
  cases most with
  | some bound =>
      rw [between, hreach, hcut]
      simp [MayFurther]
  | none =>
      have hany : (∃ i ∈ places, ∃ m ≤ size + 1,
          Rounds step (min least (size + 1) + m) i j) ↔
            ∃ i ∈ places, ∃ m, Rounds step (least + m) i j := by
        constructor
        · intro ⟨i, hi, m, hm, hrounds⟩
          obtain ⟨k, hk, l, -, hl⟩ := (hcut (size + 1)).mp ⟨i, hi, m, by omega, hrounds⟩
          exact ⟨k, hk, l, hl⟩
        · intro ⟨i, hi, m, hrounds⟩
          obtain ⟨k, hk, l, hl, hrest⟩ := (hcut m).mpr ⟨i, hi, m, Nat.le_refl m, hrounds⟩
          exact ⟨k, hk, l, by omega, hrest⟩
      rw [between, hreach, hany]
      simp [MayFurther]

/-! ## matches -/

/-- Characters stand in a text between two places. -/
def Spelt (t : Array Char) : List Char → Nat → Nat → Prop
  | [], i, j => i = j
  | c :: chars, i, j => t[i]? = some c ∧ Spelt t chars (i + 1) j

theorem spelt_append {t : Array Char} {u v : List Char} {i j : Nat} :
    Spelt t (u ++ v) i j ↔ ∃ k, Spelt t u i k ∧ Spelt t v k j := by
  induction u generalizing i with
  | nil => simp [Spelt]
  | cons c u ih => simp [Spelt, ih, and_assoc]

namespace Expr

mutual

/-- An expression matches a text between two places. -/
def Matches (t : Array Char) : Expr → Nat → Nat → Prop
  | empty, i, j => i = j
  | look l, i, j => i = j ∧ l.holds t i = true
  | text chars, i, j => Spelt t chars i j
  | set members, i, j => (∃ c, t[i]? = some c ∧ members.mem c.toNat = true) ∧ j = i + 1
  | capture body, i, j => Matches t body i j
  | repetition least most body, i, j =>
    ∃ further, MayFurther least most further ∧ Rounds (Matches t body) (least + further) i j
  | sequence items, i, j => MatchesAll t items i j
  | branches items, i, j => MatchesAny t items i j

/-- Several expressions match a text between two places, one behind the other. -/
def MatchesAll (t : Array Char) : List Expr → Nat → Nat → Prop
  | [], i, j => i = j
  | item :: items, i, j => ∃ k, Matches t item i k ∧ MatchesAll t items k j

/-- One of several expressions matches a text between two places. -/
def MatchesAny (t : Array Char) : List Expr → Nat → Nat → Prop
  | [], _, _ => False
  | item :: items, i, j => Matches t item i j ∨ MatchesAny t items i j

end

variable {t : Array Char}

/-- An expression matches a text from its first character to its last. -/
def MatchesWhole (e : Expr) (text : String) : Prop :=
  e.Matches text.toList.toArray 0 text.toList.length

/-! ## the matcher -/

theorem mem_advance {p : Char → Bool} {places : List Nat} {j : Nat} :
    j ∈ advance t p places ↔ ∃ i ∈ places, (∃ c, t[i]? = some c ∧ p c = true) ∧ j = i + 1 := by
  simp only [advance, List.mem_filterMap, Option.ite_none_right_eq_some, Option.any_eq_true,
    Option.some.injEq]
  grind

theorem mem_merge {places others : List Nat} {j : Nat} :
    j ∈ merge places others ↔ j ∈ places ∨ j ∈ others := by
  by_cases h : j ∈ places <;> simp [merge, h]

/-- Characters are looked for one behind the other. -/
theorem mem_foldl_advance {chars : List Char} {places : List Nat} {j : Nat} :
    j ∈ chars.foldl (fun places c => advance t (· == c) places) places ↔
      ∃ i ∈ places, Spelt t chars i j := by
  induction chars generalizing places with
  | nil => simp [Spelt]
  | cons c chars ih =>
      simp only [List.foldl_cons, ih, mem_advance, Spelt]
      grind

theorem forward_spelt {chars : List Char} : Forward t.size (Spelt t chars) := by
  induction chars with
  | nil =>
      intro i j hi h
      obtain rfl : i = j := h
      exact ⟨Nat.le_refl i, hi⟩
  | cons c chars ih =>
      intro i j hi h
      obtain ⟨hc, hrest⟩ := h
      obtain ⟨hlt, -⟩ := Array.getElem?_eq_some_iff.mp hc
      have hj := ih (i + 1) j hlt hrest
      omega

mutual

/-- An expression matches forward. -/
theorem forward_matches : ∀ e : Expr, Forward t.size (Matches t e)
  | empty => by
      intro i j hi h
      rw [Matches] at h
      omega
  | look l => by
      intro i j hi h
      rw [Matches] at h
      omega
  | text chars => by
      intro i j hi h
      rw [Matches] at h
      exact forward_spelt i j hi h
  | set members => by
      intro i j hi h
      rw [Matches] at h
      obtain ⟨⟨c, hc, -⟩, rfl⟩ := h
      obtain ⟨hlt, -⟩ := Array.getElem?_eq_some_iff.mp hc
      omega
  | capture body => by
      intro i j hi h
      rw [Matches] at h
      exact forward_matches body i j hi h
  | repetition least most body => by
      intro i j hi h
      rw [Matches] at h
      obtain ⟨further, -, hrounds⟩ := h
      exact (forward_matches body).rounds hi hrounds
  | sequence items => by
      intro i j hi h
      rw [Matches] at h
      exact forward_matchesAll items i j hi h
  | branches items => by
      intro i j hi h
      rw [Matches] at h
      exact forward_matchesAny items i j hi h

theorem forward_matchesAll : ∀ items : List Expr, Forward t.size (MatchesAll t items)
  | [] => by
      intro i j hi h
      rw [MatchesAll] at h
      omega
  | item :: items => by
      intro i j hi h
      rw [MatchesAll] at h
      obtain ⟨k, hitem, hrest⟩ := h
      have hk := forward_matches item i k hi hitem
      have hj := forward_matchesAll items k j hk.2 hrest
      omega

theorem forward_matchesAny : ∀ items : List Expr, Forward t.size (MatchesAny t items)
  | [] => by
      intro i j hi h
      rw [MatchesAny] at h
      contradiction
  | item :: items => by
      intro i j hi h
      rw [MatchesAny] at h
      cases h with
      | inl h => exact forward_matches item i j hi h
      | inr h => exact forward_matchesAny items i j hi h

end

mutual

/-- **The matcher finds what is matched.**  A place is reached from some places if
and only if the expression matches between one of them and it. -/
theorem follows_reach : ∀ e : Expr, Follows t.size (reach t e) (Matches t e)
  | empty => by
      intro places hplaces j
      simp [reach, Matches]
  | look l => by
      intro places hplaces j
      simp only [reach, Matches, List.mem_filter]
      grind
  | text chars => by
      intro places hplaces j
      rw [reach, mem_foldl_advance]
      simp only [Matches]
  | set members => by
      intro places hplaces j
      rw [reach, mem_advance]
      simp only [Matches]
  | capture body => by
      intro places hplaces j
      rw [reach, follows_reach body places hplaces]
      simp only [Matches]
  | repetition least most body => by
      intro places hplaces j
      rw [reach, mem_between (follows_reach body) (forward_matches body) hplaces]
      simp only [Matches]
  | sequence items => by
      intro places hplaces j
      rw [reach, follows_reachAll items places hplaces]
      simp only [Matches]
  | branches items => by
      intro places hplaces j
      rw [reach, follows_reachAny items places hplaces]
      simp only [Matches]

theorem follows_reachAll :
    ∀ items : List Expr, Follows t.size (reachAll t items) (MatchesAll t items)
  | [] => by
      intro places hplaces j
      simp [reachAll, MatchesAll]
  | item :: items => by
      intro places hplaces j
      have hitem := follows_reach item places hplaces
      have hinside : ∀ k ∈ reach t item places, k ≤ t.size := by
        intro k hk
        obtain ⟨i, hi, hik⟩ := (hitem k).mp hk
        exact (forward_matches item i k (hplaces i hi) hik).2
      rw [reachAll, follows_reachAll items _ hinside]
      simp only [hitem, MatchesAll]
      grind

theorem follows_reachAny :
    ∀ items : List Expr, Follows t.size (reachAny t items) (MatchesAny t items)
  | [] => by
      intro places hplaces j
      simp [reachAny, MatchesAny]
  | item :: items => by
      intro places hplaces j
      rw [reachAny, mem_merge, follows_reach item places hplaces,
        follows_reachAny items places hplaces]
      simp only [MatchesAny]
      grind

end

/-- An expression occurs in a text if and only if it matches somewhere in it. -/
theorem occursIn_iff {e : Expr} {s : List Char} :
    e.occursIn s = true ↔ ∃ i j, i ≤ s.length ∧ e.Matches s.toArray i j := by
  have hplaces : ∀ i ∈ List.range (s.length + 1), i ≤ s.toArray.size := by
    intro i hi
    have hlt := List.mem_range.mp hi
    simp only [List.size_toArray]
    omega
  have hmem := follows_reach e _ hplaces
  have hne : e.occursIn s = true ↔
      ∃ j, j ∈ e.reach s.toArray (List.range (s.length + 1)) := by
    simp [occursIn, List.eq_nil_iff_forall_not_mem]
  rw [hne]
  simp only [hmem, List.mem_range, Nat.lt_succ_iff]
  grind

/-! ## sequences in their reduced form -/

theorem matchesAll_append {as bs : List Expr} {i j : Nat} :
    MatchesAll t (as ++ bs) i j ↔ ∃ k, MatchesAll t as i k ∧ MatchesAll t bs k j := by
  induction as generalizing i with
  | nil => simp [MatchesAll]
  | cons a as ih =>
      simp only [List.cons_append, MatchesAll, ih]
      grind

/-- Opening sequences keeps what is matched. -/
theorem matchesAll_openSequences {items : List Expr} {i j : Nat} :
    MatchesAll t (openSequences items) i j ↔ MatchesAll t items i j := by
  induction items generalizing i with
  | nil => exact Iff.rfl
  | cons item items ih =>
      have hopen : openSequences (item :: items) =
          openSequences [item] ++ openSequences items := by simp [openSequences]
      have hitem : ∀ k, MatchesAll t (openSequences [item]) i k ↔ Matches t item i k := by
        intro k
        cases item <;> simp [openSequences, MatchesAll, Matches]
      rw [hopen, matchesAll_append, MatchesAll]
      simp only [hitem, ih]

/-- Joining texts keeps what is matched. -/
theorem matchesAll_joinTexts {items : List Expr} {i j : Nat} :
    MatchesAll t (joinTexts items) i j ↔ MatchesAll t items i j := by
  induction items generalizing i j with
  | nil => exact Iff.rfl
  | cons item items ih =>
      cases item with
      | empty => simp [joinTexts, MatchesAll, Matches, ih]
      | text chars =>
          rw [joinTexts, MatchesAll]
          simp only [← ih]
          split
          · next more rest heq =>
              simp only [heq, MatchesAll, Matches, spelt_append]
              grind
          · simp only [MatchesAll]
      | _ =>
          rw [joinTexts, MatchesAll, MatchesAll]
          · simp only [ih]
          all_goals simp

/-- A sequence in its reduced form matches what its parts match. -/
theorem matches_ofSequence {items : List Expr} {i j : Nat} :
    Matches t (ofSequence items) i j ↔ MatchesAll t items i j := by
  rw [← matchesAll_openSequences, ← matchesAll_joinTexts, ofSequence]
  split
  · next heq => simp [heq, MatchesAll, Matches]
  · next item heq => simp [heq, MatchesAll]
  · rw [Matches]

end Expr

end DeclGen.Pattern
