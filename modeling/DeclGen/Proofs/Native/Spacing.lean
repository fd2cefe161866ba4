import DeclGen.Proofs.Native.Sound

/-!
# DeclGen.Proofs.Native.Spacing

Blanks between two tokens never matter, not even in a text that is no type:
with blanks put in, it is parsed to the same type, or fails for the same cause.

`Spaced before s s'` says that `s'` is `s` with blanks put in, nowhere within a
word, a numeral or a `::`.  The two texts are read side by side: `Agree` relates
what a reader gives on both, and each reader has a lemma that takes texts alike
but for blanks (`Respaced`) to answers that agree.

* `Respaced.token?_singleton`, `Respaced.token?_scope`, `Respaced.identifier?_cases`
  and `Respaced.run` are about single tokens;
* `Steady` is what is needed of the item reader.  The loops over items run on
  the lengths of two different texts, so it includes that no rest is longer than
  the text;
* `readType_steady` goes by induction on the levels of nesting.
-/

namespace DeclGen.Native

open Text

/-! ## blanks put in -/

/-- Two characters that no blank may part: both belong to a word or numeral, or
they make up a `::`. -/
def Joined (c d : Char) : Prop :=
  (isIdentifierChar c = true ∧ isIdentifierChar d = true) ∨ (c = ':' ∧ d = ':')

instance (c d : Char) : Decidable (Joined c d) := inferInstanceAs (Decidable (_ ∨ _))

/-- A text, and the same text with blanks put in wherever they part no two
characters that are joined; `before` is the character in front of the text. -/
inductive Spaced : Option Char → List Char → List Char → Prop where
  | nil {before : Option Char} : Spaced before [] []
  | keep {before : Option Char} {c : Char} {s s' : List Char} :
    Spaced (some c) s s' → Spaced before (c :: s) (c :: s')
  | insert {before : Option Char} {b : Char} {s s' : List Char} : isBlank b = true →
    (∀ c ∈ before, ∀ d ∈ s.head?, ¬ Joined c d) → Spaced before s s' → Spaced before s (b :: s')

/-- A blank put in between two characters. -/
theorem Spaced.between {b c d : Char} {s s' : List Char} (hb : isBlank b = true)
    (hjoined : ¬ Joined c d) (h : Spaced (some c) (d :: s) s') :
    Spaced (some c) (d :: s) (b :: s') := by
  refine .insert hb ?_ h
  rintro _ ⟨⟩ _ ⟨⟩
  exact hjoined

/-- Two texts alike but for blanks. -/
def Respaced (s s' : List Char) : Prop := ∃ before, Spaced before s s'

/-- Behind their blanks both texts end, or both go on with the same character. -/
theorem Respaced.skip {s s' : List Char} (h : Respaced s s') :
    skipBlanks s = [] ∧ skipBlanks s' = [] ∨
      ∃ c r r', skipBlanks s = c :: r ∧ skipBlanks s' = c :: r' ∧ Spaced (some c) r r' := by
  obtain ⟨before, h⟩ := h
  induction h with
  | nil => exact .inl ⟨rfl, rfl⟩
  | @keep before c s s' hs ih =>
      by_cases hc : isBlank c = true
      · simpa [skipBlanks, hc] using ih
      · exact .inr ⟨c, s, s', by simp [skipBlanks, hc], by simp [skipBlanks, hc], hs⟩
  | insert hb _ _ ih => simpa [skipBlanks, hb] using ih

theorem Respaced.skipBlanks {s s' : List Char} (h : Respaced s s') :
    Respaced (skipBlanks s) (skipBlanks s') := by
  rcases h.skip with ⟨hs, hs'⟩ | ⟨c, r, r', hs, hs', hr⟩
  · rw [hs, hs']
    exact ⟨none, .nil⟩
  · rw [hs, hs']
    exact ⟨none, .keep hr⟩

/-! ## tokens side by side -/

/-- A run of characters within a word goes on as far in both texts. -/
theorem Spaced.run {p : Char → Bool} (hp : ∀ c, p c = true → isIdentifierChar c = true) {c : Char}
    {s s' : List Char} (h : Spaced (some c) s s') (hc : p c = true) :
    s.takeWhile p = s'.takeWhile p ∧ Respaced (s.dropWhile p) (s'.dropWhile p) := by
  generalize hbefore : some c = before at h
  induction h generalizing c with
  | nil => exact ⟨rfl, none, .nil⟩
  | @keep before d s s' hs ih =>
      by_cases hd : p d = true
      · obtain ⟨htake, hdrop⟩ := ih hd rfl
        simpa [hd, htake] using hdrop
      · simpa [hd] using ⟨before, .keep hs⟩
  | @insert before b s s' hb hgap hs ih =>
      -- the run ends where a blank may stand
      have hstop : ∀ d, isIdentifierChar d ≠ true → p d = false := fun d hd =>
        Bool.eq_false_iff.mpr fun hpd => hd (hp d hpd)
      have hhead : ∀ d ∈ s.head?, p d = false := by
        intro d hd
        refine hstop d fun hid => hgap c ?_ d hd (.inl ⟨hp c hc, hid⟩)
        exact hbefore.symm
      have hblank : p b = false := hstop b (by simp [isIdentifierChar_of_isBlank hb])
      have htake : s.takeWhile p = [] := takeWhile_append_of_head (w := []) (by simp) hhead
      have hdrop : s.dropWhile p = s := dropWhile_append_of_head (w := []) (by simp) hhead
      rw [htake, hdrop]
      simpa [hblank] using ⟨before, .insert hb hgap hs⟩

/-- A run behind the blanks goes on as far in both texts. -/
theorem Respaced.run {p : Char → Bool} (hp : ∀ c, p c = true → isIdentifierChar c = true)
    {s s' : List Char} (h : Respaced s s') :
    (Text.skipBlanks s).takeWhile p = (Text.skipBlanks s').takeWhile p ∧
      Respaced ((Text.skipBlanks s).dropWhile p) ((Text.skipBlanks s').dropWhile p) := by
  rcases h.skip with ⟨hs, hs'⟩ | ⟨c, r, r', hs, hs', hr⟩
  · rw [hs, hs']
    exact ⟨rfl, none, .nil⟩
  · rw [hs, hs']
    by_cases hc : p c = true
    · obtain ⟨htake, hdrop⟩ := hr.run hp hc
      simpa [hc, htake] using hdrop
    · simpa [hc] using ⟨none, .keep hr⟩

/-- Where a `::` may have begun, both texts go on with a colon or neither does. -/
theorem Spaced.colon {s s' : List Char} (h : Spaced (some ':') s s') :
    (∃ r r', s = ':' :: r ∧ s' = ':' :: r' ∧ Spaced (some ':') r r') ∨
      (∀ r, s ≠ ':' :: r) ∧ ∀ r, s' ≠ ':' :: r := by
  cases h with
  | nil => exact .inr ⟨by simp, by simp⟩
  | @keep _ c s s' hs =>
      by_cases hc : c = ':'
      · subst hc
        exact .inl ⟨s, s', rfl, rfl, hs⟩
      · exact .inr ⟨by simp [hc], by simp [hc]⟩
  | @insert _ b _ s' hb hgap hs =>
      refine .inr ⟨?_, ?_⟩
      · rintro r rfl
        exact hgap ':' rfl ':' rfl (.inr ⟨rfl, rfl⟩)
      · rintro r heq
        rw [(List.cons.inj heq).1] at hb
        exact absurd hb (by decide)

/-- A token is not found where the text does not go on with it. -/
theorem token?_eq_none_of_ne {token s : List Char} (h : ∀ r, skipBlanks s ≠ token ++ r) :
    token? token s = none := by
  cases ht : token? token s with
  | none => rfl
  | some r => exact absurd (token?_eq_some.mp ht) (h r)

/-- A token of one character is found in both texts or in neither. -/
theorem Respaced.token?_singleton {s s' : List Char} (h : Respaced s s') (d : Char) :
    (∃ r r', token? [d] s = some r ∧ token? [d] s' = some r' ∧ Respaced r r') ∨
      token? [d] s = none ∧ token? [d] s' = none := by
  rcases h.skip with ⟨hs, hs'⟩ | ⟨c, r, r', hs, hs', hr⟩
  · exact .inr ⟨token?_eq_none_of_ne (by simp [hs]), token?_eq_none_of_ne (by simp [hs'])⟩
  · by_cases hc : c = d
    · subst hc
      exact .inl ⟨r, r', token?_eq_some.mpr hs, token?_eq_some.mpr hs', some c, hr⟩
    · exact .inr ⟨token?_eq_none hs rfl hc, token?_eq_none hs' rfl hc⟩

/-- A `::` is found in both texts or in neither. -/
theorem Respaced.token?_scope {s s' : List Char} (h : Respaced s s') :
    (∃ r r', token? [':', ':'] s = some r ∧ token? [':', ':'] s' = some r' ∧ Respaced r r') ∨
      token? [':', ':'] s = none ∧ token? [':', ':'] s' = none := by
  rcases h.skip with ⟨hs, hs'⟩ | ⟨c, r, r', hs, hs', hr⟩
  · exact .inr ⟨token?_eq_none_of_ne (by simp [hs]), token?_eq_none_of_ne (by simp [hs'])⟩
  · by_cases hc : c = ':'
    · subst hc
      rcases hr.colon with ⟨t, t', rfl, rfl, ht⟩ | ⟨hne, hne'⟩
      · exact .inl ⟨t, t', token?_eq_some.mpr hs, token?_eq_some.mpr hs', some ':', ht⟩
      · refine .inr ⟨token?_eq_none_of_ne ?_, token?_eq_none_of_ne ?_⟩
        · simpa [hs] using hne
        · simpa [hs'] using hne'
    · exact .inr ⟨token?_eq_none hs rfl hc, token?_eq_none hs' rfl hc⟩

/-- An identifier is found in both texts or in neither. -/
theorem Respaced.identifier?_cases {s s' : List Char} (h : Respaced s s') :
    (∃ name r r', identifier? s = some (name, r) ∧ identifier? s' = some (name, r') ∧
      Respaced r r') ∨ identifier? s = none ∧ identifier? s' = none := by
  rcases h.skip with ⟨hs, hs'⟩ | ⟨c, r, r', hs, hs', hr⟩
  · exact .inr ⟨by simp [identifier?, hs], by simp [identifier?, hs']⟩
  · by_cases hc : startsIdentifier c = true
    · have hchar : isIdentifierChar c = true := (Bool.and_eq_true_iff.mp hc).1
      obtain ⟨htake, hdrop⟩ := hr.run (fun _ => id) hchar
      have hcond : (isIdentifierChar c && !c.isDigit) = true := hc
      refine .inl ⟨c :: r.takeWhile isIdentifierChar, _, _, ?_, ?_, hdrop⟩
      · simp [identifier?, hs, hcond]
      · simp [identifier?, hs', hcond, htake]
    · rw [Bool.not_eq_true] at hc
      exact .inr ⟨identifier?_eq_none hs hc, identifier?_eq_none hs' hc⟩

/-! ## answers side by side -/

/-- Both readers give values that are related, or both fail for the same cause. -/
inductive Agree {α : Type} (R : α → α → Prop) : Except Fault α → Except Fault α → Prop where
  | ok {a a' : α} : R a a' → Agree R (.ok a) (.ok a')
  | error {fault fault' : Fault} : fault.cause = fault'.cause →
    Agree R (.error fault) (.error fault')

/-- The same value, with rests alike but for blanks. -/
inductive Behind {α : Type} : α × List Char → α × List Char → Prop where
  | intro {a : α} {r r' : List Char} : Respaced r r' → Behind (a, r) (a, r')

/-- Steps that agree go on alike. -/
theorem Agree.bind {α β : Type} {R : α → α → Prop} {S : β → β → Prop} {x x' : Except Fault α}
    {f f' : α → Except Fault β} (h : Agree R x x')
    (hf : ∀ {a a'}, x = .ok a → x' = .ok a' → R a a' → Agree S (f a) (f' a')) :
    Agree S (x >>= f) (x' >>= f') := by
  cases h with
  | ok hR => exact hf rfl rfl hR
  | error hcause => exact .error hcause

/-- A token that has to come next is there in both texts or missing in both. -/
theorem Respaced.expect_singleton {s s' : List Char} (h : Respaced s s') (d : Char) :
    Agree Respaced (expect [d] s) (expect [d] s') := by
  rcases h.token?_singleton d with ⟨r, r', hs, hs', hr⟩ | ⟨hs, hs'⟩
  · rw [expect, expect, hs, hs']
    exact .ok hr
  · rw [expect, expect, hs, hs']
    exact .error rfl

/-- Digits are characters of identifiers. -/
theorem isIdentifierChar_of_isDigit {c : Char} (h : c.isDigit = true) :
    isIdentifierChar c = true := by
  have hnine : c.val ≤ '9'.val := of_decide_eq_true (Bool.and_eq_true_iff.mp h).2
  have hlow : c.toNat < 0x80 := Nat.lt_of_le_of_lt (UInt32.le_iff_toNat_le.mp hnine) (by decide)
  simp [isIdentifierChar, isAlphanumeric, isNumeric, hlow, h]

/-- The length of an array is read in both texts or missing in both. -/
theorem Respaced.readLength {s s' : List Char} (h : Respaced s s') :
    Agree Behind (readLength s) (readLength s') := by
  have hdigit : ∀ c : Char, c.isDigit = true → isIdentifierChar c = true :=
    fun _ => isIdentifierChar_of_isDigit
  obtain ⟨htake, hdrop⟩ := h.run hdigit
  simp only [Native.readLength, htake]
  split
  · exact .error rfl
  · exact .ok ⟨hdrop⟩

/-! ## lengths -/

/-- A token is taken from the text. -/
theorem length_lt_of_token? {token s r : List Char} (h : token? token s = some r)
    (htoken : token ≠ []) : r.length < s.length := by
  have hlen : (skipBlanks s).length = token.length + r.length := by
    rw [token?_eq_some.mp h, List.length_append]
  have hskip : (skipBlanks s).length ≤ s.length := (skipBlanks_suffix s).length_le
  have hpos : 0 < token.length := List.length_pos_iff.mpr htoken
  omega

theorem length_lt_of_expect {token s r : List Char} (h : expect token s = .ok r)
    (htoken : token ≠ []) : r.length < s.length :=
  length_lt_of_token? (token?_eq_some.mpr (expect_eq_ok.mp h)) htoken

/-- An identifier is taken from the text. -/
theorem length_lt_of_identifier? {s r name : List Char} (h : identifier? s = some (name, r)) :
    r.length < s.length := by
  obtain ⟨w, -, hw⟩ := reads_of_identifier? h
  have hone : Spells [.word w] s r := ⟨r, hw, rfl⟩
  have hlen := length_le_of_spells hone
  rw [List.length_singleton] at hlen
  omega

/-- A reader that answers alike whatever the blanks, and that leaves no more
than it was given. -/
structure Steady {α : Type} (item : Reader α) : Prop where
  agrees : ∀ {s s' : List Char}, Respaced s s' → Agree Behind (item s) (item s')
  shortens : ∀ {s r : List Char} {a : α}, item s = .ok (a, r) → r.length ≤ s.length

variable {item : Reader Native}

/-! ## tuples -/

/-- The items of a tuple are read alike. -/
theorem Steady.tupleItems (h : Steady item) {fuel fuel' : Nat} {s s' : List Char}
    (hfuel : s.length < fuel) (hfuel' : s'.length < fuel') (hs : Respaced s s') :
    Agree Behind (tupleItems item fuel s) (tupleItems item fuel' s') := by
  -- the shorter text may run out of fuel first, unless its fuel lasts to its end
  induction fuel generalizing fuel' s s' with
  | zero => omega
  | succ fuel ih =>
      obtain ⟨fuel', rfl⟩ := Nat.exists_eq_succ_of_ne_zero (by omega : fuel' ≠ 0)
      rw [Native.tupleItems, Native.tupleItems]
      rcases hs.token?_singleton ')' with ⟨r, r', hr, hr', hclose⟩ | ⟨hr, hr'⟩
      · rw [hr, hr']
        exact .ok ⟨hclose⟩
      · rw [hr, hr']
        refine (h.agrees hs.skipBlanks).bind ?_
        rintro ⟨t, m⟩ ⟨_, m'⟩ ht ht' ⟨hm⟩
        have hlen := h.shortens ht
        have hlen' := h.shortens ht'
        have hskip := (skipBlanks_suffix s).length_le
        have hskip' := (skipBlanks_suffix s').length_le
        dsimp only
        rcases hm.token?_singleton ',' with ⟨k, k', hk, hk', hcomma⟩ | ⟨hk, hk'⟩
        · have hlt := length_lt_of_token? hk (by simp)
          have hlt' := length_lt_of_token? hk' (by simp)
          rw [hk, hk']
          refine (ih (by omega) (by omega) hcomma).bind ?_
          rintro ⟨⟨ts, comma⟩, j⟩ ⟨_, j'⟩ - - ⟨hj⟩
          exact .ok ⟨hj⟩
        · rw [hk, hk']
          rcases hm.token?_singleton ')' with ⟨k, k', hk, hk', hclose⟩ | ⟨hk, hk'⟩
          · rw [hk, hk']
            exact .ok ⟨hclose⟩
          · rw [hk, hk']
            exact .error rfl

/-- Tuples are read alike. -/
theorem Steady.readTuple (h : Steady item) {s s' : List Char} (hs : Respaced s s') :
    Agree Behind (readTuple item s) (readTuple item s') := by
  refine (h.tupleItems (Nat.lt_succ_self _) (Nat.lt_succ_self _) hs).bind ?_
  rintro ⟨items, r⟩ ⟨_, r'⟩ - - ⟨hr⟩
  exact .ok ⟨hr⟩

/-! ## sequences and arrays -/

/-- Sequences and arrays are read alike. -/
theorem Steady.readBracketed (h : Steady item) {s s' : List Char} (hs : Respaced s s') :
    Agree Behind (readBracketed item s) (readBracketed item s') := by
  refine (h.agrees hs).bind ?_
  rintro ⟨element, m⟩ ⟨_, m'⟩ - - ⟨hm⟩
  dsimp only
  rcases hm.token?_singleton ']' with ⟨r, r', hr, hr', hclose⟩ | ⟨hr, hr'⟩
  · rw [hr, hr']
    exact .ok ⟨hclose⟩
  · rw [hr, hr']
    refine (hm.expect_singleton ';').bind ?_
    intro k k' _ _ hk
    refine hk.readLength.bind ?_
    rintro ⟨length, j⟩ ⟨_, j'⟩ - - ⟨hj⟩
    refine (hj.expect_singleton ']').bind ?_
    intro i i' _ _ hi
    exact .ok ⟨hi⟩

/-! ## paths -/

/-- The names of a path are read alike. -/
theorem Respaced.pathSegments {fuel fuel' : Nat} {s s' : List Char} (hfuel : s.length < fuel)
    (hfuel' : s'.length < fuel') (hs : Respaced s s') :
    Agree Behind (pathSegments fuel s) (pathSegments fuel' s') := by
  induction fuel generalizing fuel' s s' with
  | zero => omega
  | succ fuel ih =>
      obtain ⟨fuel', rfl⟩ := Nat.exists_eq_succ_of_ne_zero (by omega : fuel' ≠ 0)
      rw [Native.pathSegments, Native.pathSegments]
      rcases hs.identifier?_cases with ⟨name, m, m', hm, hm', hname⟩ | ⟨hm, hm'⟩
      · rw [hm, hm']
        dsimp only
        rcases hname.token?_scope with ⟨r, r', hr, hr', hscope⟩ | ⟨hr, hr'⟩
        · have hlen := length_lt_of_identifier? hm
          have hlen' := length_lt_of_identifier? hm'
          have hlt := length_lt_of_token? hr (by simp)
          have hlt' := length_lt_of_token? hr' (by simp)
          rw [hr, hr']
          refine (ih (by omega) (by omega) hscope).bind ?_
          rintro ⟨names, j⟩ ⟨_, j'⟩ - - ⟨hj⟩
          exact .ok ⟨hj⟩
        · rw [hr, hr']
          exact .ok ⟨hname⟩
      · rw [hm, hm']
        exact .error rfl

/-- An argument starts with a tick or is a type. -/
theorem readArgument_eq (item : Reader Native) (s : List Char) :
    readArgument item s = match token? ['\x27'] s with
      | none => (do let (t, r) ← item (skipBlanks s); .ok ([t], r))
      | some r => match identifier? r with
        | some (_, r) => .ok ([], r)
        | none => .error ⟨.expectedLifetime, skipBlanks r⟩ := by
  unfold readArgument
  split
  · next r htick =>
      have htoken : token? ['\x27'] s = some r := token?_eq_some.mpr htick
      cases hname : identifier? r <;> simp only [htoken, hname]
  · next hne => rw [token?_eq_none_of_ne (by simpa using hne)]

/-- Arguments are read alike. -/
theorem Steady.readArgument (h : Steady item) : Steady (readArgument item) where
  agrees := by
    intro s s' hs
    rw [readArgument_eq, readArgument_eq]
    rcases hs.token?_singleton '\x27' with ⟨m, m', hm, hm', htick⟩ | ⟨hm, hm'⟩
    · rw [hm, hm']
      dsimp only
      rcases htick.identifier?_cases with ⟨name, r, r', hr, hr', hname⟩ | ⟨hr, hr'⟩
      · rw [hr, hr']
        exact .ok ⟨hname⟩
      · rw [hr, hr']
        exact .error rfl
    · rw [hm, hm']
      refine (h.agrees hs.skipBlanks).bind ?_
      rintro ⟨t, r⟩ ⟨_, r'⟩ - - ⟨hr⟩
      exact .ok ⟨hr⟩
  shortens := by
    intro s r given hs
    rw [readArgument_eq] at hs
    split at hs
    · obtain ⟨⟨t, k⟩, ht, hs⟩ := bind_eq_ok.mp hs
      obtain ⟨-, rfl⟩ := Prod.mk.inj (Except.ok.inj hs)
      have hlen := h.shortens ht
      have hskip := (skipBlanks_suffix s).length_le
      omega
    · next m hm =>
        split at hs
        · next name k hk =>
            obtain ⟨-, rfl⟩ := Prod.mk.inj (Except.ok.inj hs)
            have hlt := length_lt_of_token? hm (by simp)
            have hlen := length_lt_of_identifier? hk
            omega
        · contradiction

/-- All arguments of a path are read alike. -/
theorem Steady.pathArguments (h : Steady item) {fuel fuel' : Nat} {s s' : List Char}
    (hfuel : s.length < fuel) (hfuel' : s'.length < fuel') (hs : Respaced s s') :
    Agree Behind (pathArguments item fuel s) (pathArguments item fuel' s') := by
  induction fuel generalizing fuel' s s' with
  | zero => omega
  | succ fuel ih =>
      obtain ⟨fuel', rfl⟩ := Nat.exists_eq_succ_of_ne_zero (by omega : fuel' ≠ 0)
      rw [Native.pathArguments, Native.pathArguments]
      refine (h.readArgument.agrees hs).bind ?_
      rintro ⟨given, m⟩ ⟨_, m'⟩ hgiven hgiven' ⟨hm⟩
      have hlen := h.readArgument.shortens hgiven
      have hlen' := h.readArgument.shortens hgiven'
      dsimp only
      rcases hm.token?_singleton '>' with ⟨r, r', hr, hr', hclose⟩ | ⟨hr, hr'⟩
      · rw [hr, hr']
        exact .ok ⟨hclose⟩
      · rw [hr, hr']
        refine (hm.expect_singleton ',').bind ?_
        intro k k' hk hk' hcomma
        have hlt := length_lt_of_expect hk (by simp)
        have hlt' := length_lt_of_expect hk' (by simp)
        rcases hcomma.token?_singleton '>' with ⟨r, r', hr, hr', hclose⟩ | ⟨hr, hr'⟩
        · rw [hr, hr']
          exact .ok ⟨hclose⟩
        · rw [hr, hr']
          refine (ih (by omega) (by omega) hcomma).bind ?_
          rintro ⟨more, j⟩ ⟨_, j'⟩ - - ⟨hj⟩
          exact .ok ⟨hj⟩

theorem Respaced.skipRoot {s s' : List Char} (hs : Respaced s s') :
    Respaced ((token? [':', ':'] s).getD s) ((token? [':', ':'] s').getD s') := by
  rcases hs.token?_scope with ⟨r, r', hr, hr', hscope⟩ | ⟨hr, hr'⟩
  · rw [hr, hr']
    exact hscope
  · rw [hr, hr']
    exact hs

/-- Paths are read alike. -/
theorem Steady.readPath (h : Steady item) {s s' : List Char} (hs : Respaced s s') :
    Agree Behind (readPath item s) (readPath item s') := by
  refine (hs.skipRoot.pathSegments (Nat.lt_succ_self _) (Nat.lt_succ_self _)).bind ?_
  rintro ⟨names, m⟩ ⟨_, m'⟩ - - ⟨hm⟩
  dsimp only
  rcases hm.token?_singleton '<' with ⟨r, r', hr, hr', hopen⟩ | ⟨hr, hr'⟩
  · rw [hr, hr']
    refine (h.pathArguments (Nat.lt_succ_self _) (Nat.lt_succ_self _) hopen).bind ?_
    rintro ⟨arguments, j⟩ ⟨_, j'⟩ - - ⟨hj⟩
    exact .ok ⟨hj⟩
  · rw [hr, hr']
    exact .ok ⟨hm⟩

/-! ## references -/

/-- A lifetime starts with a tick. -/
theorem skipLifetime_eq (s : List Char) :
    skipLifetime s = match token? ['\x27'] s with
      | none => skipBlanks s
      | some r => match identifier? r with
        | some (_, rest) => rest
        | none => skipBlanks r := by
  unfold skipLifetime
  split
  · next r htick =>
      have htoken : token? ['\x27'] s = some r := token?_eq_some.mpr htick
      cases hname : identifier? r <;> simp only [htoken, hname]
  · next hne => rw [token?_eq_none_of_ne (by simpa using hne)]

theorem Respaced.skipLifetime {s s' : List Char} (hs : Respaced s s') :
    Respaced (skipLifetime s) (skipLifetime s') := by
  rw [skipLifetime_eq, skipLifetime_eq]
  rcases hs.token?_singleton '\x27' with ⟨m, m', hm, hm', htick⟩ | ⟨hm, hm'⟩
  · rw [hm, hm']
    dsimp only
    rcases htick.identifier?_cases with ⟨name, r, r', hr, hr', hname⟩ | ⟨hr, hr'⟩
    · rw [hr, hr']
      exact hname
    · rw [hr, hr']
      exact htick.skipBlanks
  · rw [hm, hm']
    exact hs.skipBlanks

theorem Respaced.skipMut {s s' : List Char} (hs : Respaced s s') :
    Respaced (skipMut s) (skipMut s') := by
  rw [Native.skipMut, Native.skipMut]
  rcases hs.identifier?_cases with ⟨name, r, r', hr, hr', hname⟩ | ⟨hr, hr'⟩
  · rw [hr, hr']
    dsimp only
    split
    · exact hname
    · exact hs
  · rw [hr, hr']
    exact hs

/-! ## types -/

/-- A type takes a character of the text. -/
theorem length_lt_of_readType {room : Nat} {s r : List Char} {t : Native}
    (h : readType room s = .ok (t, r)) : r.length < s.length := by
  obtain ⟨tree, htree⟩ := readType_accepts room h
  have hlen := length_le_of_spells htree.spells
  have hpos : 0 < tree.tokens.length := List.length_pos_iff.mpr tree.tokens_ne_nil
  omega

/-- No rest of a type is longer than the text. -/
theorem readType_shortens {room : Nat} {s r : List Char} {t : Native}
    (h : readType room s = .ok (t, r)) : r.length ≤ s.length :=
  Nat.le_of_lt (length_lt_of_readType h)

/-- **Types are read alike** in texts alike but for blanks. -/
theorem readType_steady (room : Nat) : Steady (readType room) := by
  refine ⟨?_, readType_shortens⟩
  induction room with
  | zero => exact fun _ => .error rfl
  | succ room ih =>
      intro s s' h
      have hitem : Steady (readType room) := ⟨ih, readType_shortens⟩
      rcases h.skip with ⟨hs, hs'⟩ | ⟨c, r, r', hs, hs', hr⟩
      · rw [readType, readType, hs, hs']
        exact .error rfl
      · have hrest : Respaced r r' := ⟨some c, hr⟩
        by_cases hamp : c = '&'
        · subst hamp
          rw [readType, readType, hs, hs']
          exact ih hrest.skipLifetime.skipMut
        by_cases hparen : c = '('
        · subst hparen
          rw [readType, readType, hs, hs']
          exact hitem.readTuple hrest
        by_cases hbracket : c = '['
        · subst hbracket
          rw [readType, readType, hs, hs']
          exact hitem.readBracketed hrest
        rw [readType_path hs hamp hparen hbracket, readType_path hs' hamp hparen hbracket]
        by_cases hstart : startsPath c = true
        · rw [if_pos hstart, if_pos hstart]
          exact hitem.readPath h.skipBlanks
        · rw [if_neg hstart, if_neg hstart]
          exact .error rfl

/-- **Texts alike but for blanks** are parsed to the same type, or both are none
for the same cause. -/
theorem agree_parseChars {s s' : List Char} (h : Respaced s s') :
    Agree Eq (parseChars s) (parseChars s') := by
  refine ((readType_steady maxNesting).agrees h).bind ?_
  rintro ⟨t, r⟩ ⟨_, r'⟩ - - ⟨hr⟩
  dsimp only
  rcases hr.skip with ⟨hs, hs'⟩ | ⟨c, m, m', hs, hs', -⟩
  · rw [hs, hs']
    exact .ok rfl
  · rw [hs, hs']
    exact .error rfl

/-- What is left of answers that agree when the places are forgotten. -/
theorem Agree.mapError_eq {x x' : Except Fault Native} (h : Agree Eq x x') :
    x.mapError Fault.cause = x'.mapError Fault.cause := by
  cases h with
  | ok heq => rw [heq]
  | error hcause => exact congrArg Except.error hcause

/-- A text is none for the cause that its characters are none. -/
theorem mapError_parse (source : String) :
    (parse source).mapError ParseError.cause =
      (parseChars source.toList).mapError Fault.cause := by
  rw [parse]
  cases parseChars source.toList <;> rfl

/-- **Blanks between tokens never matter**: put in anywhere but within a word, a
numeral or a `::`, they change neither the type that a text spells nor what is
wrong with a text that spells none. -/
theorem parse_spaced {source source' : String} (h : Spaced none source.toList source'.toList) :
    (parse source').mapError ParseError.cause = (parse source).mapError ParseError.cause := by
  rw [mapError_parse, mapError_parse]
  exact (agree_parseChars ⟨none, h⟩).mapError_eq.symm

set_option maxRecDepth 20000 in
/-- A no-break space and two spaces in an array without a length: the place of
the error moves, its cause stays. -/
theorem parse_spaced_array :
    Spaced none "[u8;x]".toList "[\u00a0u8 ; x]".toList ∧
      parse "[u8;x]" = .error ⟨4, .expectedLength⟩ ∧
      parse "[\u00a0u8 ; x]" = .error ⟨8, .expectedLength⟩ ∧
      (parse "[\u00a0u8 ; x]").mapError ParseError.cause =
        (parse "[u8;x]").mapError ParseError.cause := by
  have h : Spaced none "[u8;x]".toList "[\u00a0u8 ; x]".toList :=
    .keep (.between (by decide) (by decide) (.keep (.keep (.between (by decide) (by decide) (.keep
      (.between (by decide) (by decide) (.keep (.keep .nil))))))))
  exact ⟨h, by rfl, by rfl, parse_spaced h⟩

set_option maxRecDepth 20000 in
/-- Within a word a blank does matter. -/
example : parse "u8" = .ok (primitive .u8) ∧ parse "u 8" = .error ⟨2, .trailingInput⟩ :=
  ⟨by rfl, by rfl⟩

end DeclGen.Native
