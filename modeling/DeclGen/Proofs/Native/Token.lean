import DeclGen.Native.Parser

/-!
# DeclGen.Proofs.Native.Token

The tokens that the text of a type is made of:

1. a *mark* is one of a fixed set of punctuations, `::` being a single one;
2. a *word* is a run of identifier characters that does not start with an
   ASCII digit, and it is as long as possible: no identifier character follows;
3. a *numeral* is a run of decimal digits with a value below 2^64.

`Token.Reads t s r` says that `t` stands at the front of `s`, behind any
blanks, and that `r` follows it; `Spells ts s r` says the same of a sequence of
tokens.  The second half ties the readers of single tokens to `Reads`, in both
directions, so that nothing below has to open them again.
-/

namespace DeclGen.Native

open Text

/-! ## the tokens -/

/-- Whether an identifier can start with a character. -/
def startsIdentifier (c : Char) : Bool := isIdentifierChar c && !c.isDigit

/-- A word: its first character and the others. -/
structure Word where
  first : Char
  others : List Char
  starts : startsIdentifier first = true
  continues : ∀ c ∈ others, isIdentifierChar c = true

/-- The characters of a word. -/
def Word.chars (w : Word) : List Char := w.first :: w.others

/-- The keyword `mut`. -/
def Word.mut : Word := ⟨'m', ['u', 't'], by decide, List.all_eq_true.mp (by decide)⟩

/-- A numeral: decimal digits, at least one, with a value below 2^64. -/
structure Numeral where
  digits : List Char
  nonempty : digits ≠ []
  decimal : ∀ c ∈ digits, c.isDigit = true
  bounded : Nat.ofDigitChars 10 digits 0 < UInt64.size

/-- The value of a numeral. -/
def Numeral.value (n : Numeral) : UInt64 := UInt64.ofNat (Nat.ofDigitChars 10 n.digits 0)

/-- The punctuation of types. -/
inductive Mark where
  | ampersand | tick | comma | semicolon | scope
  | openParen | closeParen | openBracket | closeBracket | openAngle | closeAngle
  deriving DecidableEq

/-- The characters of a mark. -/
@[simp]
def Mark.chars : Mark → List Char
  | ampersand => ['&'] | tick => ['\x27'] | comma => [','] | semicolon => [';']
  | scope => [':', ':']
  | openParen => ['('] | closeParen => [')']
  | openBracket => ['['] | closeBracket => [']']
  | openAngle => ['<'] | closeAngle => ['>']

/-- A token. -/
inductive Token where
  | mark (m : Mark)
  | word (w : Word)
  | numeral (n : Numeral)

namespace Token

/-- The characters of a token. -/
def chars : Token → List Char
  | mark m => m.chars
  | word w => w.chars
  | numeral n => n.digits

/-- Whether a token can end before a text: a word ends only where no identifier
character follows. -/
def EndsAt : Token → List Char → Prop
  | word _, r => ∀ c ∈ r.head?, isIdentifierChar c = false
  | _, _ => True

/-- A token stands at the front of `s`, behind any blanks, and `r` follows it. -/
def Reads (t : Token) (s r : List Char) : Prop := skipBlanks s = t.chars ++ r ∧ t.EndsAt r

end Token

/-- Tokens stand one after the other at the front of `s`, and `r` follows them. -/
def Spells : List Token → List Char → List Char → Prop
  | [], s, r => s = r
  | t :: ts, s, r => ∃ m, t.Reads s m ∧ Spells ts m r

/-! ## spelling -/

@[simp] theorem spells_nil {s r : List Char} : Spells [] s r ↔ s = r := Iff.rfl

@[simp] theorem spells_cons {t : Token} {ts : List Token} {s r : List Char} :
    Spells (t :: ts) s r ↔ ∃ m, t.Reads s m ∧ Spells ts m r := Iff.rfl

@[simp] theorem spells_append {ts us : List Token} {s r : List Char} :
    Spells (ts ++ us) s r ↔ ∃ m, Spells ts s m ∧ Spells us m r := by
  induction ts generalizing s with
  | nil => simp
  | cons t ts ih =>
      simp only [List.cons_append, spells_cons, ih]
      constructor
      · rintro ⟨m, ht, k, hts, hus⟩
        exact ⟨k, ⟨m, ht, hts⟩, hus⟩
      · rintro ⟨k, ⟨m, ht, hts⟩, hus⟩
        exact ⟨m, ht, k, hts, hus⟩

@[simp] theorem reads_mark {m : Mark} {s r : List Char} :
    (Token.mark m).Reads s r ↔ skipBlanks s = m.chars ++ r := by
  simp [Token.Reads, Token.EndsAt, Token.chars]

/-- Blanks in front of a token do not matter. -/
@[simp] theorem reads_skipBlanks {t : Token} {s r : List Char} :
    t.Reads (skipBlanks s) r ↔ t.Reads s r := by
  simp [Token.Reads, skipBlanks_idem]

/-- Blanks in front of the first token do not matter. -/
theorem spells_skipBlanks {ts : List Token} {s r : List Char} (h : ts ≠ []) :
    Spells ts (skipBlanks s) r ↔ Spells ts s r := by
  cases ts with
  | nil => contradiction
  | cons t ts => simp

/-- A token has a character. -/
theorem Token.chars_ne_nil (t : Token) : t.chars ≠ [] := by
  cases t with
  | mark m => cases m <;> simp [Token.chars, Mark.chars]
  | word w => simp [Token.chars, Word.chars]
  | numeral n => exact n.nonempty

/-- Every token takes a character of the text. -/
theorem length_le_of_spells {ts : List Token} {s r : List Char} (h : Spells ts s r) :
    ts.length + r.length ≤ s.length := by
  induction ts generalizing s with
  | nil => simp [spells_nil.mp h]
  | cons t ts ih =>
      obtain ⟨m, ⟨hm, -⟩, hts⟩ := h
      have hpos : 0 < t.chars.length := List.length_pos_iff.mpr t.chars_ne_nil
      have hlen : (skipBlanks s).length = t.chars.length + m.length := by simp [hm]
      have hskip : (skipBlanks s).length ≤ s.length := (skipBlanks_suffix s).length_le
      have hrest := ih hts
      simp only [List.length_cons]
      omega

/-! ## readers in sequence -/

@[simp] theorem ok_bind {ε α β : Type} (a : α) (f : α → Except ε β) :
    (Except.ok a >>= f) = f a := rfl

/-- A step and what follows it succeed together. -/
theorem bind_eq_ok {ε α β : Type} {x : Except ε α} {f : α → Except ε β} {b : β} :
    (x >>= f) = .ok b ↔ ∃ a, x = .ok a ∧ f a = .ok b := by
  cases x <;> simp [bind, Except.bind]

/-- A step or what follows it fails. -/
theorem bind_eq_error {ε α β : Type} {x : Except ε α} {f : α → Except ε β} {fault : ε} :
    (x >>= f) = .error fault ↔ x = .error fault ∨ ∃ a, x = .ok a ∧ f a = .error fault := by
  cases x <;> simp [bind, Except.bind]

/-! ## marks -/

/-- A token is found where its characters stand. -/
theorem token?_eq_some {token s r : List Char} :
    token? token s = some r ↔ skipBlanks s = token ++ r := by
  unfold token?
  constructor
  · intro h
    split at h
    · next hp =>
        obtain ⟨t, ht⟩ := List.isPrefixOf_iff_prefix.mp hp
        rw [← ht, List.drop_left, Option.some.injEq] at h
        rw [← ht, h]
    · contradiction
  · intro h
    rw [h, if_pos (List.isPrefixOf_iff_prefix.mpr (List.prefix_append _ _)), List.drop_left]

/-- A token is not found where another character stands. -/
theorem token?_eq_none {token s r : List Char} {c d : Char} (h : skipBlanks s = c :: r)
    (hd : token.head? = some d) (hne : c ≠ d) : token? token s = none := by
  cases ht : token? token s with
  | none => rfl
  | some m =>
      obtain ⟨rest, rfl⟩ := List.head?_eq_some_iff.mp hd
      rw [token?_eq_some, h] at ht
      exact absurd (List.cons.inj ht).1 hne

/-- A token that has to come next. -/
theorem expect_eq_ok {token s r : List Char} :
    expect token s = .ok r ↔ skipBlanks s = token ++ r := by
  rw [← token?_eq_some, expect]
  cases token? token s <;> simp

/-! ## blanks and tokens -/

/-- The code points of blanks. -/
def blankCodes : List Nat :=
  [0x9, 0xA, 0xB, 0xC, 0xD, 0x20, 0x85, 0xA0, 0x1680, 0x2000, 0x2001, 0x2002, 0x2003, 0x2004,
    0x2005, 0x2006, 0x2007, 0x2008, 0x2009, 0x200A, 0x2028, 0x2029, 0x202F, 0x205F, 0x3000]

theorem toNat_mem_blankCodes {c : Char} (h : isBlank c = true) : c.toNat ∈ blankCodes := by
  simp only [isBlank, Bool.or_eq_true, Bool.and_eq_true, decide_eq_true_eq, beq_iff_eq] at h
  simp only [blankCodes, List.mem_cons, List.not_mem_nil, or_false]
  omega

/-- No blank is part of an identifier. -/
theorem isIdentifierChar_of_isBlank {c : Char} (h : isBlank c = true) :
    isIdentifierChar c = false := by
  have hcodes : ∀ n ∈ blankCodes, isIdentifierChar (Char.ofNat n) = false := by decide +kernel
  simpa using hcodes c.toNat (toNat_mem_blankCodes h)

/-- No blank is a digit. -/
theorem isDigit_of_isBlank {c : Char} (h : isBlank c = true) : c.isDigit = false := by
  have hcodes : ∀ n ∈ blankCodes, (Char.ofNat n).isDigit = false := by decide
  simpa using hcodes c.toNat (toNat_mem_blankCodes h)

/-- A text starts with a blank or with the character behind its blanks. -/
theorem head_of_skipBlanks {s r : List Char} {c d : Char} (h : skipBlanks s = c :: r)
    (hd : d ∈ s.head?) : isBlank d = true ∨ d = c := by
  obtain ⟨rest, rfl⟩ := List.head?_eq_some_iff.mp hd
  cases hb : isBlank d with
  | true => exact .inl rfl
  | false =>
      simp only [skipBlanks, List.dropWhile_cons, hb] at h
      exact .inr (List.cons.inj h).1

/-! ## words -/

/-- A run of characters of a class is taken as a whole. -/
theorem takeWhile_append_of_head {p : Char → Bool} {w r : List Char} (hw : ∀ c ∈ w, p c = true)
    (hr : ∀ c ∈ r.head?, p c = false) : (w ++ r).takeWhile p = w := by
  rw [List.takeWhile_append_of_pos hw]
  cases r with
  | nil => simp
  | cons c r => simp [hr c (by simp)]

/-- What follows a run of characters of a class is kept as a whole. -/
theorem dropWhile_append_of_head {p : Char → Bool} {w r : List Char} (hw : ∀ c ∈ w, p c = true)
    (hr : ∀ c ∈ r.head?, p c = false) : (w ++ r).dropWhile p = r := by
  rw [List.dropWhile_append_of_pos hw]
  cases r with
  | nil => simp
  | cons c r => simp [hr c (by simp)]

/-- A word is read where it stands. -/
theorem identifier?_of_reads {w : Word} {s r : List Char} (h : (Token.word w).Reads s r) :
    identifier? s = some (w.chars, r) := by
  obtain ⟨hs, hr⟩ := h
  have hfirst : (isIdentifierChar w.first && !w.first.isDigit) = true := w.starts
  unfold identifier?
  simp only [hs, Token.chars, Word.chars, List.cons_append, hfirst, if_true,
    takeWhile_append_of_head w.continues hr, dropWhile_append_of_head w.continues hr]

/-- Only words are read. -/
theorem reads_of_identifier? {s r name : List Char} (h : identifier? s = some (name, r)) :
    ∃ w : Word, w.chars = name ∧ (Token.word w).Reads s r := by
  unfold identifier? at h
  split at h
  · contradiction
  · next c m hs =>
      split at h
      · next hc =>
          simp only [Option.some.injEq, Prod.mk.injEq] at h
          obtain ⟨rfl, rfl⟩ := h
          refine ⟨⟨c, m.takeWhile isIdentifierChar, hc, ?_⟩, rfl, ?_, ?_⟩
          · intro d hd
            exact List.all_eq_true.mp List.all_takeWhile d hd
          · simp [hs, Token.chars, Word.chars]
          · intro d hd
            have := List.head?_dropWhile_not isIdentifierChar m
            rw [Option.mem_def.mp hd] at this
            simpa using this
      · contradiction

/-- No word is read where none can start. -/
theorem identifier?_eq_none {s r : List Char} {c : Char} (h : skipBlanks s = c :: r)
    (hc : startsIdentifier c = false) : identifier? s = none := by
  have hc' : (isIdentifierChar c && !c.isDigit) = false := hc
  simp [identifier?, h, hc']

/-- Where a word is read, the next token is that word. -/
theorem word_of_identifier? {t : Token} {s m r name : List Char} (ht : t.Reads s m)
    (h : identifier? s = some (name, r)) : ∃ w, t = .word w ∧ w.chars = name := by
  cases t with
  | word w =>
      rw [identifier?_of_reads ht, Option.some.injEq, Prod.mk.injEq] at h
      exact ⟨w, rfl, h.1⟩
  | mark k =>
      have hnone : identifier? s = none := by
        cases k <;> exact identifier?_eq_none (reads_mark.mp ht) (by decide)
      rw [hnone] at h
      contradiction
  | numeral n =>
      obtain ⟨hs, -⟩ := ht
      obtain ⟨d, ds, hd⟩ := List.exists_cons_of_ne_nil n.nonempty
      have hdigit : d.isDigit = true := n.decimal d (by simp [hd])
      have hnone : identifier? s = none :=
        identifier?_eq_none (c := d) (r := ds ++ m) (by simp [hs, Token.chars, hd])
          (by simp [startsIdentifier, hdigit])
      rw [hnone] at h
      contradiction

/-- Where a tick stands, the next token is the tick. -/
theorem eq_tick_of_reads {t : Token} {s m r : List Char} (ht : t.Reads s m)
    (h : skipBlanks s = '\x27' :: r) : t = .mark .tick := by
  obtain ⟨hs, -⟩ := ht
  rw [h] at hs
  cases t with
  | mark k => cases k <;> simp_all [Token.chars]
  | word w =>
      have hstart := w.starts
      simp only [Token.chars, Word.chars, List.cons_append, List.cons.injEq] at hs
      rw [← hs.1] at hstart
      exact absurd hstart (by decide)
  | numeral n =>
      obtain ⟨d, ds, hd⟩ := List.exists_cons_of_ne_nil n.nonempty
      have hdigit : d.isDigit = true := n.decimal d (by simp [hd])
      simp only [Token.chars, hd, List.cons_append, List.cons.injEq] at hs
      rw [← hs.1] at hdigit
      exact absurd hdigit (by decide)

/-! ## numerals -/

/-- A numeral is read where it stands. -/
theorem readLength_of_reads {n : Numeral} {s r : List Char} (h : (Token.numeral n).Reads s r)
    (hr : ∀ c ∈ r.head?, c.isDigit = false) : readLength s = .ok (n.value, r) := by
  obtain ⟨hs, -⟩ := h
  have hdigits : (skipBlanks s).takeWhile Char.isDigit = n.digits := by
    rw [hs]; exact takeWhile_append_of_head n.decimal hr
  have hrest : (skipBlanks s).dropWhile Char.isDigit = r := by
    rw [hs]; exact dropWhile_append_of_head n.decimal hr
  have hsome : n.digits.isEmpty = false := by simp [n.nonempty]
  have hlow : ¬ UInt64.size ≤ Nat.ofDigitChars 10 n.digits 0 := Nat.not_le.mpr n.bounded
  simp [readLength, hdigits, hrest, hsome, hlow, Numeral.value]

/-- Only numerals are read. -/
theorem reads_of_readLength {s r : List Char} {v : UInt64} (h : readLength s = .ok (v, r)) :
    ∃ n : Numeral, n.value = v ∧ (Token.numeral n).Reads s r := by
  simp only [readLength] at h
  split at h
  · contradiction
  · next hn =>
      simp only [Bool.or_eq_true, decide_eq_true_eq, not_or, Nat.not_le, List.isEmpty_iff] at hn
      simp only [Except.ok.injEq, Prod.mk.injEq] at h
      obtain ⟨rfl, rfl⟩ := h
      refine ⟨⟨_, hn.1, ?_, hn.2⟩, rfl, ?_, trivial⟩
      · intro c hc
        exact List.all_eq_true.mp List.all_takeWhile c hc
      · simp [Token.chars]

end DeclGen.Native
