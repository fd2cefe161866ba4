import DeclGen.Proofs.Native.Viable

/-!
# DeclGen.Proofs.Native.Position

Positions in a text, counted in UTF-8 bytes.

* `At source position rest`: the position stands between two characters, or at
  an end of the text, and `rest` is what follows it;
* `Advances source start stop`: from one such position to another, past at least
  one character;
* `sliceFrom?`, `sliceTo?`: the text behind a position and in front of it, which
  is there only if the position stands between two characters.
-/

namespace DeclGen.Native

/-! ## lengths -/

theorem utf8Length_append (s t : List Char) :
    utf8Length (s ++ t) = utf8Length s + utf8Length t := by
  rw [utf8Length_eq, utf8Length_eq, utf8Length_eq, String.ofList_append,
    String.utf8ByteSize_append]

theorem utf8Length_toList (s : String) : utf8Length s.toList = s.utf8ByteSize := by
  rw [utf8Length_eq, String.ofList_toList]

/-- Only the empty text has no bytes. -/
theorem utf8Length_eq_zero {s : List Char} : utf8Length s = 0 ↔ s = [] := by
  cases s with
  | nil => simp [utf8Length]
  | cons c r => simp [utf8Length, Nat.ne_of_gt c.utf8Size_pos]

/-! ## positions -/

/-- A position with the rest of the text behind it. -/
def At (source : String) (position : Nat) (rest : List Char) : Prop :=
  ∃ before, source.toList = before ++ rest ∧ utf8Length before = position

variable {source : String} {position : Nat} {s r : List Char}

/-- The whole text stands behind its start. -/
theorem at_zero (source : String) : At source 0 source.toList := ⟨[], rfl, rfl⟩

/-- What stands behind a position is an end of the text. -/
theorem At.suffix (h : At source position s) : s <:+ source.toList := by
  obtain ⟨before, hsource, -⟩ := h
  exact ⟨before, hsource.symm⟩

/-- A position is as far from the end as the rest is long. -/
theorem At.add_utf8Length (h : At source position s) :
    position + utf8Length s = source.utf8ByteSize := by
  obtain ⟨before, hsource, rfl⟩ := h
  rw [← utf8Length_append, ← hsource, utf8Length_toList]

theorem At.le_utf8ByteSize (h : At source position s) : position ≤ source.utf8ByteSize :=
  Nat.le.intro h.add_utf8Length

/-- A position is what the rest leaves of the text. -/
theorem At.eq_sub (h : At source position s) :
    position = utf8Length source.toList - utf8Length s := by
  rw [utf8Length_toList, ← h.add_utf8Length, Nat.add_sub_cancel]

/-- A position moves on by the bytes of the characters it passes. -/
theorem At.add {passed : List Char} (h : At source position (passed ++ r)) :
    At source (position + utf8Length passed) r := by
  obtain ⟨before, hsource, rfl⟩ := h
  exact ⟨before ++ passed, by rw [hsource, List.append_assoc], utf8Length_append before passed⟩

/-- An end of the text has its position. -/
theorem at_sub (h : r <:+ source.toList) : At source (source.utf8ByteSize - utf8Length r) r := by
  obtain ⟨before, hsource⟩ := h
  refine ⟨before, hsource.symm, ?_⟩
  rw [← utf8Length_toList, ← hsource, utf8Length_append, Nat.add_sub_cancel]

/-- A position splits the text. -/
theorem At.exists_append (h : At source position s) :
    ∃ before : String, source = before ++ String.ofList s ∧ before.utf8ByteSize = position := by
  obtain ⟨before, hsource, rfl⟩ := h
  refine ⟨String.ofList before, ?_, (utf8Length_eq before).symm⟩
  rw [← String.ofList_append, ← hsource, String.ofList_toList]

/-- Two texts that make up a text meet at a boundary between characters. -/
theorem isValid_append (before behind : String) :
    (⟨before.utf8ByteSize⟩ : String.Pos.Raw).IsValid (before ++ behind) :=
  String.Pos.Raw.isValid_iff_exists_append.mpr ⟨before, behind, rfl, rfl⟩

/-- A position with a rest is a boundary between characters. -/
theorem At.isValid (h : At source position s) :
    (⟨position⟩ : String.Pos.Raw).IsValid source := by
  obtain ⟨before, rfl, rfl⟩ := h.exists_append
  exact isValid_append before _

/-! ## moving on -/

/-- From one position to another, past at least one character. -/
def Advances (source : String) (start stop : Nat) : Prop :=
  ∃ passed rest, passed ≠ [] ∧ At source start (passed ++ rest) ∧ stop = start + utf8Length passed

/-- Of two positions, the one with the shorter rest is further on. -/
theorem At.advances {start stop : Nat} (hstart : At source start s) (hstop : At source stop r)
    (hlength : r.length < s.length) : Advances source start stop := by
  obtain ⟨passed, rfl⟩ :=
    List.suffix_of_suffix_length_le hstop.suffix hstart.suffix (Nat.le_of_lt hlength)
  refine ⟨passed, r, ?_, hstart, ?_⟩
  · rintro rfl
    exact absurd hlength (Nat.lt_irrefl _)
  · have hend := hstart.add.add_utf8Length.trans hstop.add_utf8Length.symm
    exact (Nat.add_right_cancel hend).symm

/-! ## slices -/

/-- The text behind a position between two characters. -/
def sliceFrom? (text : String) (position : Nat) : Option String :=
  if h : (⟨position⟩ : String.Pos.Raw).IsValid text then
    some (text.sliceFrom (text.pos ⟨position⟩ h)).copy
  else none

/-- The text in front of a position between two characters. -/
def sliceTo? (text : String) (position : Nat) : Option String :=
  if h : (⟨position⟩ : String.Pos.Raw).IsValid text then
    some (text.sliceTo (text.pos ⟨position⟩ h)).copy
  else none

theorem sliceFrom?_append (before behind : String) :
    sliceFrom? (before ++ behind) before.utf8ByteSize = some behind := by
  rw [sliceFrom?, dif_pos (isValid_append before behind), Option.some.injEq,
    String.copy_sliceFrom_eq_iff_exists_splits]
  exact ⟨before, rfl, rfl⟩

theorem sliceTo?_append (before behind : String) :
    sliceTo? (before ++ behind) before.utf8ByteSize = some before := by
  rw [sliceTo?, dif_pos (isValid_append before behind), Option.some.injEq,
    String.copy_sliceTo_eq_iff_exists_splits]
  exact ⟨behind, rfl, rfl⟩

/-- The text behind a position is its rest. -/
theorem At.sliceFrom?_eq (h : At source position s) :
    sliceFrom? source position = some (String.ofList s) := by
  obtain ⟨before, rfl, rfl⟩ := h.exists_append
  exact sliceFrom?_append before _

/-- Within a character and beyond the end there is no slice. -/
example : sliceFrom? "é!" 1 = none ∧ sliceFrom? "é!" 2 = some "!" ∧ sliceFrom? "é!" 4 = none := by
  decide

end DeclGen.Native
