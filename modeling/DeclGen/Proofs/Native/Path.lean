import DeclGen.Proofs.Native.Grammar

/-!
# DeclGen.Proofs.Native.Path

The last name of a path decides what the path means.

* `lastSegment_pathText`: the last segment of a path's text is its last name,
  since no name contains a colon;
* `reserved`: the names that a path with so many arguments cannot end in and
  still be a named type, with both directions of that.
-/

namespace DeclGen.Native

open Text

/-! ## the last name -/

/-- No identifier contains a character of another kind. -/
theorem not_mem_chars {c : Char} (h : isIdentifierChar c = false) (w : Word) : c ∉ w.chars := by
  have hfirst : isIdentifierChar w.first = true := (Bool.and_eq_true_iff.mp w.starts).1
  intro hmem
  rcases List.mem_cons.mp hmem with hc | hc
  · rw [← hc, h] at hfirst; contradiction
  · rw [w.continues _ hc] at h; contradiction

/-- No identifier contains a colon. -/
theorem colon_not_mem_chars (w : Word) : ':' ∉ w.chars := not_mem_chars (by decide) w

/-- Without a colon there is no separator to be found. -/
theorem afterLast?_eq_none {s : List Char} (h : ':' ∉ s) : afterLast? [':', ':'] s = none := by
  induction s with
  | nil => rfl
  | cons c r ih =>
      have hc : ':' ≠ c := fun hc => h (hc ▸ List.mem_cons_self)
      have hr : ':' ∉ r := fun hr => h (List.mem_cons_of_mem c hr)
      simp [afterLast?, ih hr, List.isPrefixOf, hc]

/-- What follows the last separator of an end follows the last of the whole. -/
theorem afterLast?_append {sep s t tail : List Char} (h : afterLast? sep t = some tail) :
    afterLast? sep (s ++ t) = some tail := by
  induction s with
  | nil => exact h
  | cons c r ih => simp [afterLast?, ih]

/-- A separator is the last one if only a word follows it. -/
theorem afterLast?_scope (w : Word) :
    afterLast? [':', ':'] (':' :: ':' :: w.chars) = some w.chars := by
  have hw := colon_not_mem_chars w
  have hfirst : ':' ≠ w.first := fun h => hw (h ▸ List.mem_cons_self)
  have hnone : afterLast? [':', ':'] (w.first :: w.others) = none := afterLast?_eq_none hw
  rw [afterLast?, afterLast?, Word.chars, hnone]
  simp [List.isPrefixOf, hfirst]

/-- The last separator of a path stands before its last name. -/
theorem afterLast?_intercalate (w : Word) (more : List Word) :
    afterLast? [':', ':']
        (':' :: ':' :: List.intercalate [':', ':'] (w.chars :: more.map Word.chars)) =
      some (more.getLastD w).chars := by
  induction more generalizing w with
  | nil => simpa using afterLast?_scope w
  | cons v more ih =>
      have hsplit :
          ':' :: ':' :: List.intercalate [':', ':'] (w.chars :: (v :: more).map Word.chars) =
            (':' :: ':' :: w.chars) ++
              (':' :: ':' :: List.intercalate [':', ':'] (v.chars :: more.map Word.chars)) := by
        simp
      rw [hsplit, List.getLastD_cons]
      exact afterLast?_append (ih v)

/-- The last segment of a path's text is its last name. -/
theorem lastSegment_pathText (first : Word) (more : List Word) :
    Native.lastSegment (pathText first more) = lastName first more := by
  rw [Native.lastSegment, pathText, lastName, String.toList_ofList, Text.lastSegment]
  cases more with
  | nil => simp [afterLast?_eq_none (colon_not_mem_chars first)]
  | cons v more =>
      have hsplit : List.intercalate [':', ':'] (first.chars :: (v :: more).map Word.chars) =
          first.chars ++
            (':' :: ':' :: List.intercalate [':', ':'] (v.chars :: more.map Word.chars)) := by
        simp
      rw [hsplit, afterLast?_append (afterLast?_intercalate v more), List.getLastD_cons]
      rfl

/-! ## the meaning of a path -/

/-- A path means what its last segment says. -/
theorem ofPath_eq_ofName (path : String) (arguments : List Native) :
    ofPath path arguments = ofName (Native.lastSegment path) path arguments := by
  match arguments with
  | [] => rfl
  | [t] => simp [ofPath, ofName, sequenceNames, pointerNames]
  | [k, v] => simp [ofPath, ofName, mapNames]
  | _ :: _ :: _ :: _ => rfl

/-- A path means what its last name says. -/
theorem ofPath_pathText (first : Word) (more : List Word) (arguments : List Native) :
    ofPath (pathText first more) arguments =
      ofName (lastName first more) (pathText first more) arguments := by
  rw [ofPath_eq_ofName, lastSegment_pathText]

/-! ## reserved names -/

/-- The names that mean something else than a named type when they stand last
in a path with so many arguments. -/
def reserved : Nat → List String
  | 0 => Primitive.identifiers.map Prod.fst
  | 1 => sequenceNames ++ "Option" :: pointerNames
  | 2 => mapNames
  | _ => []

/-- A scalar is found exactly under the names of scalars. -/
theorem ofIdentifier?_eq_none {name : String} :
    Primitive.ofIdentifier? name = none ↔ name ∉ reserved 0 := by
  rw [Primitive.ofIdentifier?, List.lookup_eq_none_iff, reserved]
  constructor
  · intro h hm
    obtain ⟨p, hp, rfl⟩ := List.mem_map.mp hm
    simpa using h p hp
  · intro h p hp
    have hne : name ≠ p.1 := fun he => h (he ▸ List.mem_map_of_mem hp)
    simpa using hne

/-- A path whose last name is not reserved is a named type. -/
theorem ofName_eq_named {name path : String} {arguments : List Native}
    (h : name ∉ reserved arguments.length) : ofName name path arguments = named path arguments := by
  match arguments, h with
  | [], h => simp [ofName, ofIdentifier?_eq_none.mpr h]
  | [t], h =>
      simp only [reserved, List.length_singleton, List.mem_append, List.mem_cons, not_or] at h
      simp [ofName, h.1, h.2.1, h.2.2]
  | [k, v], h =>
      have hmap : name ∉ mapNames := h
      simp [ofName, hmap]
  | _ :: _ :: _ :: _, _ => rfl

/-- What a path can mean. -/
theorem ofName_cases (name path : String) (arguments : List Native) :
    (name ∉ reserved arguments.length ∧ ofName name path arguments = named path arguments) ∨
    (∃ kind, ofName name path arguments = primitive kind) ∨
    (∃ t ∈ arguments, ofName name path arguments = t ∨ ofName name path arguments = sequence t ∨
      ofName name path arguments = optional t) ∨
    (∃ k v, arguments = [k, v] ∧ ofName name path arguments = map k v) := by
  by_cases h : name ∈ reserved arguments.length
  · right
    match arguments, h with
    | [], h =>
        cases hk : Primitive.ofIdentifier? name with
        | none => exact absurd h (ofIdentifier?_eq_none.mp hk)
        | some kind => exact .inl ⟨kind, by simp [ofName, hk]⟩
    | [t], h =>
        simp only [reserved, List.length_singleton, List.mem_append, List.mem_cons] at h
        refine .inr (.inl ⟨t, by simp, ?_⟩)
        rcases h with hseq | hopt | hptr
        · simp [ofName, hseq]
        · simp [ofName, hopt, sequenceNames]
        · by_cases hseq : name ∈ sequenceNames
          · simp [ofName, hseq]
          · by_cases hopt : name = "Option"
            · simp [ofName, hopt, sequenceNames]
            · simp [ofName, hseq, hopt, hptr]
    | [k, v], h =>
        have hmap : name ∈ mapNames := h
        exact .inr (.inr ⟨k, v, rfl, by simp [ofName, hmap]⟩)
    | _ :: _ :: _ :: _, h => simp [reserved] at h
  · exact .inl ⟨h, ofName_eq_named h⟩

end DeclGen.Native
