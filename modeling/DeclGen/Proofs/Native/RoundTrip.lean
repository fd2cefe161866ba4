import DeclGen.Proofs.Native.Printed

/-!
# DeclGen.Proofs.Native.RoundTrip

Printing a native type and parsing its text.

1. The text of a type with regular nodes is parsed to this type or to nothing;
   it is parsed if the type is low enough and its paths start as paths can
   start (`parse_toString_eq_ok`).
2. Hence a parsed type survives unless one of its paths starts with a number
   that is no letter, which takes a leading `::` in the source to come about.
3. Only parsed types can survive, and those are regular; so the canonical types
   are all that do.
-/

namespace DeclGen.Native

/-- The text of a type with regular nodes is parsed to the type or to nothing. -/
theorem parse_toString_eq_ok {n : Nat} {t u : Native} (h : t.RegularWithin n) :
    parse (toString t) = .ok u ↔
      u = t ∧ t.height ≤ maxNesting ∧ ∀ v ∈ t.nodes, v.StartsHere := by
  obtain ⟨tree, htree⟩ := exists_prints h
  have hspells : Spells tree.tokens (toString t).toList [] := by
    have htext : (toString t).toList = t.text := String.toList_ofList
    simpa [htext] using htree.spells (r := []) (by simp [Ends])
  rw [parse_eq_ok, parseChars_eq_ok hspells htree.greedy rfl, htree.meaning, Tree.Fits,
    htree.nesting, htree.opens]

/-- Which named types start as a path can start. -/
theorem forall_startsHere {t : Native} :
    (∀ u ∈ t.nodes, u.StartsHere) ↔
      ∀ path arguments, named path arguments ∈ t.nodes → StartsPath path := by
  constructor
  · intro h path arguments hmem
    exact h _ hmem
  · intro h u hu
    cases u with
    | named path arguments => exact h path arguments hu
    | _ => trivial

/-! ## parsed types -/

/-- **Printing a parsed type and parsing it again**: this gives the same type if
every path in it starts with a letter or `_`, and fails otherwise. -/
theorem parse_toString_of_parse {source : String} {t u : Native} (h : parse source = .ok t) :
    parse (toString t) = .ok u ↔
      u = t ∧ ∀ path arguments, named path arguments ∈ t.nodes → StartsPath path := by
  have hregular := regularWithin_of_parse h
  rw [parse_toString_eq_ok hregular, forall_startsHere]
  exact and_congr_right fun _ => and_iff_right hregular.2

/-- A nested type that survives. -/
theorem parse_toString_of_parse_option :
    parse "Vec<Option<geo::Point>>" = .ok (sequence (optional (named "geo::Point" []))) ∧
      parse (toString (sequence (optional (named "geo::Point" [])))) =
        .ok (sequence (optional (named "geo::Point" []))) := by
  have h : parse "Vec<Option<geo::Point>>" =
      .ok (sequence (optional (named "geo::Point" []))) := by rfl
  refine ⟨h, (parse_toString_of_parse h).mpr ⟨rfl, ?_⟩⟩
  intro path arguments hmem
  obtain ⟨rfl, -⟩ : path = "geo::Point" ∧ arguments = [] := by simpa [nodes, nodesAll] using hmem
  exact ⟨'g', "eo::Point".toList, rfl, by decide⟩

set_option maxRecDepth 20000 in
/-- A leading `::` lets a path start with a number; the text of the type does
not have it, and is not a type. -/
theorem not_parse_toString_of_scope :
    parse "::²" = .ok (named "²" []) ∧
      parse (toString (named "²" [])) = .error ⟨0, .unexpectedCharacter '²'⟩ := ⟨by rfl, by rfl⟩

/-! ## canonical types -/

/-- The types that survive printing and parsing. -/
structure Canonical (t : Native) : Prop where
  /-- Paths are made of words, and start with a letter or `_`. -/
  paths : ∀ path arguments, named path arguments ∈ t.nodes → IsPath path ∧ StartsPath path
  /-- No path ends in a name that means something else than a named type. -/
  unreserved : ∀ path arguments, named path arguments ∈ t.nodes →
    Native.lastSegment path ∉ reserved arguments.length
  /-- Tuples have items. -/
  filled : tuple [] ∉ t.nodes
  low : t.height ≤ 64

/-- Canonical types are the regular ones that start as they have to. -/
theorem canonical_iff {t : Native} :
    t.Canonical ↔ t.RegularWithin maxNesting ∧ ∀ u ∈ t.nodes, u.StartsHere := by
  rw [forall_startsHere]
  constructor
  · intro h
    refine ⟨⟨?_, h.low⟩, fun path arguments hmem => (h.paths path arguments hmem).2⟩
    intro u hu
    cases u with
    | named path arguments => exact ⟨(h.paths path arguments hu).1, h.unreserved path arguments hu⟩
    | tuple items => exact fun hnil => h.filled (hnil ▸ hu)
    | _ => trivial
  · rintro ⟨⟨hregular, hheight⟩, hstarts⟩
    exact
      { paths := fun path arguments hmem =>
          ⟨(hregular _ hmem).1, hstarts path arguments hmem⟩
        unreserved := fun _ _ hmem => (hregular _ hmem).2
        filled := fun hmem => hregular _ hmem rfl
        low := hheight }

/-- **Exactly the canonical types survive printing and parsing.** -/
theorem parse_toString_self_iff (t : Native) : parse (toString t) = .ok t ↔ t.Canonical := by
  rw [canonical_iff]
  constructor
  · intro h
    have hregular := regularWithin_of_parse h
    exact ⟨hregular, ((parse_toString_eq_ok hregular).mp h).2.2⟩
  · rintro ⟨hregular, hstarts⟩
    exact (parse_toString_eq_ok hregular).mpr ⟨rfl, hregular.2, hstarts⟩

end DeclGen.Native
