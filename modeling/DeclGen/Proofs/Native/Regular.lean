import DeclGen.Proofs.Native.Sound

/-!
# DeclGen.Proofs.Native.Regular

The native types that the parser can give.

* `Regular` says of one node what holds of every node of a parsed type: a path
  is made of words, its last name is not reserved, and a tuple has an item;
* `regularWithin_meaning`: a tree nested so deep means a type of regular nodes
  that is no higher.
-/

namespace DeclGen.Native

open Text

/-! ## nodes -/

mutual

/-- The types that occur in a type, itself included. -/
def nodes : Native → List Native
  | primitive kind => [primitive kind]
  | named path arguments => named path arguments :: nodesAll arguments
  | sequence element => sequence element :: element.nodes
  | array element length => array element length :: element.nodes
  | map key value => map key value :: (key.nodes ++ value.nodes)
  | optional inner => optional inner :: inner.nodes
  | tuple items => tuple items :: nodesAll items

/-- The types that occur in several types. -/
def nodesAll : List Native → List Native
  | [] => []
  | t :: ts => t.nodes ++ nodesAll ts

end

/-- The types right below a type. -/
def children : Native → List Native
  | primitive _ => []
  | named _ arguments => arguments
  | sequence element => [element]
  | array element _ => [element]
  | map key value => [key, value]
  | optional inner => [inner]
  | tuple items => items

/-- What occurs in several types occurs in one of them. -/
theorem mem_nodesAll {ts : List Native} {u : Native} :
    u ∈ nodesAll ts ↔ ∃ t ∈ ts, u ∈ t.nodes := by
  induction ts with
  | nil => simp [nodesAll]
  | cons t ts ih => simp [nodesAll, ih]

/-- What occurs in a type is the type or occurs right below it. -/
theorem mem_nodes (t : Native) {u : Native} :
    u ∈ t.nodes ↔ u = t ∨ ∃ c ∈ t.children, u ∈ c.nodes := by
  cases t <;> simp [nodes, children, mem_nodesAll]

/-- A property of all nodes is one of the type and of all nodes below it. -/
theorem forall_nodes {t : Native} {p : Native → Prop} :
    (∀ u ∈ t.nodes, p u) ↔ p t ∧ ∀ c ∈ t.children, ∀ u ∈ c.nodes, p u := by
  simp only [t.mem_nodes]
  constructor
  · intro h
    exact ⟨h t (.inl rfl), fun c hc u hu => h u (.inr ⟨c, hc, hu⟩)⟩
  · rintro ⟨hself, hbelow⟩ u (rfl | ⟨c, hc, hu⟩)
    · exact hself
    · exact hbelow c hc u hu

/-- What holds of a type whenever it holds of all types right below it holds of
every type. -/
@[elab_as_elim]
theorem induction_children {p : Native → Prop}
    (step : ∀ t, (∀ c ∈ t.children, p c) → p t) (t : Native) : p t := by
  refine Native.rec (motive_1 := p) (motive_2 := fun ts => ∀ c ∈ ts, p c)
    (fun kind => step (primitive kind) (by simp [children]))
    (fun path arguments ih => step (named path arguments) ih) ?_ ?_ ?_ ?_
    (fun items ih => step (tuple items) ih)
    (by simp) (fun t ts ht hts => List.forall_mem_cons.mpr ⟨ht, hts⟩) t
  · intro element ih
    exact step (sequence element) (by simpa [children] using ih)
  · intro element length ih
    exact step (array element length) (by simpa [children] using ih)
  · intro key value hkey hvalue
    exact step (map key value) (by simpa [children] using ⟨hkey, hvalue⟩)
  · intro inner ih
    exact step (optional inner) (by simpa [children] using ih)

/-- Several types are no higher than each of them. -/
theorem heightAll_le {ts : List Native} {n : Nat} :
    heightAll ts ≤ n ↔ ∀ t ∈ ts, t.height ≤ n := by
  induction ts with
  | nil => simp [heightAll]
  | cons t ts ih => rw [heightAll, Nat.max_le, ih, List.forall_mem_cons]

/-- A type is one level higher than what is right below it. -/
theorem height_le_succ {t : Native} {n : Nat} :
    t.height ≤ n + 1 ↔ ∀ c ∈ t.children, c.height ≤ n := by
  cases t with
  | map key value =>
      rw [height, children, Nat.add_le_add_iff_right, Nat.max_le, List.forall_mem_cons,
        List.forall_mem_singleton]
  | _ => simp [height, children, heightAll_le]

/-! ## regular types -/

/-- A path is made of words with `::` between each two. -/
def IsPath (path : String) : Prop := ∃ first more, path = pathText first more

/-- A path starts with a letter or `_`. -/
def StartsPath (path : String) : Prop :=
  ∃ c r, path.toList = c :: r ∧ (isAlphabetic c || c == '_') = true

/-- What holds of every node of a parsed type. -/
def Regular : Native → Prop
  | named path arguments =>
    IsPath path ∧ Native.lastSegment path ∉ reserved arguments.length
  | tuple items => items ≠ []
  | _ => True

/-- All nodes are regular, and there are so many levels at most. -/
def RegularWithin (n : Nat) (t : Native) : Prop := (∀ u ∈ t.nodes, u.Regular) ∧ t.height ≤ n

/-- A type is regular if it and what is right below it are. -/
theorem regularWithin_succ {n : Nat} {t : Native} :
    t.RegularWithin (n + 1) ↔ t.Regular ∧ ∀ c ∈ t.children, c.RegularWithin n := by
  rw [RegularWithin, height_le_succ, forall_nodes]
  constructor
  · rintro ⟨⟨hself, hbelow⟩, hheight⟩
    exact ⟨hself, fun c hc => ⟨hbelow c hc, hheight c hc⟩⟩
  · rintro ⟨hself, hbelow⟩
    exact ⟨⟨hself, fun c hc => (hbelow c hc).1⟩, fun c hc => (hbelow c hc).2⟩

/-- More levels do no harm. -/
theorem RegularWithin.succ {n : Nat} {t : Native} (h : t.RegularWithin n) :
    t.RegularWithin (n + 1) := ⟨h.1, Nat.le_succ_of_le h.2⟩

/-- What a path means is regular if its arguments are. -/
theorem regularWithin_ofName {n : Nat} {first : Word} {more : List Word}
    {arguments : List Native} (h : ∀ t ∈ arguments, t.RegularWithin n) :
    (ofName (lastName first more) (pathText first more) arguments).RegularWithin (n + 1) := by
  rcases ofName_cases (lastName first more) (pathText first more) arguments with
    ⟨hfree, hname⟩ | ⟨kind, hname⟩ | ⟨t, ht, hname | hname | hname⟩ | ⟨k, v, rfl, hname⟩
  · rw [hname, regularWithin_succ]
    refine ⟨⟨⟨first, more, rfl⟩, ?_⟩, h⟩
    rw [lastSegment_pathText]
    exact hfree
  · rw [hname, regularWithin_succ]
    exact ⟨trivial, by simp [children]⟩
  · rw [hname]
    exact (h t ht).succ
  · rw [hname, regularWithin_succ]
    exact ⟨trivial, by simpa [children] using h t ht⟩
  · rw [hname, regularWithin_succ]
    exact ⟨trivial, by simpa [children] using h t ht⟩
  · rw [hname, regularWithin_succ]
    exact ⟨trivial, h⟩

/-- A tuple of regular items is regular if it has any. -/
theorem regularWithin_tuple {n : Nat} {ts : List Native} (hne : ts ≠ [])
    (h : ∀ t ∈ ts, t.RegularWithin n) : (tuple ts).RegularWithin (n + 1) :=
  regularWithin_succ.mpr ⟨hne, h⟩

/-- What parentheses can mean. -/
theorem ofItems_cases (ts : List Native) (comma : Bool) :
    ofItems (ts, comma) = primitive .unit ∨ (∃ t ∈ ts, ofItems (ts, comma) = t) ∨
      (ts ≠ [] ∧ ofItems (ts, comma) = tuple ts) := by
  rcases ts with _ | ⟨t, _ | ⟨u, rest⟩⟩
  · exact .inl rfl
  · cases comma with
    | false => exact .inr (.inl ⟨t, by simp, rfl⟩)
    | true => exact .inr (.inr ⟨by simp, rfl⟩)
  · exact .inr (.inr ⟨by simp, rfl⟩)

/-- A tree means a regular type that is no higher than the tree is nested. -/
theorem regularWithin_meaning {n : Nat} {tree : Tree} (h : tree.nesting ≤ n) :
    tree.meaning.RegularWithin n := by
  induction n generalizing tree with
  | zero => exact absurd tree.nesting_pos (Nat.not_lt.mpr h)
  | succ n ih =>
      have hbelow : ∀ t ∈ tree.children.map Tree.meaning, t.RegularWithin n := by
        simp only [List.forall_mem_map]
        exact fun t ht => ih (Tree.nesting_le_succ.mp h t ht)
      cases tree with
      | reference lifetime mutable inner =>
          have hinner := hbelow inner.meaning (by simp [Tree.children])
          exact hinner.succ
      | tuple items comma =>
          rw [Tree.children] at hbelow
          rw [Tree.meaning_tuple]
          rcases ofItems_cases (items.map Tree.meaning) (comma && !items.isEmpty) with
            hunit | ⟨t, ht, hone⟩ | ⟨hne, hmany⟩
          · rw [hunit, regularWithin_succ]
            exact ⟨trivial, by simp [children]⟩
          · rw [hone]
            exact (hbelow t ht).succ
          · rw [hmany]
            exact regularWithin_tuple hne hbelow
      | sequence element =>
          rw [Tree.meaning, regularWithin_succ]
          exact ⟨trivial, by simpa [children, Tree.children] using hbelow⟩
      | array element length =>
          rw [Tree.meaning, regularWithin_succ]
          exact ⟨trivial, by simpa [children, Tree.children] using hbelow⟩
      | path rooted first more arguments comma =>
          rw [Tree.meaning, Arguments.meanings_eq_map]
          exact regularWithin_ofName hbelow

/-- A type that is read within so many levels is regular and has no more. -/
theorem regularWithin_of_stands {n : Nat} {tree : Tree} {s r : List Char} {t : Native}
    (h : Tree.Stands (Tree.Fits n) tree s t r) : t.RegularWithin n := by
  rw [← h.meaning]
  exact regularWithin_meaning h.fits.1

/-- A parsed type is regular, and it has 64 levels at most. -/
theorem regularWithin_of_parse {source : String} {t : Native} (h : parse source = .ok t) :
    t.RegularWithin maxNesting := by
  obtain ⟨tree, r, htree, -⟩ := stands_of_parseChars (parse_eq_ok.mp h)
  exact regularWithin_of_stands htree

end DeclGen.Native
