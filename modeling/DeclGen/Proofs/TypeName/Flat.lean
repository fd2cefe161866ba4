import DeclGen.Proofs.Text.Parts
import DeclGen.Text.Letter
import DeclGen.TypeName.Printer

/-!
# DeclGen.Proofs.TypeName.Flat

Plain types, and unions without unions directly inside them.

* `Plain` says what names and unions a type is made of; it is a property of each
  of its nodes.
* `flat` puts the variants of a union that is a variant itself in the place of
  this union.  A plain type becomes normal by that (`normal_flat`), and its text
  stays the same (`text_flat`).
-/

namespace DeclGen.TypeName

open Text

/-! ## nodes -/

mutual

/-- The types that occur in a type, itself included. -/
def nodes : TypeName → List TypeName
  | named name arguments => named name arguments :: nodesAll arguments
  | array element => array element :: element.nodes
  | tuple items => tuple items :: nodesAll items
  | dictionary key value => dictionary key value :: (key.nodes ++ value.nodes)
  | union variants => union variants :: nodesAll variants

/-- The types that occur in several types. -/
def nodesAll : List TypeName → List TypeName
  | [] => []
  | t :: ts => t.nodes ++ nodesAll ts

end

/-- The types right below a type. -/
def children : TypeName → List TypeName
  | named _ arguments => arguments
  | array element => [element]
  | tuple items => items
  | dictionary key value => [key, value]
  | union variants => variants

/-- What occurs in several types occurs in one of them. -/
theorem mem_nodesAll {ts : List TypeName} {u : TypeName} :
    u ∈ nodesAll ts ↔ ∃ t ∈ ts, u ∈ t.nodes := by
  induction ts with
  | nil => simp [nodesAll]
  | cons t ts ih => simp [nodesAll, ih]

/-- A property of all nodes is one of the type and of all nodes below it. -/
theorem forall_nodes {t : TypeName} {p : TypeName → Prop} :
    (∀ u ∈ t.nodes, p u) ↔ p t ∧ ∀ c ∈ t.children, ∀ u ∈ c.nodes, p u := by
  have hmem : ∀ u, u ∈ t.nodes ↔ u = t ∨ ∃ c ∈ t.children, u ∈ c.nodes := by
    cases t <;> simp [nodes, children, mem_nodesAll]
  simp only [hmem]
  constructor
  · intro h
    exact ⟨h t (.inl rfl), fun c hc u hu => h u (.inr ⟨c, hc, hu⟩)⟩
  · rintro ⟨hself, hbelow⟩ u (rfl | ⟨c, hc, hu⟩)
    · exact hself
    · exact hbelow c hc u hu

/-- What holds of a type whenever it holds of all types right below it holds of
every type. -/
@[elab_as_elim]
theorem induction_children {p : TypeName → Prop}
    (step : ∀ t, (∀ c ∈ t.children, p c) → p t) (t : TypeName) : p t := by
  refine TypeName.rec (motive_1 := p) (motive_2 := fun ts => ∀ c ∈ ts, p c)
    (fun name arguments ih => step (named name arguments) ih) ?_
    (fun items ih => step (tuple items) ih) ?_ (fun variants ih => step (union variants) ih)
    (by simp) (fun t ts ht hts => List.forall_mem_cons.mpr ⟨ht, hts⟩) t
  · intro element ih
    exact step (array element) (by simpa [children] using ih)
  · intro key value hkey hvalue
    exact step (dictionary key value) (by simpa [children] using ⟨hkey, hvalue⟩)

/-! ## plain types -/

/-- The characters of plain names. -/
def isNameChar (c : Char) : Bool := isAlphanumeric c || c == '_' || c == '.'

/-- A type as it should be at a node: a name is a run of letters, numbers, `_`
and `.`, and a union has two variants at least. -/
def PlainNode : TypeName → Prop
  | named name _ => IsRun isNameChar name.toList
  | union variants => 2 ≤ variants.length
  | _ => True

instance : DecidablePred PlainNode
  | named name _ => inferInstanceAs (Decidable (IsRun isNameChar name.toList))
  | union variants => inferInstanceAs (Decidable (2 ≤ variants.length))
  | array _ | tuple _ | dictionary _ _ => inferInstanceAs (Decidable True)

/-- All names in a type are plain, and all unions have two variants at least. -/
def Plain (t : TypeName) : Prop := ∀ u ∈ t.nodes, u.PlainNode

instance : DecidablePred Plain := fun t =>
  inferInstanceAs (Decidable (∀ u ∈ t.nodes, u.PlainNode))

/-- A type is plain if it is one at its node, and all types right below it are. -/
theorem plain_iff {t : TypeName} : t.Plain ↔ t.PlainNode ∧ ∀ c ∈ t.children, c.Plain :=
  forall_nodes

/-! ## flattening -/

/-- The variants that a type has in a union: those of a union, or the type
itself. -/
def variants : TypeName → List TypeName
  | union ts => ts
  | t => [t]

mutual

/-- The type with the variants of each union that stands directly inside a union
in the place of this union. -/
def flat : TypeName → TypeName
  | named name arguments => named name (flatAll arguments)
  | array element => array element.flat
  | tuple items => tuple (flatAll items)
  | dictionary key value => dictionary key.flat value.flat
  | union ts => union (flatVariants ts)

/-- Several types, each flattened. -/
def flatAll : List TypeName → List TypeName
  | [] => []
  | t :: ts => t.flat :: flatAll ts

/-- The variants of several types, each flattened. -/
def flatVariants : List TypeName → List TypeName
  | [] => []
  | t :: ts => t.flat.variants ++ flatVariants ts

end

theorem flatAll_eq_map (ts : List TypeName) : flatAll ts = ts.map flat := by
  induction ts with
  | nil => rfl
  | cons t ts ih => rw [flatAll, ih, List.map_cons]

theorem flatVariants_eq_flatMap (ts : List TypeName) :
    flatVariants ts = ts.flatMap fun t => t.flat.variants := by
  induction ts with
  | nil => rfl
  | cons t ts ih => rw [flatVariants, ih, List.flatMap_cons]

/-- Whether a type is a union. -/
def isUnion : TypeName → Bool
  | union _ => true
  | _ => false

/-- What is no union is its only variant. -/
theorem variants_eq_singleton {t : TypeName} (h : t.isUnion = false) : t.variants = [t] := by
  cases t <;> first | rfl | contradiction

/-- A type as it is at a node after flattening: a plain one, and no variant is a
union. -/
def NormalNode (t : TypeName) : Prop :=
  t.PlainNode ∧ (t.isUnion = true → ∀ v ∈ t.variants, v.isUnion = false)

/-- A plain type without a union directly inside a union. -/
def Normal (t : TypeName) : Prop := ∀ u ∈ t.nodes, u.NormalNode

/-- A type is normal if it is so at its node, and all types right below it are. -/
theorem normal_iff {t : TypeName} : t.Normal ↔ t.NormalNode ∧ ∀ c ∈ t.children, c.Normal :=
  forall_nodes

/-- A plain type that is no union is normal if all types right below it are. -/
theorem normal_of_not_union {t : TypeName} (hunion : t.isUnion = false) (hnode : t.PlainNode)
    (hbelow : ∀ c ∈ t.children, c.Normal) : t.Normal := by
  have hno : ¬ t.isUnion = true := by rw [hunion]; exact Bool.false_ne_true
  exact normal_iff.mpr ⟨⟨hnode, fun h => absurd h hno⟩, hbelow⟩

/-- The variants of a normal type are normal and no unions. -/
theorem Normal.of_mem_variants {t v : TypeName} (h : t.Normal) (hv : v ∈ t.variants) :
    v.Normal ∧ v.isUnion = false := by
  cases ht : t.isUnion with
  | false =>
      rw [variants_eq_singleton ht, List.mem_singleton] at hv
      rw [hv]
      exact ⟨h, ht⟩
  | true =>
      obtain ⟨hnode, hbelow⟩ := normal_iff.mp h
      cases t with
      | union ts => exact ⟨hbelow v hv, hnode.2 rfl v hv⟩
      | _ => contradiction

/-- A normal type has a variant. -/
theorem Normal.variants_ne_nil {t : TypeName} (h : t.Normal) : t.variants ≠ [] := by
  cases ht : t.isUnion with
  | false => rw [variants_eq_singleton ht]; simp
  | true =>
      cases t with
      | union ts =>
          have hlength : 2 ≤ ts.length := (normal_iff.mp h).1.1
          exact List.ne_nil_of_length_pos (Nat.lt_of_lt_of_le Nat.zero_lt_two hlength)
      | _ => contradiction

/-- So many types have as many variants at least. -/
theorem length_le_length_flatMap_variants {ts : List TypeName} (h : ∀ t ∈ ts, t.Normal) :
    ts.length ≤ (ts.flatMap variants).length := by
  induction ts with
  | nil => simp
  | cons t ts ih =>
      obtain ⟨ht, hts⟩ := List.forall_mem_cons.mp h
      have hpos := List.length_pos_iff.mpr ht.variants_ne_nil
      have hrest := ih hts
      rw [List.flatMap_cons, List.length_append, List.length_cons]
      omega

/-- The variants of normal types, two at least, make a normal union. -/
theorem normal_union_flatMap {us : List TypeName} (hlength : 2 ≤ us.length)
    (h : ∀ u ∈ us, u.Normal) : (union (us.flatMap variants)).Normal := by
  have hvariants : ∀ v ∈ us.flatMap variants, v.Normal ∧ v.isUnion = false := by
    intro v hv
    obtain ⟨u, hu, hv⟩ := List.mem_flatMap.mp hv
    exact (h u hu).of_mem_variants hv
  have htwo : 2 ≤ (us.flatMap variants).length :=
    Nat.le_trans hlength (length_le_length_flatMap_variants h)
  exact normal_iff.mpr
    ⟨⟨htwo, fun _ v hv => (hvariants v hv).2⟩, fun v hv => (hvariants v hv).1⟩

/-- A plain type is normal after flattening. -/
theorem normal_flat {t : TypeName} (h : t.Plain) : t.flat.Normal := by
  induction t using induction_children with
  | step t ih =>
    obtain ⟨hnode, hbelow⟩ := plain_iff.mp h
    have hflat : ∀ c ∈ t.children, c.flat.Normal := fun c hc => ih c hc (hbelow c hc)
    cases t with
    | named name arguments =>
        rw [flat, flatAll_eq_map]
        exact normal_of_not_union rfl hnode (by simpa [children] using hflat)
    | array element =>
        exact normal_of_not_union rfl trivial (by simpa [flat, children] using hflat)
    | tuple items =>
        rw [flat, flatAll_eq_map]
        exact normal_of_not_union rfl trivial (by simpa [children] using hflat)
    | dictionary key value =>
        exact normal_of_not_union rfl trivial (by simpa [flat, children] using hflat)
    | union ts =>
        have hmap : ∀ u ∈ ts.map flat, u.Normal := by simpa [children] using hflat
        have hlength : 2 ≤ (ts.map flat).length := by rwa [List.length_map]
        rw [flat, flatVariants_eq_flatMap, ← List.flatMap_map]
        exact normal_union_flatMap hlength hmap

/-! ## texts -/

theorem textAll_eq_intercalate (sep : List Char) (ts : List TypeName) :
    textAll sep ts = sep.intercalate (ts.map text) := by
  induction ts with
  | nil => rfl
  | cons t ts ih =>
      cases ts with
      | nil => exact List.intercalate_singleton.symm
      | cons u ts =>
          rw [textAll, ih]
          exact List.intercalate_cons_cons.symm

/-- The text of type arguments in angle brackets, if there are any. -/
def argumentsText : List TypeName → List Char
  | [] => []
  | t :: ts => '<' :: (List.intercalate ", ".toList ((t :: ts).map text) ++ ['>'])

theorem text_named (name : String) (arguments : List TypeName) :
    (named name arguments).text = name.toList ++ argumentsText arguments := by
  cases arguments with
  | nil => exact (List.append_nil name.toList).symm
  | cons t ts =>
      rw [argumentsText, ← textAll_eq_intercalate]
      rfl

theorem text_array (element : TypeName) :
    (array element).text = parenthesise element.isLoose element.text ++ ['[', ']'] := rfl

theorem text_tuple (items : List TypeName) :
    (tuple items).text = '[' :: (List.intercalate ", ".toList (items.map text) ++ [']']) := by
  rw [← textAll_eq_intercalate]
  rfl

theorem text_dictionary (key value : TypeName) :
    (dictionary key value).text = "\x7b [key: ".toList ++
      (key.text ++ ("]: ".toList ++ (value.text ++ " \x7d".toList))) := by
  show "\x7b [key: ".toList ++ key.text ++ "]: ".toList ++ value.text ++ " \x7d".toList = _
  rw [List.append_assoc, List.append_assoc, List.append_assoc]

theorem text_union (ts : List TypeName) :
    (union ts).text = List.intercalate " | ".toList (ts.map text) := by
  rw [← textAll_eq_intercalate]
  rfl

/-- The text of a type is that of its variants. -/
theorem text_eq_intercalate_variants (t : TypeName) :
    t.text = List.intercalate " | ".toList (t.variants.map text) := by
  cases t with
  | union ts => exact text_union ts
  | _ => exact List.intercalate_singleton.symm

/-- A union of two variants at least is parenthesised as an element. -/
theorem isLoose_union {ts : List TypeName} (h : 2 ≤ ts.length) : (union ts).isLoose = true := by
  match ts, h with
  | _ :: _ :: _, _ => rfl

/-- A type is parenthesised as an element after flattening if it was before. -/
theorem isLoose_flat {t : TypeName} (h : t.Plain) : t.flat.isLoose = t.isLoose := by
  cases t with
  | union ts =>
      have hflat := (normal_iff.mp (normal_flat h)).1.1
      rw [flat] at hflat ⊢
      rw [isLoose_union hflat, isLoose_union (plain_iff.mp h).1]
  | _ => rfl

/-- The variants of several types, all joined, have the texts of the types,
joined. -/
theorem intercalate_flatVariants (ts : List TypeName) (h : ∀ t ∈ ts, t.flat.variants ≠ []) :
    List.intercalate " | ".toList ((flatVariants ts).map text) =
      List.intercalate " | ".toList (ts.map fun t => t.flat.text) := by
  have hflatten : (flatVariants ts).map text =
      (ts.map fun t => t.flat.variants.map text).flatten := by
    rw [flatVariants_eq_flatMap, List.map_flatMap, List.flatMap_def]
  have hne : ∀ l ∈ ts.map (fun t => t.flat.variants.map text), l ≠ [] := by
    simpa using h
  rw [hflatten, intercalate_flatten hne, List.map_map]
  exact congrArg _ (List.map_congr_left fun t _ => (text_eq_intercalate_variants t.flat).symm)

/-- Flattening keeps the text. -/
theorem text_flat {t : TypeName} (h : t.Plain) : t.flat.text = t.text := by
  induction t using induction_children with
  | step t ih =>
    obtain ⟨-, hbelow⟩ := plain_iff.mp h
    have htext : ∀ c ∈ t.children, c.flat.text = c.text := fun c hc => ih c hc (hbelow c hc)
    have hmap : (t.children.map flat).map text = t.children.map text := by
      rw [List.map_map]
      exact List.map_congr_left htext
    cases t with
    | named name arguments =>
        rw [flat, flatAll_eq_map, text_named, text_named]
        cases arguments with
        | nil => rfl
        | cons t ts =>
            rw [children] at hmap
            rw [argumentsText, ← hmap]
            rfl
    | array element =>
        obtain ⟨helement, -⟩ := List.forall_mem_cons.mp hbelow
        rw [flat, text_array, text_array, htext element List.mem_cons_self,
          isLoose_flat helement]
    | tuple items =>
        rw [children] at hmap
        rw [flat, flatAll_eq_map, text_tuple, text_tuple, hmap]
    | dictionary key value =>
        rw [flat, text_dictionary, text_dictionary, htext key (by simp [children]),
          htext value (by simp [children])]
    | union ts =>
        rw [flat, text_union, text_union,
          intercalate_flatVariants ts fun t ht => (normal_flat (hbelow t ht)).variants_ne_nil]
        exact congrArg _ (List.map_congr_left htext)

end DeclGen.TypeName
