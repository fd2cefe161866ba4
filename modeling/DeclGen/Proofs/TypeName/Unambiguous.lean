import DeclGen.Proofs.Text.Delimited
import DeclGen.Proofs.TypeName.Flat

/-!
# DeclGen.Proofs.TypeName.Unambiguous

Two plain types with the same text are the same type up to flattening.

A type is read from the front.  Its text is the texts of its variants with
` | ` between them, and the text of a variant is that of a stem with brackets
behind it, one pair for each array around the stem (`exists_arrays`).  A stem is
a name with its arguments, a tuple or a dictionary; with brackets behind it, it
may be a union as well, and dictionaries and unions are parenthesised then
(`Stem`).

* `Stem.eq_of_text_eq`: the first character of a stem says which kind of stem it
  is, so only stems of one kind are compared.
* `StemTold`: the text of a stem shows the stem.  There is one lemma for each
  kind of stem.
* `StemTold.arrays`: then the variant shows, with its brackets.
* `told_of_variants`: then the type shows.
* `told`: so every normal type shows, by induction on the types right below it.
-/

namespace DeclGen.TypeName

open Text

/-! ## what may follow -/

/-- Whether a type's text may start with a character. -/
def startsType (c : Char) : Bool := isNameChar c || c == '[' || c == '{' || c == '('

/-- A text that does not go on with a stem, that is, with a name or its arguments. -/
def EndsStem (r : List Char) : Prop := ∀ c ∈ r.head?, isNameChar c = false ∧ c ≠ '<'

/-- A text that does not go on with a variant. -/
def EndsVariant (r : List Char) : Prop := ∀ c ∈ r.head?, startsType c = false ∧ c ≠ '<'

/-- A text that does not go on with a type. -/
def EndsType (r : List Char) : Prop := EndsVariant r ∧ ¬ " | ".toList <+: r

theorem endsStem_cons {c : Char} {r : List Char} (h : isNameChar c = false ∧ c ≠ '<') :
    EndsStem (c :: r) := forall_mem_head?_cons.mpr h

theorem endsVariant_cons {c : Char} {r : List Char} (h : startsType c = false ∧ c ≠ '<') :
    EndsVariant (c :: r) := forall_mem_head?_cons.mpr h

/-- What starts no type and is no space ends a type. -/
theorem endsType_cons {c : Char} {r : List Char}
    (h : (startsType c = false ∧ c ≠ '<') ∧ c ≠ ' ') : EndsType (c :: r) :=
  ⟨endsVariant_cons h.1, fun hp => h.2 (List.cons_prefix_cons.mp hp).1.symm⟩

/-- What starts no type is no part of a name. -/
theorem EndsVariant.endsStem {r : List Char} (h : EndsVariant r) : EndsStem r := by
  intro c hc
  obtain ⟨hstart, hangle⟩ := h c hc
  have hname : isNameChar c = false := by
    simp only [startsType, Bool.or_eq_false_iff] at hstart
    exact hstart.1.1.1
  exact ⟨hname, hangle⟩

/-! ## stems -/

/-- A type as it stands in front of so many pairs of brackets, with the
character that opens its text; a name is opened by none. -/
inductive Stem : Nat → Option Char → TypeName → Prop
  | named (n : Nat) (name : String) (arguments : List TypeName) : Stem n none (named name arguments)
  | tuple (n : Nat) (items : List TypeName) : Stem n (some '[') (tuple items)
  | dictionary (key value : TypeName) : Stem 0 (some '{') (dictionary key value)
  | parenthesised (n : Nat) {t : TypeName} (loose : t.isLoose = true) : Stem (n + 1) (some '(') t

/-- The text of a stem in front of so many pairs of brackets. -/
def stemText (n : Nat) (t : TypeName) : List Char := parenthesise (n != 0 && t.isLoose) t.text

/-- What is never parenthesised is its own stem. -/
theorem stemText_eq_text {n : Nat} {t : TypeName} (h : t.isLoose = false) :
    stemText n t = t.text := by
  rw [stemText, h, Bool.and_false]
  rfl

/-- What is parenthesised as an element is so in front of brackets. -/
theorem stemText_succ {n : Nat} {t : TypeName} (h : t.isLoose = true) :
    stemText (n + 1) t = '(' :: (t.text ++ [')']) := by
  rw [stemText, h]
  rfl

/-- The text of a stem starts with what opens it, or with a character of a name. -/
theorem Stem.head_text {n : Nat} {o : Option Char} {t : TypeName} (h : Stem n o t)
    (ht : t.Normal) : ∃ c u, stemText n t = c :: u ∧
      (o = none ∧ isNameChar c = true ∨ o = some c ∧ isNameChar c = false) := by
  cases h with
  | named n name arguments =>
      obtain ⟨hne, hname⟩ : IsRun isNameChar name.toList := (normal_iff.mp ht).1.1
      obtain ⟨c, u, hc⟩ := List.exists_cons_of_ne_nil hne
      refine ⟨c, u ++ argumentsText arguments, ?_, .inl ⟨rfl, hname c (by simp [hc])⟩⟩
      rw [stemText_eq_text rfl, text_named, hc, List.cons_append]
  | tuple n items =>
      refine ⟨'[', List.intercalate ", ".toList (items.map text) ++ [']'], ?_,
        .inr ⟨rfl, by decide⟩⟩
      rw [stemText_eq_text rfl, text_tuple]
  | dictionary key value => exact ⟨'{', _, text_dictionary key value, .inr ⟨rfl, by decide⟩⟩
  | parenthesised n loose => exact ⟨'(', _, stemText_succ loose, .inr ⟨rfl, by decide⟩⟩

/-- Stems with the same text are opened by the same character. -/
theorem Stem.eq_of_text_eq {n k : Nat} {o o' : Option Char} {a b : TypeName} {r s : List Char}
    (ha : Stem n o a) (hna : a.Normal) (hb : Stem k o' b) (hnb : b.Normal)
    (h : stemText n a ++ r = stemText k b ++ s) : o = o' := by
  obtain ⟨c, u, hc, hopen⟩ := ha.head_text hna
  obtain ⟨d, v, hd, hopen'⟩ := hb.head_text hnb
  rw [hc, hd, List.cons_append, List.cons_append] at h
  obtain ⟨rfl, -⟩ := List.cons.inj h
  rcases hopen with ⟨ho, hname⟩ | ⟨ho, hname⟩ <;> rcases hopen' with ⟨ho', hname'⟩ | ⟨ho', hname'⟩
  · rw [ho, ho']
  · exact absurd (hname.symm.trans hname') (by decide)
  · exact absurd (hname'.symm.trans hname) (by decide)
  · rw [ho, ho']

/-! ## brackets -/

/-- So many pairs of brackets. -/
def brackets (n : Nat) : List Char := (List.replicate n ['[', ']']).flatten

theorem brackets_append (n : Nat) : brackets n ++ ['[', ']'] = brackets (n + 1) := by
  simp [brackets, List.replicate_succ']

/-- The text of nested arrays is that of the stem with the brackets behind it. -/
theorem text_arrays (n : Nat) (t : TypeName) :
    (array^[n] t).text = stemText n t ++ brackets n := by
  induction n with
  | zero => exact (List.append_nil t.text).symm
  | succ n ih =>
      rw [Function.iterate_succ_apply', text_array, ← brackets_append]
      cases n with
      | zero => rfl
      | succ n =>
          have hloose : (array^[n + 1] t).isLoose = false := by
            rw [Function.iterate_succ_apply']
            rfl
          rw [hloose, parenthesise, if_neg Bool.false_ne_true, ih, List.append_assoc]
          rfl

/-- The brackets are counted. -/
theorem brackets_append_inj {n k : Nat} {r s : List Char} (hr : EndsVariant r)
    (hs : EndsVariant s) (h : brackets n ++ r = brackets k ++ s) : n = k ∧ r = s := by
  have hbracket : ∀ {m : Nat} {u v : List Char}, EndsVariant u → u ≠ brackets (m + 1) ++ v := by
    intro m u v hu heq
    have hstart := (hu '[' (by rw [heq]; rfl)).1
    exact absurd hstart (by decide)
  induction n generalizing k with
  | zero =>
      cases k with
      | zero => exact ⟨rfl, h⟩
      | succ k => exact absurd h (hbracket hr)
  | succ n ih =>
      cases k with
      | zero => exact absurd h.symm (hbracket hs)
      | succ k =>
          have htail : brackets n ++ r = brackets k ++ s := by
            simpa [brackets, List.replicate_succ] using h
          obtain ⟨rfl, hrest⟩ := ih htail
          exact ⟨rfl, hrest⟩

/-! ## variants -/

/-- A normal type that may be a variant. -/
def Variant (t : TypeName) : Prop := t.Normal ∧ t.isUnion = false

/-- A normal union is parenthesised as an element. -/
theorem Normal.isLoose {t : TypeName} (h : t.Normal) (hunion : t.isUnion = true) :
    t.isLoose = true := by
  cases t with
  | union ts => exact isLoose_union (normal_iff.mp h).1.1
  | _ => contradiction

/-- Brackets may stand in front of further ones, if a stem is not parenthesised
for them only. -/
theorem Stem.succ {n : Nat} {o : Option Char} {t : TypeName} (h : Stem n o t)
    (hloose : (array^[n] t).isLoose = false) : Stem (n + 1) o t := by
  cases h with
  | named n name arguments => exact .named (n + 1) name arguments
  | tuple n items => exact .tuple (n + 1) items
  | dictionary key value => contradiction
  | parenthesised n loose => exact .parenthesised (n + 1) loose

/-- A variant is a stem with arrays around it. -/
theorem exists_arrays {t : TypeName} (h : t.Variant) :
    ∃ n o l, t = array^[n] l ∧ l.Normal ∧ Stem n o l := by
  induction t using induction_children with
  | step t ih =>
    cases t with
    | named name arguments => exact ⟨0, _, _, rfl, h.1, .named 0 name arguments⟩
    | tuple items => exact ⟨0, _, _, rfl, h.1, .tuple 0 items⟩
    | dictionary key value => exact ⟨0, _, _, rfl, h.1, .dictionary key value⟩
    | union ts => exact Bool.noConfusion h.2
    | array e =>
        have he : e.Normal := (normal_iff.mp h.1).2 e List.mem_cons_self
        cases hloose : e.isLoose with
        | true => exact ⟨1, _, e, rfl, he, .parenthesised 0 hloose⟩
        | false =>
            have hunion : e.isUnion = false := by
              by_contra hunion
              rw [he.isLoose (by simpa using hunion)] at hloose
              contradiction
            obtain ⟨n, o, l, rfl, hl, hstem⟩ := ih e List.mem_cons_self ⟨he, hunion⟩
            exact ⟨n + 1, o, l, (Function.iterate_succ_apply' _ _ _).symm, hl, hstem.succ hloose⟩

/-- The text of a type starts with a character that starts types. -/
theorem Normal.head_text {t : TypeName} (h : t.Normal) :
    ∃ c u, t.text = c :: u ∧ startsType c = true := by
  obtain ⟨v, vs, hvs⟩ := List.exists_cons_of_ne_nil h.variants_ne_nil
  obtain ⟨n, o, l, rfl, hl, hstem⟩ := exists_arrays (h.of_mem_variants (v := v) (by simp [hvs]))
  obtain ⟨c, u, hc, hopen⟩ := hstem.head_text hl
  obtain ⟨r, htext⟩ : ∃ r, t.text = c :: r := by
    rw [text_eq_intercalate_variants, hvs, intercalate_map_cons, text_arrays, hc]
    exact ⟨_, rfl⟩
  refine ⟨c, r, htext, ?_⟩
  rcases hopen with ⟨-, hname⟩ | ⟨ho, -⟩
  · simp [startsType, hname]
  · cases hstem with
    | named => contradiction
    | _ => exact Option.some.inj ho ▸ by decide

/-- What ends a variant does not start with a type. -/
theorem closes_of_endsVariant {Good : TypeName → Prop} {Ends : List Char → Prop} {r : List Char}
    (hgood : ∀ t, Good t → t.Normal) (hends : Ends r) (hr : EndsVariant r) :
    Closes text Good Ends r := by
  refine ⟨hends, fun t ht hp => ?_⟩
  obtain ⟨c, u, hc, hstart⟩ := (hgood t ht).head_text
  obtain ⟨v, rfl⟩ := hp
  have hno := (hr c (by rw [hc]; rfl)).1
  rw [hstart] at hno
  contradiction

/-! ## stems are told -/

/-- A type whose text shows it among all normal types. -/
abbrev Told (t : TypeName) : Prop := SelfDelimiting text Normal EndsType t

/-- The text of a stem shows the stem. -/
def StemTold (n : Nat) (a : TypeName) : Prop :=
  ∀ k o b r s, b.Normal → Stem k o b → EndsStem r → EndsStem s →
    stemText n a ++ r = stemText k b ++ s → a = b ∧ r = s

/-- Types with commas between them are found again in front of a closing mark. -/
theorem items_append_inj {c : Char} {as bs : List TypeName} {r s : List Char}
    (has : ∀ a ∈ as, a.Normal ∧ a.Told) (hbs : ∀ b ∈ bs, b.Normal)
    (hc : ((startsType c = false ∧ c ≠ '<') ∧ c ≠ ' ') ∧ c ≠ ',')
    (h : List.intercalate ", ".toList (as.map text) ++ c :: r =
      List.intercalate ", ".toList (bs.map text) ++ c :: s) :
    as = bs ∧ r = s := by
  have hcloses : ∀ u, Closes text Normal EndsType (c :: u) := fun u =>
    closes_of_endsVariant (fun _ => id) (endsType_cons hc.1) (endsVariant_cons hc.1.1)
  have hcomma : ∀ u, ¬ ", ".toList <+: c :: u := fun u hp =>
    hc.2 (List.cons_prefix_cons.mp hp).1.symm
  obtain ⟨heq, hrest⟩ := intercalate_append_inj (fun _ => endsType_cons (by decide)) has hbs
    (hcloses r) (hcloses s) (hcomma r) (hcomma s) h
  exact ⟨heq, (List.cons.inj hrest).2⟩

/-- Arguments show where they end. -/
theorem argumentsText_append_inj {as bs : List TypeName} {r s : List Char}
    (has : ∀ a ∈ as, a.Normal ∧ a.Told) (hbs : ∀ b ∈ bs, b.Normal) (hr : EndsStem r)
    (hs : EndsStem s) (h : argumentsText as ++ r = argumentsText bs ++ s) : as = bs ∧ r = s := by
  have hangle : ∀ {u v : List Char}, EndsStem u → u ≠ '<' :: v := by
    rintro u v hu rfl
    exact (hu '<' rfl).2 rfl
  cases as with
  | nil =>
      cases bs with
      | nil => exact ⟨rfl, h⟩
      | cons b bs => exact absurd h (hangle hr)
  | cons a as =>
      cases bs with
      | nil => exact absurd h.symm (hangle hs)
      | cons b bs =>
          rw [argumentsText, argumentsText, List.cons_append, List.cons_append, List.cons.injEq,
            List.append_assoc, List.append_assoc] at h
          exact items_append_inj has hbs (by decide) h.2

/-- Arguments end the name in front of them. -/
theorem head_argumentsText {ts : List TypeName} {r : List Char} (hr : EndsStem r) :
    ∀ c ∈ (argumentsText ts ++ r).head?, isNameChar c = false := by
  cases ts with
  | nil => exact fun c hc => (hr c hc).1
  | cons t ts => exact forall_mem_head?_cons.mpr (by decide)

/-- A name is told, with its arguments. -/
theorem stemTold_named {n : Nat} {name : String} {arguments : List TypeName}
    (h : (named name arguments).Normal) (hbelow : ∀ a ∈ arguments, a.Told) :
    StemTold n (named name arguments) := by
  intro k o b r s hnb hb hr hs heq
  obtain rfl := (Stem.named n name arguments).eq_of_text_eq h hb hnb heq
  cases hb with
  | named k name' arguments' =>
      obtain ⟨hnode, hnormal⟩ := normal_iff.mp h
      obtain ⟨hnode', hnormal'⟩ := normal_iff.mp hnb
      rw [stemText_eq_text rfl, stemText_eq_text rfl, text_named, text_named,
        List.append_assoc, List.append_assoc] at heq
      obtain ⟨hname, htail⟩ := run_append_inj hnode.1.2 hnode'.1.2 (head_argumentsText hr)
        (head_argumentsText hs) heq
      obtain ⟨rfl, hrest⟩ : arguments = arguments' ∧ r = s := argumentsText_append_inj
        (fun a ha => ⟨hnormal a ha, hbelow a ha⟩) hnormal' hr hs htail
      exact ⟨by rw [String.toList_inj.mp hname], hrest⟩

/-- A tuple is told. -/
theorem stemTold_tuple {n : Nat} {items : List TypeName} (h : (tuple items).Normal)
    (hbelow : ∀ a ∈ items, a.Told) : StemTold n (tuple items) := by
  intro k o b r s hnb hb hr hs heq
  obtain rfl := (Stem.tuple n items).eq_of_text_eq h hb hnb heq
  cases hb with
  | tuple k items' =>
      have hnormal : ∀ a ∈ items, a.Normal := (normal_iff.mp h).2
      have hnormal' : ∀ b ∈ items', b.Normal := (normal_iff.mp hnb).2
      rw [stemText_eq_text rfl, stemText_eq_text rfl, text_tuple, text_tuple, List.cons_append,
        List.cons_append, List.cons.injEq, List.append_assoc, List.append_assoc] at heq
      obtain ⟨rfl, hrest⟩ := items_append_inj (fun a ha => ⟨hnormal a ha, hbelow a ha⟩) hnormal'
        (by decide) heq.2
      exact ⟨rfl, hrest⟩

/-- A dictionary is told where it is not parenthesised. -/
theorem stemTold_dictionary {key value : TypeName} (h : (dictionary key value).Normal)
    (hkey : key.Told) (hvalue : value.Told) : StemTold 0 (dictionary key value) := by
  intro k o b r s hnb hb hr hs heq
  obtain rfl := (Stem.dictionary key value).eq_of_text_eq h hb hnb heq
  cases hb with
  | dictionary key' value' =>
      have hnormal := (normal_iff.mp hnb).2
      have hmiddle : ∀ u, EndsType ("]: ".toList ++ u) := fun u => endsType_cons (by decide)
      have hclose : ∀ u, EndsType (" \x7d".toList ++ u) := fun u =>
        ⟨endsVariant_cons (by decide), fun hp => by simp [List.cons_prefix_cons] at hp⟩
      have htext : ∀ k v : TypeName, stemText 0 (dictionary k v) = _ := text_dictionary
      simp only [htext, List.append_assoc, List.append_cancel_left_eq] at heq
      obtain ⟨rfl, htail⟩ := hkey key' _ _ (hnormal key' (by simp [children])) (hmiddle _)
        (hmiddle _) heq
      obtain ⟨rfl, hrest⟩ := hvalue value' _ _ (hnormal value' (by simp [children]))
        (hclose r) (hclose s) (List.append_cancel_left htail)
      exact ⟨rfl, List.append_cancel_left hrest⟩

/-- What is parenthesised is told if it is told as a type. -/
theorem Told.stemTold {n : Nat} {t : TypeName} (h : t.Told) (ht : t.Normal)
    (hloose : t.isLoose = true) : StemTold (n + 1) t := by
  intro k o b r s hnb hb hr hs heq
  obtain rfl := (Stem.parenthesised n hloose).eq_of_text_eq ht hb hnb heq
  cases hb with
  | parenthesised k hloose' =>
      rw [stemText_succ hloose, stemText_succ hloose', List.cons_append, List.cons_append,
        List.cons.injEq, List.append_assoc, List.append_assoc] at heq
      obtain ⟨heq, hrest⟩ := h b _ _ hnb (endsType_cons (by decide)) (endsType_cons (by decide))
        heq.2
      exact ⟨heq, (List.cons.inj hrest).2⟩

/-! ## types are told -/

/-- Arrays are told if their stem is. -/
theorem StemTold.arrays {n : Nat} {t : TypeName} (h : StemTold n t) :
    SelfDelimiting text Variant EndsVariant (array^[n] t) := by
  intro b r s hb hr hs heq
  obtain ⟨k, o, l, rfl, hl, hstem⟩ := exists_arrays hb
  have hends : ∀ {m : Nat} {u : List Char}, EndsVariant u → EndsStem (brackets m ++ u) := by
    intro m u hu
    cases m with
    | zero => exact hu.endsStem
    | succ m => exact endsStem_cons (by decide)
  rw [text_arrays, text_arrays, List.append_assoc, List.append_assoc] at heq
  obtain ⟨rfl, htail⟩ := h k o l _ _ hl hstem (hends hr) (hends hs) heq
  obtain ⟨rfl, hrest⟩ := brackets_append_inj hr hs htail
  exact ⟨rfl, hrest⟩

/-- A union does not have a single variant. -/
theorem Normal.variants_ne_singleton {t : TypeName} (h : t.Normal) (hunion : t.isUnion = true)
    (u : TypeName) : t.variants ≠ [u] := by
  match t, (normal_iff.mp h).1.1, hunion with
  | union (_ :: _ :: _), _, _ => simp [variants]

/-- Normal types with the same variants are the same. -/
theorem Normal.eq_of_variants_eq {a b : TypeName} (ha : a.Normal) (hb : b.Normal)
    (h : a.variants = b.variants) : a = b := by
  cases hua : a.isUnion with
  | false =>
      rw [variants_eq_singleton hua] at h
      cases hub : b.isUnion with
      | false =>
          rw [variants_eq_singleton hub] at h
          exact List.singleton_inj.mp h
      | true => exact absurd h.symm (hb.variants_ne_singleton hub a)
  | true =>
      cases hub : b.isUnion with
      | false =>
          rw [variants_eq_singleton hub] at h
          exact absurd h (ha.variants_ne_singleton hua b)
      | true =>
          match a, b, hua, hub, h with
          | union as, union bs, _, _, h => exact congrArg union h

/-- A type is told if its variants are. -/
theorem told_of_variants {t : TypeName} (ht : t.Normal)
    (h : ∀ v ∈ t.variants, SelfDelimiting text Variant EndsVariant v) : t.Told := by
  intro b r s hb hr hs heq
  rw [text_eq_intercalate_variants, text_eq_intercalate_variants b] at heq
  obtain ⟨hvariants, hrest⟩ := intercalate_append_inj (fun _ => endsVariant_cons (by decide))
    (fun v hv => ⟨ht.of_mem_variants hv, h v hv⟩) (fun v hv => hb.of_mem_variants hv)
    (closes_of_endsVariant (fun _ hv => hv.1) hr.1 hr.1)
    (closes_of_endsVariant (fun _ hv => hv.1) hs.1 hs.1) hr.2 hs.2 heq
  exact ⟨ht.eq_of_variants_eq hb hvariants, hrest⟩

/-- A type that is no union is told if it is told as a variant. -/
theorem told_of_variant {t : TypeName} (ht : t.Variant)
    (h : SelfDelimiting text Variant EndsVariant t) : t.Told := by
  refine told_of_variants ht.1 fun v hv => ?_
  rw [variants_eq_singleton ht.2, List.mem_singleton] at hv
  rwa [hv]

/-- Arrays around a normal type are told where they are no union, and the type
is. -/
theorem arrays_told_and_told {t : TypeName} (ht : t.Normal) :
    (∀ n, (array^[n] t).isUnion = false →
      SelfDelimiting text Variant EndsVariant (array^[n] t)) ∧ t.Told := by
  -- The arrays come first: what is parenthesised in front of brackets is told as
  -- a type, and a type is told by its variants, which are arrays around a stem.
  induction t using induction_children with
  | step t ih =>
    obtain ⟨hnode, hnormal⟩ := normal_iff.mp ht
    have hbelow : ∀ c ∈ t.children, c.Told := fun c hc => (ih c hc (hnormal c hc)).2
    cases t with
    | named name arguments =>
        have harrays := fun n => (stemTold_named (n := n) ht hbelow).arrays
        exact ⟨fun n _ => harrays n, told_of_variant ⟨ht, rfl⟩ (harrays 0)⟩
    | tuple items =>
        have harrays := fun n => (stemTold_tuple (n := n) ht hbelow).arrays
        exact ⟨fun n _ => harrays n, told_of_variant ⟨ht, rfl⟩ (harrays 0)⟩
    | array e =>
        have harrays : ∀ n, SelfDelimiting text Variant EndsVariant (array^[n] (array e)) := by
          intro n
          have hunion : (array^[n + 1] e).isUnion = false := by
            rw [Function.iterate_succ_apply']
            rfl
          have he := (ih e List.mem_cons_self (hnormal e List.mem_cons_self)).1 (n + 1) hunion
          rwa [Function.iterate_succ_apply] at he
        exact ⟨fun n _ => harrays n, told_of_variant ⟨ht, rfl⟩ (harrays 0)⟩
    | dictionary key value =>
        have hbare := (stemTold_dictionary ht (hbelow key (by simp [children]))
          (hbelow value (by simp [children]))).arrays
        have htold := told_of_variant ⟨ht, rfl⟩ hbare
        refine ⟨fun n _ => ?_, htold⟩
        cases n with
        | zero => exact hbare
        | succ n => exact (htold.stemTold ht rfl).arrays
    | union ts =>
        have htold : (union ts).Told := told_of_variants ht fun v hv =>
          (ih v hv (hnormal v hv)).1 0 (hnode.2 rfl v hv)
        refine ⟨fun n hn => ?_, htold⟩
        cases n with
        | zero => exact Bool.noConfusion hn
        | succ n => exact (htold.stemTold ht (ht.isLoose rfl)).arrays

/-- Every normal type is told. -/
theorem told {t : TypeName} (h : t.Normal) : t.Told := (arrays_told_and_told h).2

/-- Plain types have the same text if they are the same up to flattening, and
only then. -/
theorem text_eq_iff {a b : TypeName} (ha : a.Plain) (hb : b.Plain) :
    a.text = b.text ↔ a.flat = b.flat := by
  have hends : EndsType [] := ⟨by simp [EndsVariant], by simp⟩
  constructor
  · intro h
    have hflat : a.flat.text ++ [] = b.flat.text ++ [] := by rw [text_flat ha, text_flat hb, h]
    exact (told (normal_flat ha) b.flat [] [] (normal_flat hb) hends hends hflat).1
  · intro h
    rw [← text_flat ha, h, text_flat hb]

end DeclGen.TypeName
