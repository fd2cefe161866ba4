import Mathlib.Data.List.Infix
import DeclGen.Proofs.Native.Token
import DeclGen.Proofs.Text.Parts

/-!
# DeclGen.Proofs.Text.Delimited

Texts of items that stand one behind the other, and how the items are found
again.

An item is self-delimiting if its text shows where it ends, as long as what
follows is of a certain kind (`SelfDelimiting`).  Then lists of such items are
found again as well: without separators if every item may follow another one
(`flatMap_append_inj`), and with separators (`intercalate_append_inj`).  What closes a
list must not look like another item.
-/

namespace DeclGen.Text

variable {α : Type}

/-! ## runs -/

/-- The first character of a text is the one in front. -/
theorem forall_mem_head?_cons {p : Char → Prop} {c : Char} {r : List Char} :
    (∀ d ∈ (c :: r).head?, p d) ↔ p c := by
  simp

/-- A run of characters of a class ends where another character follows. -/
theorem run_append_inj {p : Char → Bool} {u v r s : List Char} (hu : ∀ c ∈ u, p c = true)
    (hv : ∀ c ∈ v, p c = true) (hr : ∀ c ∈ r.head?, p c = false)
    (hs : ∀ c ∈ s.head?, p c = false) (h : u ++ r = v ++ s) : u = v ∧ r = s := by
  constructor
  · rw [← Native.takeWhile_append_of_head hu hr, h, Native.takeWhile_append_of_head hv hs]
  · rw [← Native.dropWhile_append_of_head hu hr, h, Native.dropWhile_append_of_head hv hs]

/-- A run with something behind it starts with a character of the class. -/
theorem IsRun.head_append {p : Char → Bool} {u : List Char} (h : IsRun p u) (v : List Char) :
    ∀ c ∈ (u ++ v).head?, p c = true := by
  obtain ⟨hne, hchars⟩ := h
  obtain ⟨d, u, rfl⟩ := List.exists_cons_of_ne_nil hne
  intro c hc
  obtain rfl : d = c := by simpa using hc
  exact hchars d List.mem_cons_self

/-- A run does not stand at the front of a text that starts otherwise. -/
theorem IsRun.not_prefix {p : Char → Bool} {u v r : List Char} (h : IsRun p u)
    (hr : ∀ c ∈ r.head?, p c = false) : ¬ u ++ v <+: r := by
  rintro ⟨w, rfl⟩
  obtain ⟨c, u, rfl⟩ := List.exists_cons_of_ne_nil h.1
  have hc := hr c rfl
  rw [h.2 c List.mem_cons_self] at hc
  contradiction

/-! ## items -/

/-- An item with something behind it that may follow is told from all good items
with something behind them: the text shows the item and what follows it. -/
def SelfDelimiting (text : α → List Char) (Good : α → Prop) (Ends : List Char → Prop)
    (a : α) : Prop :=
  ∀ b r s, Good b → Ends r → Ends s → text a ++ r = text b ++ s → a = b ∧ r = s

variable {text : α → List Char} {Good : α → Prop} {Ends : List Char → Prop}

/-- A text that may follow an item and does not start with another one. -/
structure Closes (text : α → List Char) (Good : α → Prop) (Ends : List Char → Prop)
    (r : List Char) : Prop where
  ends : Ends r
  no_item : ∀ a, Good a → ¬ text a <+: r

/-- Items may follow if each of them may, whatever is behind it. -/
theorem ends_flatMap_append {as : List α} {r : List Char}
    (hfollow : ∀ a ∈ as, ∀ t, Ends (text a ++ t)) (hr : Ends r) :
    Ends (as.flatMap text ++ r) := by
  cases as with
  | nil => exact hr
  | cons a as =>
      rw [List.flatMap_cons, List.append_assoc]
      exact hfollow a List.mem_cons_self _

/-- Items with nothing between them are found again. -/
theorem flatMap_append_inj {as bs : List α} {r s : List Char}
    (hfollow : ∀ a, Good a → ∀ t, Ends (text a ++ t))
    (has : ∀ a ∈ as, Good a ∧ SelfDelimiting text Good Ends a) (hbs : ∀ b ∈ bs, Good b)
    (hr : Closes text Good Ends r) (hs : Closes text Good Ends s)
    (h : as.flatMap text ++ r = bs.flatMap text ++ s) : as = bs ∧ r = s := by
  induction as generalizing bs with
  | nil =>
      cases bs with
      | nil => exact ⟨rfl, h⟩
      | cons b bs =>
          have hitem : text b <+: r := ⟨bs.flatMap text ++ s, by simpa using h.symm⟩
          exact absurd hitem (hr.no_item b (hbs b List.mem_cons_self))
  | cons a as ih =>
      obtain ⟨⟨ha, hself⟩, htail⟩ := List.forall_mem_cons.mp has
      cases bs with
      | nil =>
          have hitem : text a <+: s := ⟨as.flatMap text ++ r, by simpa using h⟩
          exact absurd hitem (hs.no_item a ha)
      | cons b bs =>
          obtain ⟨hb, hbtail⟩ := List.forall_mem_cons.mp hbs
          have hrest := ends_flatMap_append (fun c hc => hfollow c (htail c hc).1) hr.ends
          have hrest' := ends_flatMap_append (fun c hc => hfollow c (hbtail c hc)) hs.ends
          rw [List.flatMap_cons, List.flatMap_cons, List.append_assoc, List.append_assoc] at h
          obtain ⟨hhead, htails⟩ := hself b _ _ hb hrest hrest' h
          obtain ⟨heq, hclose⟩ := ih htail hbtail htails
          exact ⟨by rw [hhead, heq], hclose⟩

/-- Joined items are the first one and then the others with a separator in front
of each. -/
theorem intercalate_map_cons (sep : List Char) (a : α) (as : List α) :
    sep.intercalate ((a :: as).map text) = text a ++ as.flatMap fun b => sep ++ text b := by
  induction as generalizing a with
  | nil => simp
  | cons b as ih =>
      have hb := ih b
      rw [List.map_cons] at hb
      rw [List.map_cons, List.map_cons, List.intercalate_cons_cons, hb, List.flatMap_cons]
      simp

/-- An item with a separator in front is self-delimiting as well. -/
theorem SelfDelimiting.append_left {a : α} (h : SelfDelimiting text Good Ends a)
    (sep : List Char) : SelfDelimiting (fun b => sep ++ text b) Good Ends a := by
  intro b r s hb hr hs heq
  refine h b r s hb hr hs ?_
  rwa [List.append_assoc, List.append_assoc, List.append_cancel_left_eq] at heq

/-- Items with separators between them are found again. -/
theorem intercalate_append_inj {sep : List Char} {as bs : List α} {r s : List Char}
    (hsep : ∀ t, Ends (sep ++ t)) (has : ∀ a ∈ as, Good a ∧ SelfDelimiting text Good Ends a)
    (hbs : ∀ b ∈ bs, Good b) (hr : Closes text Good Ends r) (hs : Closes text Good Ends s)
    (hrsep : ¬ sep <+: r) (hssep : ¬ sep <+: s)
    (h : sep.intercalate (as.map text) ++ r = sep.intercalate (bs.map text) ++ s) :
    as = bs ∧ r = s := by
  cases as with
  | nil =>
      cases bs with
      | nil => exact ⟨rfl, h⟩
      | cons b bs =>
          rw [intercalate_map_cons, List.append_assoc] at h
          exact absurd ⟨_, h.symm⟩ (hr.no_item b (hbs b List.mem_cons_self))
  | cons a as =>
      obtain ⟨⟨ha, hself⟩, htail⟩ := List.forall_mem_cons.mp has
      cases bs with
      | nil =>
          rw [intercalate_map_cons, List.append_assoc] at h
          exact absurd ⟨_, h⟩ (hs.no_item a ha)
      | cons b bs =>
          obtain ⟨hb, hbtail⟩ := List.forall_mem_cons.mp hbs
          -- the others are items that start with a separator
          have hfollow : ∀ c t, Ends ((sep ++ text c) ++ t) := fun c t => by
            rw [List.append_assoc]
            exact hsep _
          have hclose : ∀ {t : List Char}, Closes text Good Ends t → ¬ sep <+: t →
              Closes (fun c => sep ++ text c) Good Ends t := fun ht hno =>
            ⟨ht.ends, fun c _ hc => hno ((List.prefix_append sep _).trans hc)⟩
          rw [intercalate_map_cons, intercalate_map_cons, List.append_assoc, List.append_assoc] at h
          obtain ⟨hhead, htails⟩ := hself b _ _ hb
            (ends_flatMap_append (fun c _ => hfollow c) hr.ends)
            (ends_flatMap_append (fun c _ => hfollow c) hs.ends) h
          obtain ⟨heq, hrest⟩ := flatMap_append_inj (fun c _ => hfollow c)
            (fun c hc => ⟨(htail c hc).1, (htail c hc).2.append_left sep⟩) hbtail
            (hclose hr hrsep) (hclose hs hssep) htails
          exact ⟨by rw [hhead, heq], hrest⟩

end DeclGen.Text
