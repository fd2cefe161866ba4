import Mathlib
import DeclGen.Proofs.Emission.CamelCase
import DeclGen.Proofs.Emission.Written

/-!
# DeclGen.Proofs.Emission.MemberNames

The names that an interface has for its members in camel case.

Camel case drops underscores, so it may give two names the same form, and a name
of underscores none at all.  `Respelling` takes the underscores out one by one:
one that parts no words is dropped, and one that parts two words raises the
character behind it.

* `Respelling.camelCase_eq`: no step changes the camel case of a name.
* `exists_respelling`: as long as there is an underscore, there is a step.
* `camelCase_eq_iff`: so names have the same camel case if and only if steps in
  both directions lead from one to the other.
* `Interface.memberNames_apart`: just then members are written with the same
  name.
-/

namespace DeclGen

open Text (uppercase)

/-! ## spellings -/

/-- One underscore is taken out of a name: it stands at one end or in front of
another one and is dropped, or it parts two other characters and the one behind
it is put into upper case. -/
inductive Respelling : List Char → List Char → Prop
  | leading (s : List Char) : Respelling ('_' :: s) s
  | trailing (s : List Char) : Respelling (s ++ ['_']) s
  | doubled (s t : List Char) : Respelling (s ++ '_' :: '_' :: t) (s ++ '_' :: t)
  | raised {c d : Char} (hc : c ≠ '_') (hd : d ≠ '_') (s t : List Char) :
      Respelling (s ++ c :: '_' :: d :: t) (s ++ c :: (uppercase d ++ t))

/-- Two names are spellings of one another if such steps, forwards and backwards,
lead from one to the other. -/
def SameSpelling : List Char → List Char → Prop := Relation.EqvGen Respelling

/-- What is read the same in every state is read the same behind any text. -/
theorem camelCaseFrom_append_congr {u v : List Char}
    (h : ∀ started raise, camelCaseFrom started raise u = camelCaseFrom started raise v)
    (s : List Char) (started raise : Bool) :
    camelCaseFrom started raise (s ++ u) = camelCaseFrom started raise (s ++ v) := by
  induction s generalizing started raise with
  | nil => exact h started raise
  | cons c r ih =>
      by_cases hc : c = '_'
      · rw [hc, List.cons_append, List.cons_append, camelCaseFrom_underscore,
          camelCaseFrom_underscore, ih]
      · rw [List.cons_append, List.cons_append, camelCaseFrom_cons hc, camelCaseFrom_cons hc, ih]

/-- Within a word, a text without underscores is kept. -/
theorem camelCaseFrom_append_of_not_mem {u : List Char} (h : '_' ∉ u) (t : List Char) :
    camelCaseFrom true false (u ++ t) = u ++ camelCaseFrom true false t := by
  induction u with
  | nil => rfl
  | cons c r ih =>
      have hc : c ≠ '_' := (List.ne_of_not_mem_cons h).symm
      rw [List.cons_append, camelCaseFrom_cons hc, ih (List.not_mem_of_not_mem_cons h)]
      rfl

/-- No step changes the camel case of a name. -/
theorem Respelling.camelCase_eq {s t : List Char} (h : Respelling s t) :
    camelCase s = camelCase t := by
  cases h with
  | leading => rfl
  | trailing =>
      have hnone : ∀ started raise,
          camelCaseFrom started raise ['_'] = camelCaseFrom started raise [] := fun _ _ => rfl
      rw [camelCase, camelCaseFrom_append_congr hnone, List.append_nil, camelCase]
  | doubled s t =>
      have hone : ∀ started raise, camelCaseFrom started raise ('_' :: '_' :: t) =
          camelCaseFrom started raise ('_' :: t) := fun _ _ => rfl
      exact camelCaseFrom_append_congr hone s false false
  | raised hc hd s t =>
      refine camelCaseFrom_append_congr (fun started raise => ?_) s false false
      rw [camelCaseFrom_cons hc, camelCaseFrom_underscore, camelCaseFrom_cons hd,
        camelCaseFrom_cons hc,
        camelCaseFrom_append_of_not_mem (Text.not_mem_uppercase (by decide) hd)]
      rfl

/-- Each step takes out one underscore. -/
theorem Respelling.count_eq {s t : List Char} (h : Respelling s t) :
    s.count '_' = t.count '_' + 1 := by
  cases h with
  | leading => simp
  | trailing => simp
  | doubled s t => simp [Nat.add_assoc]
  | raised hc hd s t =>
      have hnone : (uppercase _).count '_' = 0 :=
        List.count_eq_zero_of_not_mem (Text.not_mem_uppercase (by decide) hd)
      simp [List.count_cons_of_ne hc, List.count_cons_of_ne hd, hnone, Nat.add_assoc]

/-- As long as a name has an underscore, there is a step. -/
theorem exists_respelling {s : List Char} (h : '_' ∈ s) : ∃ t, Respelling s t := by
  -- the first underscore, by what stands on its two sides
  obtain ⟨u, v, rfl, hu⟩ := List.eq_append_cons_of_mem h
  rcases List.eq_nil_or_concat' u with rfl | ⟨u, c, rfl⟩
  · exact ⟨v, .leading v⟩
  · cases v with
    | nil => exact ⟨u ++ [c], .trailing (u ++ [c])⟩
    | cons d v =>
        by_cases hd : d = '_'
        · rw [hd]
          exact ⟨_, .doubled (u ++ [c]) v⟩
        · have hc : c ≠ '_' := fun hc => hu (by simp [hc])
          rw [List.append_assoc]
          exact ⟨_, .raised hc hd u v⟩

/-- A name is a spelling of its camel case. -/
theorem sameSpelling_camelCase (s : List Char) : SameSpelling s (camelCase s) := by
  induction hcount : s.count '_' using Nat.strong_induction_on generalizing s with
  | _ n ih =>
    by_cases h : '_' ∈ s
    · obtain ⟨t, hstep⟩ := exists_respelling h
      have hless : t.count '_' < n := by
        rw [← hcount, hstep.count_eq]
        exact Nat.lt_succ_self _
      rw [hstep.camelCase_eq]
      exact .trans _ t _ (.rel _ _ hstep) (ih _ hless t rfl)
    · rw [camelCase_of_not_mem h]
      exact .refl s

/-- Two names have the same camel case if and only if they are spellings of one
another. -/
theorem camelCase_eq_iff {s t : List Char} : camelCase s = camelCase t ↔ SameSpelling s t := by
  constructor
  · intro h
    have ht : SameSpelling (camelCase s) t := h ▸ (sameSpelling_camelCase t).symm
    exact .trans _ _ _ (sameSpelling_camelCase s) ht
  · intro h
    induction h with
    | rel _ _ hstep => exact hstep.camelCase_eq
    | refl => rfl
    | symm _ _ _ ih => exact ih.symm
    | trans _ _ _ _ _ ih ih' => exact ih.trans ih'

instance : DecidableRel SameSpelling := fun _ _ => decidable_of_iff _ camelCase_eq_iff

/-- An underscore may part two words, or stand where there is only one. -/
example : SameSpelling "created_at".toList "_createdAt".toList ∧
    ¬ SameSpelling "created_at".toList "createdat".toList := by decide

/-- Names in regular snake case have the same camel case only if they are the
same. -/
theorem eq_of_camelCase_eq {s t : List Char} (hs : isSnakeCase s = true)
    (ht : isSnakeCase t = true) (h : camelCase s = camelCase t) : s = t := by
  rw [← snakeCase_camelCase hs, h, snakeCase_camelCase ht]

/-! ## members -/

variable {m : Type → Type} {σ : Type} {settings : EmitSettings}

/-- The names under which the members of an interface are written. -/
def Interface.memberNames (settings : EmitSettings) (i : Interface m) : List (List Char) :=
  i.members.map fun member => settings.displayName member.field.name

/-- Behind the opening lines of a declaration stand those of the members. -/
theorem Interface.Declares.memberLines {i : Interface (StateM σ)} {d : Declaration}
    (h : i.Declares d) :
    ((d.lines settings).drop (d.depth + 1)).take i.members.length =
      List.zipWith (memberLine settings (d.depth + 1)) (i.memberNames settings)
        (d.members.map fun member => member.type.text) := by
  have hlines : d.members.map (fun member =>
      Declaration.line settings (d.depth + 1) (member.text settings ++ [';'])) =
      List.zipWith (memberLine settings (d.depth + 1)) (i.memberNames settings)
        (d.members.map fun member => member.type.text) := by
    rw [Element.lines_eq_written h.members (d.depth + 1) [], List.append_nil]
    rfl
  rw [← hlines, h.members.length_eq]
  unfold Declaration.lines Declaration.depth
  cases d.scope <;> simp

/-- Members are written with a name if and only if theirs has more than
underscores. -/
theorem Interface.memberNames_ne_nil_iff (hcamel : settings.camelCase = true) (i : Interface m) :
    (∀ name ∈ i.memberNames settings, name ≠ []) ↔
      ∀ member ∈ i.members, ∃ c ∈ member.field.name.toList, c ≠ '_' := by
  rw [memberNames, List.forall_mem_map]
  refine forall₂_congr fun member _ => ?_
  rw [EmitSettings.displayName, if_pos hcamel, camelCase, Ne, camelCaseFrom_eq_nil]
  simp

/-- Members are written with different names if and only if no two of theirs are
spellings of one another. -/
theorem Interface.nodup_memberNames_iff (hcamel : settings.camelCase = true) (i : Interface m) :
    (i.memberNames settings).Nodup ↔ i.members.Pairwise fun member other =>
      ¬ SameSpelling member.field.name.toList other.field.name.toList := by
  rw [memberNames, List.Nodup, List.pairwise_map]
  refine List.Pairwise.iff fun member other => ?_
  rw [EmitSettings.displayName, EmitSettings.displayName, if_pos hcamel, if_pos hcamel, Ne,
    camelCase_eq_iff]

/-- Different names in regular snake case are no spellings of one another. -/
theorem Interface.pairwise_of_isSnakeCase {i : Interface m}
    (h : ∀ member ∈ i.members, isSnakeCase member.field.name.toList = true)
    (hnodup : (i.members.map fun member => member.field.name).Nodup) :
    i.members.Pairwise fun member other =>
      ¬ SameSpelling member.field.name.toList other.field.name.toList := by
  rw [List.Nodup, List.pairwise_map] at hnodup
  refine hnodup.imp_of_mem fun hmember hother hne hsame => hne ?_
  exact String.toList_inj.mp
    (eq_of_camelCase_eq (h _ hmember) (h _ hother) (camelCase_eq_iff.mpr hsame))

/-- A name in regular snake case has more than underscores. -/
theorem exists_of_isSnakeCase {name : List Char} (h : isSnakeCase name = true) :
    ∃ c ∈ name, c ≠ '_' := by
  by_contra hnone
  have hall : ∀ c ∈ name, c = '_' := fun c hc => by_contra fun hne => hnone ⟨c, hc, hne⟩
  have hempty : camelCase name = [] := camelCaseFrom_eq_nil.mpr hall
  obtain rfl : [] = name := by rw [← snakeCase_camelCase h, hempty]; rfl
  contradiction

/-- **When members are told apart in camel case.**

1. Where the interface is emitted, the lines behind the opening ones declare its
   members, each under the camel case of its name.
2. None of these names is empty if and only if every member's own name has a
   character other than an underscore.
3. They are pairwise different if and only if no two of the members' own names
   are spellings of one another.
4. Different names in regular snake case meet both conditions. -/
theorem Interface.memberNames_apart (i : Interface (StateM σ)) (r : Resolver) (indent : Nat)
    (w : σ) :
    let settings : EmitSettings := ⟨indent, true⟩
    let names := i.members.map fun member => camelCase member.field.name.toList
    (∀ text w', runIn (i.emit r settings) w = (.ok text, w') →
      ∃ d, i.Declares d ∧ text = String.ofList (d.lines settings).flatten ∧
        ((d.lines settings).drop (d.depth + 1)).take i.members.length =
          List.zipWith (memberLine settings (d.depth + 1)) names
            (d.members.map fun member => member.type.text)) ∧
    ((∀ name ∈ names, name ≠ []) ↔
      ∀ member ∈ i.members, ∃ c ∈ member.field.name.toList, c ≠ '_') ∧
    (names.Nodup ↔ i.members.Pairwise fun member other =>
      ¬ SameSpelling member.field.name.toList other.field.name.toList) ∧
    ((∀ member ∈ i.members, isSnakeCase member.field.name.toList = true) →
      (i.members.map fun member => member.field.name).Nodup →
        (∀ name ∈ names, name ≠ []) ∧ names.Nodup) := by
  intro settings names
  have hcamel : settings.camelCase = true := rfl
  have hnonempty := i.memberNames_ne_nil_iff hcamel
  have hnodup := i.nodup_memberNames_iff hcamel
  refine ⟨fun text w' h => ?_, hnonempty, hnodup, fun hregular hdifferent => ⟨?_, ?_⟩⟩
  · obtain ⟨_, ⟨d, hd, -, htext⟩, -⟩ := (resolves_emit r settings i).ok h
    exact ⟨d, hd, htext, hd.memberLines⟩
  · exact hnonempty.mpr fun member hmember => exists_of_isSnakeCase (hregular member hmember)
  · exact hnodup.mpr (pairwise_of_isSnakeCase hregular hdifferent)

/-- An account with names that differ in underscores only. -/
def Interface.account : Interface (StateM Unit) where
  scope := []
  name := "Account"
  members := [.new "_private" (.primitive .string), .new "private" (.primitive .string),
    .new "__" (.primitive .bool)]
  methods := []

/-- The text of the account. -/
def accountText : String :=
  "export interface Account \x7b\n    private: string;\n    private: string;\n" ++
    "    : boolean;\n\x7d\n"

/-- Two of its members are written with the same name, and one with none. -/
theorem Interface.memberNames_merged :
    (∀ member ∈ account.members, member.field.name ≠ "") ∧
      (account.members.map fun member => member.field.name).Nodup ∧
      runIn (account.emit .default ⟨4, true⟩) () = (.ok accountText, ()) ∧
      ¬ ((∀ name ∈ account.memberNames ⟨4, true⟩, name ≠ []) ∧
        (account.memberNames ⟨4, true⟩).Nodup) := by
  refine ⟨by simp [account, Element.new], by simp [account, Element.new], rfl, ?_⟩
  rintro ⟨hnonempty, -⟩
  exact hnonempty [] (by decide) rfl

end DeclGen
