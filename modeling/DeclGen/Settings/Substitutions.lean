/-!
# DeclGen.Settings.Substitutions

The substitutions of the settings: texts by key, in ascending order of the keys
and with each key once.
-/

namespace DeclGen

/-- Texts by key.  The entries ascend strictly by key. -/
structure Substitutions where
  entries : List (String × String)
  ascending : entries.Pairwise fun a b => a.1 < b.1

namespace Substitutions

/-- No substitutions. -/
def empty : Substitutions := ⟨[], .nil⟩

instance : Inhabited Substitutions := ⟨empty⟩

/-- Ascending entries with one more; it takes the place of an entry with the
same key. -/
def insertEntry (key value : String) : List (String × String) → List (String × String)
  | [] => [(key, value)]
  | entry :: rest =>
    if key < entry.1 then (key, value) :: entry :: rest
    else if key = entry.1 then (key, value) :: rest
    else entry :: insertEntry key value rest

/-- The keys after an insertion. -/
theorem mem_insertEntry {key value : String} {entries : List (String × String)}
    {entry : String × String} (h : entry ∈ insertEntry key value entries) :
    entry = (key, value) ∨ entry ∈ entries := by
  induction entries with
  | nil => simp_all [insertEntry]
  | cons e rest ih =>
      unfold insertEntry at h
      split at h
      · simpa using h
      · split at h
        · rcases List.mem_cons.1 h with h | h
          · exact .inl h
          · exact .inr (List.mem_cons_of_mem _ h)
        · rcases List.mem_cons.1 h with h | h
          · exact .inr (h ▸ List.mem_cons_self)
          · exact (ih h).imp id (List.mem_cons_of_mem _)

/-- An insertion keeps the entries ascending. -/
theorem ascending_insertEntry {key value : String} {entries : List (String × String)}
    (h : entries.Pairwise fun a b => a.1 < b.1) :
    (insertEntry key value entries).Pairwise fun a b => a.1 < b.1 := by
  induction entries with
  | nil => simp [insertEntry]
  | cons e rest ih =>
      have ⟨head, tail⟩ := List.pairwise_cons.1 h
      unfold insertEntry
      split
      · next lt =>
        refine List.pairwise_cons.2 ⟨fun x hx => ?_, h⟩
        rcases List.mem_cons.1 hx with rfl | hx
        · exact lt
        · exact String.lt_trans lt (head x hx)
      · next ge =>
        split
        · next eq =>
          exact List.pairwise_cons.2 ⟨fun x hx => eq ▸ head x hx, tail⟩
        · next ne =>
          refine List.pairwise_cons.2 ⟨fun x hx => ?_, ih tail⟩
          rcases mem_insertEntry hx with rfl | hx
          · rcases Std.lt_trichotomy key e.1 with lt | eq | gt
            · exact absurd lt ge
            · exact absurd eq ne
            · exact gt
          · exact head x hx

/-- The substitutions with one more, in place of one with the same key. -/
def insert (s : Substitutions) (key value : String) : Substitutions :=
  ⟨insertEntry key value s.entries, ascending_insertEntry s.ascending⟩

/-- The substitutions given by a list, in which a later one counts. -/
def ofList (entries : List (String × String)) : Substitutions :=
  entries.foldl (fun s entry => s.insert entry.1 entry.2) empty

/-- The value of a key. -/
def get? (s : Substitutions) (key : String) : Option String := s.entries.lookup key

end Substitutions

end DeclGen
