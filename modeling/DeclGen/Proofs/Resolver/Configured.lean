import DeclGen.Proofs.Resolver.Nodes
import DeclGen.Settings.Basic

/-!
# DeclGen.Proofs.Resolver.Configured

The targets that settings put.

* `isTarget_ofSettings`: they are the trimmed texts of the settings, as names;
* `lookup_ofSettings`: each is found under its own key.
-/

namespace DeclGen.Resolver

open Text

variable {r : Resolver}

/-- The target that settings describe by a text. -/
def configuredTarget (text : String) : TypeName := .simple (String.ofList (trim text.toList))

theorem isTarget_substituteAll {entries : List (String × String)} {target : TypeName} :
    (r.substituteAll entries).IsTarget target ↔
      r.IsTarget target ∨ ∃ given ∈ entries, target = configuredTarget given.2 := by
  induction entries generalizing r with
  | nil => simp [substituteAll]
  | cons given entries ih =>
      have hstep : r.substituteAll (given :: entries) =
        (r.substitute given.1 (configuredTarget given.2)).substituteAll entries := rfl
      have hfirst : (r.substitute given.1 (configuredTarget given.2)).IsTarget target ↔
          target = configuredTarget given.2 ∨ r.IsTarget target := by
        simp [IsTarget, substitute, exists_or]
      rw [hstep, ih, hfirst, List.exists_mem_cons_iff, or_assoc, or_left_comm]

/-- The targets are those that the settings describe. -/
theorem isTarget_ofSettings {s : ResolverSettings} {target : TypeName} :
    (ofSettings s).IsTarget target ↔
      ∃ given ∈ s.substitutions.entries, target = configuredTarget given.2 := by
  have hnone : ¬ ((default.withStripNamespaces s.stripNamespaces).withOptionalStyle
      s.optionalStyle).IsTarget target := fun ⟨_, hmem⟩ => nomatch hmem
  exact isTarget_substituteAll.trans (or_iff_right hnone)

/-! ## keys -/

/-- In ascending entries no key comes back behind its entry. -/
theorem lookup_eq_none_of_ascending {given : String × String} {entries : List (String × String)}
    (h : (given :: entries).Pairwise fun a b => a.1 < b.1) :
    entries.lookup given.1 = none := by
  refine List.lookup_eq_none_iff.mpr fun other hother => ?_
  have hlt : given.1 < other.1 := (List.pairwise_cons.mp h).1 other hother
  simpa using (String.ne_of_lt hlt)

/-- Each of ascending entries counts under its key. -/
theorem lookup_substituteAll {entries : List (String × String)}
    (h : entries.Pairwise fun a b => a.1 < b.1) (key : String) :
    (r.substituteAll entries).lookup key =
      ((entries.lookup key).map configuredTarget).or (r.lookup key) := by
  induction entries generalizing r with
  | nil => rfl
  | cons given entries ih =>
      have hstep : r.substituteAll (given :: entries) =
        (r.substitute given.1 (configuredTarget given.2)).substituteAll entries := rfl
      rw [hstep, ih (List.pairwise_cons.mp h).2, lookup_substitute, List.lookup_cons]
      by_cases hkey : given.1 = key
      · subst hkey
        simp [lookup_eq_none_of_ascending h]
      · have hne : (key == given.1) = false := by simpa using Ne.symm hkey
        simp [hkey, hne]

/-- **The target of a key** is the one that the settings describe for it. -/
theorem lookup_ofSettings (s : ResolverSettings) (key : String) :
    (ofSettings s).lookup key = (s.substitutions.get? key).map configuredTarget := by
  rw [ofSettings, lookup_substituteAll s.substitutions.ascending, Substitutions.get?]
  have hnone : ((default.withStripNamespaces s.stripNamespaces).withOptionalStyle
      s.optionalStyle).lookup key = none := rfl
  rw [hnone, Option.or_none]

end DeclGen.Resolver
