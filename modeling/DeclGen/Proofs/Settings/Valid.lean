import DeclGen.Proofs.Native.Token
import DeclGen.Settings.Toml

/-!
# DeclGen.Proofs.Settings.Valid

What is known of settings that passed validation.

* `validate_eq_ok`: no source of a substitution is empty or has blanks, and no
  target is blank.
* `validate_of_parse`: the settings of a document have passed.
-/

namespace DeclGen

open Text

/-- A text is blank if nothing is left of it when it is trimmed. -/
theorem isBlankText_eq_false {s : String} : isBlankText s = false ↔ trim s.toList ≠ [] := by
  rw [isBlankText, List.isEmpty_eq_false_iff]

/-- A substitution that passes. -/
structure ValidSubstitution (source target : String) : Prop where
  source_ne_blank : isBlankText source = false
  source_without_blanks : ∀ c ∈ source.toList, isBlank c = false
  target_ne_blank : isBlankText target = false

theorem checkSubstitution_eq_ok {source target : String} :
    checkSubstitution source target = .ok () ↔ ValidSubstitution source target := by
  unfold checkSubstitution
  constructor
  · intro h
    split at h
    · contradiction
    · next hsource =>
        split at h
        · contradiction
        · next hblanks =>
            split at h
            · contradiction
            · next htarget =>
                have hnone : ∀ c ∈ source.toList, isBlank c = false := by simpa using hblanks
                exact ⟨by simpa using hsource, hnone, by simpa using htarget⟩
  · rintro ⟨hsource, hblanks, htarget⟩
    have hany : source.toList.any isBlank = false := by
      simpa using hblanks
    simp [hsource, hany, htarget]

/-- A list of checks passes if and only if each of them does. -/
theorem forM_eq_ok {ε α : Type} {check : α → Except ε Unit} {as : List α} :
    forM as check = .ok () ↔ ∀ a ∈ as, check a = .ok () := by
  induction as with
  | nil => simp [pure, Except.pure]
  | cons a as ih =>
      rw [List.forM_cons, Native.bind_eq_ok, List.forall_mem_cons, ← ih]
      exact ⟨fun ⟨_, ha, has⟩ => ⟨ha, has⟩, fun ⟨ha, has⟩ => ⟨(), ha, has⟩⟩

/-- **Settings of the mapping pass if and only if all substitutions do.** -/
theorem ResolverSettings.validate_eq_ok {s : ResolverSettings} :
    s.validate = .ok () ↔ ∀ entry ∈ s.substitutions.entries, ValidSubstitution entry.1 entry.2 := by
  rw [validate, List.forM_eq_forM, forM_eq_ok]
  simp only [checkSubstitution_eq_ok]

/-- What is found under a key in settings that pass. -/
theorem ResolverSettings.validSubstitution {s : ResolverSettings} (h : s.validate = .ok ())
    {source target : String} (hkey : s.substitutions.get? source = some target) :
    ValidSubstitution source target :=
  validate_eq_ok.mp h _ (Resolver.mem_of_lookup hkey)

/-- The settings of the mapping pass with all settings. -/
theorem Settings.validate_resolver {s : Settings} (h : s.validate = .ok ()) :
    s.resolver.validate = .ok () := by
  obtain ⟨_, hresolver, -⟩ := Native.bind_eq_ok.mp h
  exact hresolver

/-- The settings of a document have passed. -/
theorem Settings.validate_of_parse {document : String} {s : Settings}
    (h : Settings.parse document = .ok s) : s.validate = .ok () := by
  unfold Settings.parse at h
  split at h
  · contradiction
  · next settings hsettings =>
      split at h
      · contradiction
      · next hvalid =>
          obtain rfl := Except.ok.inj h
          exact hvalid

end DeclGen
