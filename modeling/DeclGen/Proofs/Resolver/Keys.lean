import Mathlib.Data.List.Induction
import Mathlib.Data.List.Nodup
import DeclGen.Proofs.Native.Regular
import DeclGen.Resolver

/-!
# DeclGen.Proofs.Resolver.Keys

Which substitutions the mapping of a type depends on.

1. The keys of a type are the texts under which its nodes are looked up: a path
   and its last segment, the spelling of a scalar, and `str` for a text
   (`Native.keys`).
2. A resolver comes from another one by changes of its settings and by
   substitutions; of several for one key the last counts (`lookup_after`).

The mapping of a type is the same under resolvers with the same settings and the
same targets for its keys (`resolve_congr`), so the other keys do not matter to
it, nor does the order of substitutions for different keys.
-/

namespace DeclGen

/-! ## the keys of a type -/

/-- The texts under which a node is looked up. -/
def Native.ownKeys : Native → List String
  | primitive kind => kind.spelling :: if kind = .string then ["str"] else []
  | named path _ => [path, lastSegment path]
  | _ => []

/-- The texts under which the nodes of a type are looked up. -/
def Native.keys (t : Native) : List String := t.nodes.flatMap ownKeys

/-- A property of all keys is one of the node's own and of all keys below it. -/
theorem Native.forall_keys {t : Native} {p : String → Prop} :
    (∀ key ∈ t.keys, p key) ↔
      (∀ key ∈ t.ownKeys, p key) ∧ ∀ c ∈ t.children, ∀ key ∈ c.keys, p key := by
  simp only [keys, List.forall_mem_flatMap]
  exact forall_nodes

namespace Resolver

/-! ## what a mapping depends on -/

section Congr

variable {r r' : Resolver}

/-- A scalar is looked up under its own keys. -/
theorem primitiveSubstitution_congr {kind : Primitive}
    (h : ∀ key ∈ (Native.primitive kind).ownKeys, r.lookup key = r'.lookup key) :
    r.primitiveSubstitution kind = r'.primitiveSubstitution kind := by
  rw [primitiveSubstitution, primitiveSubstitution, h kind.spelling List.mem_cons_self]
  by_cases hstring : kind = .string
  · rw [if_pos hstring, if_pos hstring, h "str" (by simp [Native.ownKeys, hstring])]
  · rw [if_neg hstring, if_neg hstring]

/-- A path is looked up under its own keys. -/
theorem substitution_congr {path : String}
    (h : ∀ key ∈ [path, Native.lastSegment path], r.lookup key = r'.lookup key) :
    r.substitution path = r'.substitution path := by
  rw [substitution, substitution, h path (by simp), h (Native.lastSegment path) (by simp)]

/-- **A mapping depends on the keys of the type alone**, besides the settings, and
on the style of optional types only if there is one in the type. -/
theorem resolve_congr {t : Native} (hstrip : r.stripNamespaces = r'.stripNamespaces)
    (hstyle : ∀ inner, .optional inner ∈ t.nodes → r.optionalStyle = r'.optionalStyle)
    (hkeys : ∀ key ∈ t.keys, r.lookup key = r'.lookup key) : r.resolve t = r'.resolve t := by
  induction t using Native.induction_children with
  | step t ih =>
    obtain ⟨hown, hbelow⟩ := Native.forall_keys.mp hkeys
    have hstyles : ∀ c ∈ t.children, ∀ inner, .optional inner ∈ c.nodes →
        r.optionalStyle = r'.optionalStyle := fun c hc inner hinner =>
      hstyle inner (t.mem_nodes.mpr (.inr ⟨c, hc, hinner⟩))
    have hsame : ∀ c ∈ t.children, r.resolve c = r'.resolve c :=
      fun c hc => ih c hc (hstyles c hc) (hbelow c hc)
    cases t with
    | primitive kind => rw [resolve, resolve, primitiveSubstitution_congr hown]
    | named path arguments =>
        have hname : r.pathName path = r'.pathName path := by rw [pathName, pathName, hstrip]
        have harguments : resolveAll r arguments = resolveAll r' arguments := by
          rw [resolveAll_eq_map, resolveAll_eq_map]
          exact List.map_congr_left hsame
        rw [resolve, resolve, substitution_congr hown, hname, harguments]
    | sequence element => rw [resolve, resolve, hsame element (by simp [Native.children])]
    | array element length => rw [resolve, resolve, hsame element (by simp [Native.children])]
    | map key value =>
        rw [resolve, resolve, hsame key (by simp [Native.children]),
          hsame value (by simp [Native.children])]
    | optional inner =>
        have hself := hstyle inner ((Native.mem_nodes _).mpr (.inl rfl))
        rw [resolve, resolve, hsame inner (by simp [Native.children]), ofOptional, ofOptional,
          hself]
    | tuple items =>
        rw [resolve, resolve, resolveAll_eq_map, resolveAll_eq_map]
        exact congrArg TypeName.tuple (List.map_congr_left hsame)

end Congr

/-! ## changes -/

/-- A change of a resolver. -/
inductive Change where
  | substitute (path : String) (target : TypeName)
  | stripNamespaces (strip : Bool)
  | optionalStyle (style : OptionalStyle)

/-- The resolver after a change. -/
def Change.apply (r : Resolver) : Change → Resolver
  | substitute path target => r.substitute path target
  | stripNamespaces strip => r.withStripNamespaces strip
  | optionalStyle style => r.withOptionalStyle style

/-- The target that a change puts for a key. -/
def Change.target? (key : String) : Change → Option TypeName
  | substitute path target => if path = key then some target else none
  | _ => none

/-- The resolver after several changes. -/
def after (r : Resolver) (changes : List Change) : Resolver := changes.foldl Change.apply r

/-- The last target that changes put for a key. -/
def lastTarget? (key : String) (changes : List Change) : Option TypeName :=
  (changes.filterMap (Change.target? key)).getLast?

/-- One change more is the last. -/
theorem lookup_apply (r : Resolver) (change : Change) (key : String) :
    (change.apply r).lookup key = (change.target? key).or (r.lookup key) := by
  cases change with
  | substitute path target =>
      rw [Change.apply, lookup_substitute, Change.target?]
      split <;> rfl
  | stripNamespaces strip => rfl
  | optionalStyle style => rfl

/-- Of two runs of changes the later one counts. -/
theorem lastTarget?_append (key : String) (changes others : List Change) :
    lastTarget? key (changes ++ others) =
      (lastTarget? key others).or (lastTarget? key changes) := by
  rw [lastTarget?, List.filterMap_append, List.getLast?_append, lastTarget?, lastTarget?]

/-- The last target put for a key is found under it. -/
theorem lookup_after (r : Resolver) (changes : List Change) (key : String) :
    (r.after changes).lookup key = (lastTarget? key changes).or (r.lookup key) := by
  induction changes using List.reverseRecOn with
  | nil => rfl
  | append_singleton changes change ih =>
      have hstep : r.after (changes ++ [change]) = change.apply (r.after changes) := by
        rw [after, List.foldl_append]
        rfl
      have hone : lastTarget? key [change] = change.target? key := by
        cases h : change.target? key <;> simp [lastTarget?, h]
      rw [hstep, lookup_apply, ih, lastTarget?_append, hone, Option.or_assoc]

/-! ## settings -/

/-- Two resolvers have the same settings, whatever is substituted. -/
structure SameSettings (r r' : Resolver) : Prop where
  stripNamespaces : r.stripNamespaces = r'.stripNamespaces
  optionalStyle : r.optionalStyle = r'.optionalStyle

theorem SameSettings.symm {r r' : Resolver} (h : SameSettings r r') : SameSettings r' r :=
  ⟨h.stripNamespaces.symm, h.optionalStyle.symm⟩

theorem SameSettings.trans {r r' r'' : Resolver} (h : SameSettings r r')
    (h' : SameSettings r' r'') : SameSettings r r'' :=
  ⟨h.stripNamespaces.trans h'.stripNamespaces, h.optionalStyle.trans h'.optionalStyle⟩

/-- The same changes leave the same settings. -/
theorem SameSettings.after {r r' : Resolver} (h : SameSettings r r') (changes : List Change) :
    SameSettings (r.after changes) (r'.after changes) := by
  induction changes generalizing r r' with
  | nil => exact h
  | cons change changes ih =>
      refine ih (?_ : SameSettings (change.apply r) (change.apply r'))
      cases change with
      | substitute path target => exact ⟨h.stripNamespaces, h.optionalStyle⟩
      | stripNamespaces strip => exact ⟨rfl, h.optionalStyle⟩
      | optionalStyle style => exact ⟨h.stripNamespaces, rfl⟩

/-- The substitutions of a list, in their order. -/
def writes (entries : List (String × TypeName)) : List Change :=
  entries.map fun entry => .substitute entry.1 entry.2

/-- Substitutions leave the settings as they are. -/
theorem sameSettings_writes (r : Resolver) (entries : List (String × TypeName)) :
    SameSettings (r.after (writes entries)) r := by
  induction entries generalizing r with
  | nil => exact ⟨rfl, rfl⟩
  | cons entry entries ih =>
      obtain ⟨hstrip, hstyle⟩ := ih (r.substitute entry.1 entry.2)
      exact ⟨hstrip, hstyle⟩

/-- Changes with substitutions among them leave the settings that they leave
without these. -/
theorem sameSettings_after_writes (r : Resolver) (before behind : List Change)
    (entries : List (String × TypeName)) :
    SameSettings (r.after (before ++ writes entries ++ behind)) (r.after (before ++ behind)) := by
  have hsplit : ∀ changes others : List Change,
      r.after (changes ++ others) = (r.after changes).after others :=
    fun _ _ => List.foldl_append
  rw [hsplit, hsplit, hsplit]
  exact (sameSettings_writes _ entries).after behind

/-! ## the order of substitutions -/

/-- Where no two entries have the same key, a key has one entry at most. -/
theorem length_targets_le_one {entries : List (String × TypeName)}
    (hnodup : (entries.map Prod.fst).Nodup) (key : String) :
    ((writes entries).filterMap (Change.target? key)).length ≤ 1 := by
  induction entries with
  | nil => simp [writes]
  | cons entry entries ih =>
      obtain ⟨hnot, hrest⟩ := List.nodup_cons.mp hnodup
      have hstep : (writes (entry :: entries)).filterMap (Change.target? key) =
          (if entry.1 = key then [entry.2] else []) ++
            (writes entries).filterMap (Change.target? key) := by
        by_cases h : entry.1 = key <;> simp [writes, Change.target?, h]
      rw [hstep]
      by_cases h : entry.1 = key
      · have hnone : (writes entries).filterMap (Change.target? key) = [] := by
          refine List.filterMap_eq_nil_iff.mpr fun change hchange => ?_
          obtain ⟨other, hother, rfl⟩ := List.mem_map.mp hchange
          have hne : other.1 ≠ key := fun heq =>
            hnot (List.mem_map.mpr ⟨other, hother, heq.trans h.symm⟩)
          exact if_neg hne
        simp [h, hnone]
      · simpa [h] using ih hrest

/-- Entries with different keys put the same targets in every order. -/
theorem lastTarget?_writes_perm {entries others : List (String × TypeName)}
    (hperm : entries.Perm others) (hnodup : (entries.map Prod.fst).Nodup) (key : String) :
    lastTarget? key (writes entries) = lastTarget? key (writes others) := by
  have htargets : ((writes entries).filterMap (Change.target? key)).Perm
      ((writes others).filterMap (Change.target? key)) := (hperm.map _).filterMap _
  have hshort := length_targets_le_one hnodup key
  have hsame : (writes entries).filterMap (Change.target? key) =
      (writes others).filterMap (Change.target? key) := by
    match h : (writes entries).filterMap (Change.target? key), hshort with
    | [], _ => exact (List.nil_perm.mp (h ▸ htargets)).symm
    | [target], _ => exact List.singleton_perm.mp (h ▸ htargets)
  rw [lastTarget?, lastTarget?, hsame]

/-! ## the law -/

/-- **A mapping reads the substitutions under the keys of the type only.**

* Under resolvers that come from one by changes, however many and in whatever
  order, a type is mapped to the same if the settings are the same in the end
  and the last target of each of its keys is.
* A substitution for another key changes nothing, wherever it is made.
* Substitutions for different keys may be made in every order. -/
theorem resolve_reads_own_keys (r : Resolver) (t : Native) :
    (∀ changes others : List Change, SameSettings (r.after changes) (r.after others) →
        (∀ key ∈ t.keys, lastTarget? key changes = lastTarget? key others) →
          (r.after changes).resolve t = (r.after others).resolve t) ∧
      (∀ (before behind : List Change) (key : String) (target : TypeName), key ∉ t.keys →
        (r.after (before ++ .substitute key target :: behind)).resolve t =
          (r.after (before ++ behind)).resolve t) ∧
      ∀ (before behind : List Change) (entries others : List (String × TypeName)),
        entries.Perm others → (entries.map Prod.fst).Nodup →
          (r.after (before ++ writes entries ++ behind)).resolve t =
            (r.after (before ++ writes others ++ behind)).resolve t := by
  have hlast : ∀ changes others : List Change,
      SameSettings (r.after changes) (r.after others) →
      (∀ key ∈ t.keys, lastTarget? key changes = lastTarget? key others) →
      (r.after changes).resolve t = (r.after others).resolve t := by
    intro changes others hsettings hkeys
    refine resolve_congr hsettings.stripNamespaces (fun _ _ => hsettings.optionalStyle)
      fun key hkey => ?_
    rw [lookup_after, lookup_after, hkeys key hkey]
  refine ⟨hlast, ?_, ?_⟩
  · intro before behind key target hnot
    have hwrite : before ++ .substitute key target :: behind =
        before ++ writes [(key, target)] ++ behind := by simp [writes]
    rw [hwrite]
    refine hlast _ _ (sameSettings_after_writes r before behind _) fun other hother => ?_
    have hne : key ≠ other := fun h => hnot (h ▸ hother)
    have hnone : lastTarget? other (writes [(key, target)]) = none := by
      simp [lastTarget?, writes, Change.target?, hne]
    rw [lastTarget?_append, lastTarget?_append, hnone, Option.none_or, lastTarget?_append]
  · intro before behind entries others hperm hnodup
    have hsettings := sameSettings_after_writes r before behind
    refine hlast _ _ ((hsettings entries).trans (hsettings others).symm) fun key _ => ?_
    simp only [lastTarget?_append, lastTarget?_writes_perm hperm hnodup]

/-- A text is found under `str` only without a target for `String`; what was put
for it before, and what is put for `u64`, does not matter. -/
theorem resolve_reads_own_keys_dates :
    let t : Native := .map (.primitive .string) (.sequence (.named "chrono::DateTime" []))
    let date : Change := .substitute "DateTime" (.simple "Date")
    let name : Change := .substitute "String" (.simple "Name")
    let old : Change := .substitute "String" (.simple "Text")
    let big : Change := .substitute "u64" (.simple "bigint")
    t.keys = ["String", "str", "chrono::DateTime", "DateTime"] ∧
      (default.after [old, big, date, name]).resolve t = (default.after [name, date]).resolve t ∧
      (default.after ([old] ++ big :: [name])).resolve t =
        (default.after ([old] ++ [name])).resolve t ∧
      (default.after ([old] ++ writes [("DateTime", .simple "Date"), ("str", .simple "Text")] ++
        [name])).resolve t =
        (default.after ([old] ++ writes [("str", .simple "Text"), ("DateTime", .simple "Date")] ++
          [name])).resolve t := by
  intro t date name old big
  have hkeys : t.keys = ["String", "str", "chrono::DateTime", "DateTime"] := by decide
  have hsettings : SameSettings (default.after [old, big, date, name])
      (default.after [name, date]) := ⟨rfl, rfl⟩
  obtain ⟨hlast, hother, horder⟩ := resolve_reads_own_keys default t
  exact ⟨hkeys, hlast _ _ hsettings (by decide), hother [old] [name] _ _ (by decide),
    horder [old] [name] _ _ (List.Perm.swap _ _ _) (by decide)⟩

end Resolver

end DeclGen
