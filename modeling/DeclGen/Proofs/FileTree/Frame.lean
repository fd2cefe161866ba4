import DeclGen.FileTree
import DeclGen.Proofs.Emission.InTurn
import DeclGen.Proofs.Native.Token

/-!
# DeclGen.Proofs.FileTree.Frame

What the operations on a tree of files leave as it was.

1. Reading leaves the tree alone (`runIn_read`).
2. Making directories puts directories where nothing was, and only on the way of
   the path, also if it ends with an error (`grows_createDirectories`).
3. Writing changes the place that the path leads to, and no other
   (`writeBytes_eq_ok`); what is written is read back (`readText_of_write`).
-/

namespace DeclGen.FileTree

variable {t t' t₁ : FileTree} {place : Place}

/-! ## operations in a tree -/

@[simp] theorem runIn_read (path : Path) (t : FileTree) :
    runIn (fileSystem.read path) t = (t.readText path, t) := rfl

/-- Writing leaves the tree that it makes, or the one before if it fails. -/
theorem runIn_write (path : Path) (text : String) (t : FileTree) :
    runIn (fileSystem.write path text) t = match t.writeBytes path text.toUTF8 with
      | .ok t' => (.ok (), t')
      | .error error => (.error error, t) := by
  have hrun : runIn (fileSystem.write path text) t =
      runIn (liftM (t.writeBytes path text.toUTF8) >>= set :
        ExceptT FileError (StateM FileTree) Unit) t := rfl
  rw [hrun]
  cases t.writeBytes path text.toUTF8 <;> rfl

/-- A directory is made where nothing is. -/
theorem runIn_createDirectory (place : Place) (t : FileTree) :
    runIn (createDirectory place) t = match t.lookup? place with
      | some .directory => (.ok (), t)
      | some (.file _) => (.error .alreadyExists, t)
      | none => (.ok (), t.insert place .directory) := by
  have hrun : runIn (createDirectory place) t = runIn (match t.lookup? place with
      | some .directory => pure ()
      | some (.file _) => throw .alreadyExists
      | none => modify fun t => t.insert place .directory) t := rfl
  rw [hrun]
  cases t.lookup? place with
  | none => rfl
  | some entry => cases entry <;> rfl

/-! ## places -/

theorem lookup?_insert_self (t : FileTree) (hplace : place ≠ []) (entry : Entry) :
    (t.insert place entry).lookup? place = some entry := by
  have hempty : place.isEmpty = false := by simpa using hplace
  simp [lookup?, insert, hempty]

theorem lookup?_insert_of_ne (t : FileTree) {other : Place} (h : other ≠ place) (entry : Entry) :
    (t.insert place entry).lookup? other = t.lookup? other := by
  have hne : (other == place) = false := by simpa using h
  simp [lookup?, insert, List.lookup_cons, hne]

/-- What is no directory is not the top. -/
theorem ne_nil_of_lookup? (h : t.lookup? place ≠ some .directory) : place ≠ [] := by
  rintro rfl
  exact h rfl

@[simp] theorem route_insert (t : FileTree) (place : Place) (entry : Entry) (path : Path) :
    (t.insert place entry).route path = t.route path := rfl

/-- A path leads to a place, whatever is there. -/
def LeadsTo (t : FileTree) (path : Path) (place : Place) : Prop :=
  ∃ route, t.route path = .ok route ∧ route.parts.foldlM enter route.start = .ok place

/-- A place is on the way of a path: some first parts of it lead there. -/
def OnWay (t : FileTree) (path : Path) (place : Place) : Prop :=
  ∃ route front, t.route path = .ok route ∧ front <+: route.parts ∧
    front.foldlM enter route.start = .ok place

theorem LeadsTo.onWay {path : Path} (h : t.LeadsTo path place) : t.OnWay path place := by
  obtain ⟨route, hroute, hplace⟩ := h
  exact ⟨route, route.parts, hroute, List.prefix_rfl, hplace⟩

theorem enter_of_follow {part : String} {next : Place} (h : t.follow place part = .ok next) :
    enter place part = .ok next := by
  obtain ⟨⟨⟩, -, henter⟩ := Native.bind_eq_ok.mp h
  exact henter

/-- A path that can be followed in a tree leads to where it is followed. -/
theorem leadsTo_of_locate {path : Path} (h : t.locate path = .ok place) : t.LeadsTo path place := by
  have hfold : ∀ (parts : List String) (start : Place),
      parts.foldlM t.follow start = .ok place → parts.foldlM enter start = .ok place := by
    intro parts
    induction parts with
    | nil => exact fun _ h => h
    | cons part parts ih =>
        intro start h
        obtain ⟨next, hnext, htail⟩ := Native.bind_eq_ok.mp h
        exact Native.bind_eq_ok.mpr ⟨next, enter_of_follow hnext, ih next htail⟩
  obtain ⟨route, hroute, h⟩ := Native.bind_eq_ok.mp h
  exact ⟨route, hroute, hfold route.parts route.start h⟩

/-- Writing puts a file where the path leads, which must be no directory. -/
theorem writeBytes_eq_ok {path : Path} {bytes : ByteArray} :
    t.writeBytes path bytes = .ok t' ↔ path.text.toList.getLast? ≠ some '/' ∧
      ∃ place, t.locate path = .ok place ∧ t.lookup? place ≠ some .directory ∧
        t' = t.insert place (.file bytes) := by
  rw [writeBytes]
  split
  · next h => simp [h]
  · next h =>
      rw [and_iff_right h, Native.bind_eq_ok]
      refine exists_congr fun place => and_congr_right fun _ => ?_
      split
      · next h => simp [h]
      · next h =>
          constructor
          · rintro ⟨⟩
            exact ⟨h, rfl⟩
          · rintro ⟨-, rfl⟩
            rfl

/-! ## growing -/

/-- A tree grows at some places: where nothing was there can be a directory, and
everything else is as it was. -/
structure Grows (places : Place → Prop) (t t' : FileTree) : Prop where
  workingDirectory : t'.workingDirectory = t.workingDirectory
  lookup : ∀ place, t'.lookup? place = t.lookup? place ∨
    places place ∧ t.lookup? place = none ∧ t'.lookup? place = some .directory

variable {places more : Place → Prop}

theorem Grows.refl (t : FileTree) : Grows places t t := ⟨rfl, fun _ => .inl rfl⟩

theorem Grows.mono (h : Grows places t t') (hmore : ∀ place, places place → more place) :
    Grows more t t' where
  workingDirectory := h.workingDirectory
  lookup := fun place => (h.lookup place).imp_right fun ⟨hplace, hnew⟩ => ⟨hmore place hplace, hnew⟩

theorem Grows.trans (h : Grows places t t₁) (h' : Grows places t₁ t') : Grows places t t' := by
  refine ⟨h'.workingDirectory.trans h.workingDirectory, fun place => ?_⟩
  rcases h'.lookup place with hsame' | ⟨hplace, hnone, hnew⟩
  · rw [hsame']
    exact h.lookup place
  · rcases h.lookup place with hsame | ⟨-, -, hdirectory⟩
    · exact .inr ⟨hplace, hsame.symm.trans hnone, hnew⟩
    · rw [hdirectory] at hnone
      contradiction

/-- Paths start where they did. -/
theorem Grows.route_eq (h : Grows places t t') (path : Path) : t'.route path = t.route path := by
  unfold route
  rw [h.workingDirectory]

theorem Grows.leadsTo {path : Path} (h : Grows places t t') (hpath : t'.LeadsTo path place) :
    t.LeadsTo path place := by
  obtain ⟨route, hroute, hplace⟩ := hpath
  exact ⟨route, (h.route_eq path).symm.trans hroute, hplace⟩

/-- Only one place can get a directory. -/
theorem grows_createDirectory {result : Except FileError Unit}
    (h : runIn (createDirectory place) t = (result, t')) : Grows (· = place) t t' := by
  rw [runIn_createDirectory] at h
  split at h
  · cases h
    exact .refl t
  · cases h
    exact .refl t
  · next hnone =>
      cases h
      have hplace : place ≠ [] := ne_nil_of_lookup? (t := t) (by rw [hnone]; nofun)
      refine ⟨rfl, fun other => ?_⟩
      by_cases hother : other = place
      · subst hother
        exact .inr ⟨rfl, hnone, lookup?_insert_self t hplace _⟩
      · exact .inl (lookup?_insert_of_ne t hother _)

/-- A directory is made for a part where the part leads. -/
theorem runIn_createNext (place : Place) (part : String) (t : FileTree) :
    runIn (createNext place part) t = match t.follow place part with
      | .error error => (.error error, t)
      | .ok next => runIn (createDirectory next >>= fun _ => pure next) t := by
  have hrun : runIn (createNext place part) t =
      runIn (liftM (t.follow place part) >>= fun next => do
        createDirectory next
        pure next) t := rfl
  rw [hrun]
  cases t.follow place part <;> rfl

/-- A part leads to the only place where a directory can be made for it. -/
theorem grows_createNext {part : String} {result : Except FileError Place}
    (h : runIn (createNext place part) t = (result, t')) :
    Grows (enter place part = .ok ·) t t' ∧
      ∀ next, result = .ok next → enter place part = .ok next := by
  rw [runIn_createNext] at h
  cases hfollow : t.follow place part with
  | error error =>
      rw [hfollow] at h
      obtain ⟨rfl, rfl⟩ := Prod.mk.inj h
      exact ⟨.refl t, nofun⟩
  | ok next =>
      have henter := enter_of_follow hfollow
      rw [hfollow] at h
      rcases hrun : runIn (createDirectory next) t with ⟨made, t₁⟩
      have hgrows : Grows (enter place part = .ok ·) t t₁ :=
        (grows_createDirectory hrun).mono fun _ hplace => hplace ▸ henter
      cases made with
      | error error =>
          obtain ⟨rfl, rfl⟩ := Prod.mk.inj ((runIn_bind_of_error hrun).symm.trans h)
          exact ⟨hgrows, nofun⟩
      | ok made =>
          obtain ⟨rfl, rfl⟩ := Prod.mk.inj ((runIn_bind_of_ok hrun).symm.trans h)
          refine ⟨hgrows, fun _ hnext => ?_⟩
          rwa [← Except.ok.inj hnext]

/-- Directories that are made part by part are where the first parts lead. -/
theorem grows_foldlM (parts : List String) {result : Except FileError Place}
    (h : runIn (parts.foldlM createNext place) t = (result, t')) :
    Grows (fun other => ∃ front, front <+: parts ∧ front.foldlM enter place = .ok other) t t' := by
  induction parts generalizing place t with
  | nil =>
      rw [List.foldlM_nil, runIn_pure] at h
      obtain ⟨-, rfl⟩ := Prod.mk.inj h
      exact .refl t
  | cons part parts ih =>
      -- what is made first stays on the way, also if a later part fails
      rcases hrun : runIn (createNext place part) t with ⟨first, t₁⟩
      obtain ⟨hstep, hnext⟩ := grows_createNext hrun
      have hfirst : Grows (fun other => ∃ front, front <+: part :: parts ∧
          front.foldlM enter place = .ok other) t t₁ := by
        refine hstep.mono fun other hother => ⟨[part], List.prefix_append [part] parts, ?_⟩
        rw [List.foldlM_cons, hother]
        rfl
      rw [List.foldlM_cons] at h
      cases first with
      | error error =>
          rw [runIn_bind_of_error hrun] at h
          obtain ⟨-, rfl⟩ := Prod.mk.inj h
          exact hfirst
      | ok next =>
          rw [runIn_bind_of_ok hrun] at h
          refine hfirst.trans ((ih h).mono ?_)
          rintro other ⟨front, hfront, hother⟩
          refine ⟨part :: front, List.cons_prefix_cons.mpr ⟨rfl, hfront⟩, ?_⟩
          rw [List.foldlM_cons, hnext next rfl]
          exact hother

/-- The directories that are made on a route are where its first parts lead. -/
theorem grows_createAlong {route : Route} {result : Except FileError Unit}
    (h : runIn (createAlong route) t = (result, t')) :
    Grows (fun other => ∃ front, front <+: route.parts ∧
      front.foldlM enter route.start = .ok other) t t' := by
  rcases hrun : runIn (route.parts.foldlM createNext route.start) t with ⟨error | place, t₁⟩
  · obtain ⟨-, rfl⟩ := Prod.mk.inj ((runIn_bind_of_error hrun).symm.trans h)
    exact grows_foldlM route.parts hrun
  · obtain ⟨-, rfl⟩ := Prod.mk.inj ((runIn_bind_of_ok hrun).symm.trans h)
    exact grows_foldlM route.parts hrun

/-- Making the directory of a path makes directories on the way of it, and changes
nothing else. -/
theorem grows_createDirectories {path : Path} {result : Except FileError Unit}
    (h : runIn (createDirectories path) t = (result, t')) : Grows (t.OnWay path) t t' := by
  have hget : runIn (get : ExceptT FileError (StateM FileTree) FileTree) t = (.ok t, t) := rfl
  rw [createDirectories, runIn_bind_of_ok hget] at h
  split at h
  · next place hlocate =>
      exact (grows_createDirectory h).mono fun _ hplace =>
        hplace ▸ (leadsTo_of_locate hlocate).onWay
  · cases hroute : t.route path with
    | error error =>
        rw [hroute] at h
        obtain ⟨-, rfl⟩ := Prod.mk.inj h
        exact .refl t
    | ok route =>
        rw [hroute] at h
        exact (grows_createAlong h).mono fun _ ⟨front, hfront, hother⟩ =>
          ⟨route, front, hroute, hfront, hother⟩
  · obtain ⟨-, rfl⟩ := Prod.mk.inj h
    exact .refl t

/-! ## writing -/

theorem expectDirectory_eq_ok {u : Unit} :
    t.expectDirectory place = .ok u ↔ t.lookup? place = some .directory := by
  unfold expectDirectory
  split <;> simp_all

/-- A path leads to the file that is put where it leads. -/
theorem locate_insert_file {path : Path} (h : t.locate path = .ok place)
    (hplace : t.lookup? place ≠ some .directory) (bytes : ByteArray) :
    (t.insert place (.file bytes)).locate path = .ok place := by
  -- the directories on the way are other places than that of the file
  have hfold : ∀ (parts : List String) (start : Place),
      parts.foldlM t.follow start = .ok place →
      parts.foldlM (t.insert place (.file bytes)).follow start = .ok place := by
    intro parts
    induction parts with
    | nil => exact fun _ h => h
    | cons part parts ih =>
        intro start h
        obtain ⟨next, hnext, htail⟩ := Native.bind_eq_ok.mp h
        obtain ⟨⟨⟩, hdirectory, henter⟩ := Native.bind_eq_ok.mp hnext
        have hstart := expectDirectory_eq_ok.mp hdirectory
        have hne : start ≠ place := fun heq => hplace (heq ▸ hstart)
        have hinsert := (lookup?_insert_of_ne t hne (.file bytes)).trans hstart
        exact Native.bind_eq_ok.mpr ⟨next, Native.bind_eq_ok.mpr
          ⟨(), expectDirectory_eq_ok.mpr hinsert, henter⟩, ih next htail⟩
  obtain ⟨route, hroute, h⟩ := Native.bind_eq_ok.mp h
  exact Native.bind_eq_ok.mpr
    ⟨route, (route_insert t place _ path).trans hroute, hfold route.parts route.start h⟩

/-- A text that is written is put where the path leads. -/
theorem writeBytes_of_write {path : Path} {text : String}
    (h : runIn (fileSystem.write path text) t = (.ok (), t')) :
    t.writeBytes path text.toUTF8 = .ok t' := by
  rw [runIn_write] at h
  split at h
  · next hbytes =>
      obtain ⟨-, rfl⟩ := Prod.mk.inj h
      exact hbytes
  · exact absurd (Prod.mk.inj h).1 nofun

/-- A text that is written is read back. -/
theorem readText_of_write {path : Path} {text : String}
    (h : runIn (fileSystem.write path text) t = (.ok (), t')) : t'.readText path = .ok text := by
  obtain ⟨-, place, hlocate, hplace, rfl⟩ := writeBytes_eq_ok.mp (writeBytes_of_write h)
  have hread : (t.insert place (.file text.toUTF8)).readBytes path = .ok text.toUTF8 := by
    rw [readBytes, locate_insert_file hlocate hplace, Native.ok_bind,
      lookup?_insert_self t (ne_nil_of_lookup? hplace)]
  have htext : String.fromUTF8? text.toUTF8 = some text := by
    rw [String.fromUTF8?, String.toUTF8_eq_toByteArray, dif_pos text.isValidUTF8]
    rfl
  rw [readText, hread, Native.ok_bind, htext]

/-- A file with a text is written to a path: the place that the path leads to
holds the text, and elsewhere directories are made where nothing was, on the way
of the path's parent, and everything is as it was. -/
def Written (t : FileTree) (path : Path) (text : String) (t' : FileTree) : Prop :=
  t'.workingDirectory = t.workingDirectory ∧
    ∃ place, t.LeadsTo path place ∧ t'.lookup? place = some (.file text.toUTF8) ∧
      ∀ other, other ≠ place → t'.lookup? other = t.lookup? other ∨
        (∃ parent, path.parent? = some parent ∧ t.OnWay parent other) ∧
          t.lookup? other = none ∧ t'.lookup? other = some .directory

/-- Writing into a tree that has grown on the way to the file. -/
theorem written_of_grows {path : Path} {text : String}
    (hgrows : Grows (fun other => ∃ parent, path.parent? = some parent ∧ t.OnWay parent other) t t₁)
    (hwrite : runIn (fileSystem.write path text) t₁ = (.ok (), t')) :
    t.Written path text t' := by
  obtain ⟨-, place, hlocate, hplace, rfl⟩ := writeBytes_eq_ok.mp (writeBytes_of_write hwrite)
  refine ⟨hgrows.workingDirectory, place, hgrows.leadsTo (leadsTo_of_locate hlocate),
    lookup?_insert_self t₁ (ne_nil_of_lookup? hplace) _, fun other hother => ?_⟩
  rw [lookup?_insert_of_ne t₁ hother]
  exact hgrows.lookup other

end DeclGen.FileTree
