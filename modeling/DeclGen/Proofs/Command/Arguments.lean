import DeclGen.Command.Arguments

/-!
# DeclGen.Proofs.Command.Arguments

How the arguments of a generation are read.

1. Well-formed arguments are made of items: an option with its value, or a plain
   argument (`Item`).  The first argument of an item shows which kind it is, so
   that there is one way at most to find the items (`spell_compare`).
2. Of the items that have been read, a draft keeps the plain argument and the last
   value of each option (`Draft.after`).
3. All arguments are items up to their end, or up to one that breaks the form
   (`Draft.exists_front`).  Nothing to the left of that one does (`Breach`).
-/

namespace DeclGen.Command

/-! ## items -/

/-- The spellings of an option. -/
def PathOption.spellings : PathOption → List String
  | config => ["-c", "--config"]
  | out => ["-o", "--out"]

theorem PathOption.ofFlag?_eq_some {option : PathOption} {text : String} :
    ofFlag? text = some option ↔ text ∈ option.spellings := by
  unfold ofFlag?
  split
  · next h => cases option <;> rcases h with rfl | rfl <;> decide
  · next hconfig =>
      split
      · next h => cases option <;> rcases h with rfl | rfl <;> decide
      · next hout =>
          rw [not_or] at hconfig hout
          cases option <;> simp [spellings, hconfig, hout]

theorem PathOption.ofFlag?_eq_none {text : String} :
    ofFlag? text = none ↔ ∀ option : PathOption, text ∉ option.spellings := by
  simp only [← ofFlag?_eq_some, Option.eq_none_iff_forall_ne_some]

/-- A flag is the spelling of one option only. -/
theorem PathOption.eq_of_mem_spellings {option other : PathOption} {flag : String}
    (h : flag ∈ option.spellings) (h' : flag ∈ other.spellings) : option = other :=
  Option.some.inj ((ofFlag?_eq_some.mpr h).symm.trans (ofFlag?_eq_some.mpr h'))

/-- An argument that starts with a dash. -/
def IsDashed (arg : String) : Prop := arg.toList.head? = some '-'

instance : DecidablePred IsDashed := fun arg =>
  inferInstanceAs (Decidable (arg.toList.head? = some '-'))

theorem isDashed_of_mem_spellings {option : PathOption} {flag : String}
    (h : flag ∈ option.spellings) : IsDashed flag := by
  have hall : ∀ flag ∈ option.spellings, IsDashed flag := by cases option <;> decide
  exact hall flag h

theorem ofFlag?_of_not_isDashed {arg : String} (h : ¬ IsDashed arg) :
    PathOption.ofFlag? arg = none :=
  PathOption.ofFlag?_eq_none.mpr fun _ spelt => h (isDashed_of_mem_spellings spelt)

/-- What arguments are made of. -/
inductive Item where
  /-- An option with any argument for its value. -/
  | pair (option : PathOption) (flag value : String) (spelt : flag ∈ option.spellings)
  /-- An argument without a dash. -/
  | plain (text : String) (undashed : ¬ IsDashed text)

/-- The arguments of an item. -/
def Item.words : Item → List String
  | pair _ flag value _ => [flag, value]
  | plain text _ => [text]

/-- The text of a plain argument. -/
def Item.plain? : Item → Option String
  | pair _ _ _ _ => none
  | plain text _ => some text

/-- The value that an item gives to an option. -/
def Item.value? (option : PathOption) : Item → Option Path
  | pair given _ value _ => if given = option then some ⟨value⟩ else none
  | plain _ _ => none

/-- The arguments of several items. -/
def spell (items : List Item) : List String := items.flatMap Item.words

/-- The plain arguments among items. -/
def plains (items : List Item) : List String := items.filterMap Item.plain?

/-- The last value that items give to an option. -/
def lastValue? (option : PathOption) (items : List Item) : Option Path :=
  (items.filterMap (Item.value? option)).getLast?

@[simp] theorem spell_nil : spell [] = [] := rfl

@[simp] theorem spell_cons (item : Item) (items : List Item) :
    spell (item :: items) = item.words ++ spell items := rfl

@[simp] theorem spell_append (items others : List Item) :
    spell (items ++ others) = spell items ++ spell others := List.flatMap_append

@[simp] theorem plains_nil : plains [] = [] := rfl

@[simp] theorem plains_pair {option : PathOption} {flag value : String}
    (spelt : flag ∈ option.spellings) (items : List Item) :
    plains (.pair option flag value spelt :: items) = plains items := rfl

@[simp] theorem plains_plain {text : String} (undashed : ¬ IsDashed text) (items : List Item) :
    plains (.plain text undashed :: items) = text :: plains items := rfl

@[simp] theorem plains_append (items others : List Item) :
    plains (items ++ others) = plains items ++ plains others := List.filterMap_append

/-- The value of an item in front counts where no later one does. -/
theorem lastValue?_cons (option : PathOption) (item : Item) (items : List Item) :
    lastValue? option (item :: items) = (lastValue? option items).or (item.value? option) := by
  cases h : item.value? option <;> simp [lastValue?, h, List.getLast?_cons]

/-- The arguments show the item in front, and where it ends. -/
theorem words_append_inj {i j : Item} {r s : List String} (h : i.words ++ r = j.words ++ s) :
    i = j ∧ r = s := by
  cases i with
  | pair option flag value spelt =>
      cases j with
      | pair option' flag' value' spelt' =>
          simp only [Item.words, List.cons_append, List.nil_append, List.cons.injEq] at h
          obtain ⟨rfl, rfl, rfl⟩ := h
          obtain rfl := PathOption.eq_of_mem_spellings spelt spelt'
          exact ⟨rfl, rfl⟩
      | plain text undashed =>
          obtain ⟨rfl, -⟩ := List.cons.inj h
          exact absurd (isDashed_of_mem_spellings spelt) undashed
  | plain text undashed =>
      cases j with
      | pair option flag value spelt =>
          obtain ⟨rfl, -⟩ := List.cons.inj h
          exact absurd (isDashed_of_mem_spellings spelt) undashed
      | plain text' undashed' =>
          obtain ⟨rfl, rfl⟩ := List.cons.inj h
          exact ⟨rfl, rfl⟩

/-- Of two runs of items at the front of the same arguments, one goes on from
the other. -/
theorem spell_compare {as bs : List Item} {r s : List String}
    (h : spell as ++ r = spell bs ++ s) :
    (∃ cs, bs = as ++ cs ∧ r = spell cs ++ s) ∨
      ∃ i cs, as = bs ++ i :: cs ∧ s = i.words ++ (spell cs ++ r) := by
  induction as generalizing bs with
  | nil => exact .inl ⟨bs, rfl, h⟩
  | cons i as ih =>
      cases bs with
      | nil => exact .inr ⟨i, as, rfl, by simpa using h.symm⟩
      | cons j bs =>
          rw [spell_cons, spell_cons, List.append_assoc, List.append_assoc] at h
          obtain ⟨rfl, hrest⟩ := words_append_inj h
          rcases ih hrest with ⟨cs, rfl, hr⟩ | ⟨k, cs, rfl, hs⟩
          · exact .inl ⟨cs, rfl, hr⟩
          · exact .inr ⟨k, cs, rfl, hs⟩

/-- There is one way at most to make arguments of items. -/
theorem spell_injective {as bs : List Item} (h : spell as = spell bs) : as = bs := by
  have hwords : ∀ (item : Item) (items : List Item), spell (item :: items) ≠ [] :=
    fun item _ => by cases item <;> exact nofun
  induction as generalizing bs with
  | nil =>
      cases bs with
      | nil => rfl
      | cons j bs => exact absurd h.symm (hwords j bs)
  | cons i as ih =>
      cases bs with
      | nil => exact absurd h (hwords i as)
      | cons j bs =>
          obtain ⟨rfl, hrest⟩ := words_append_inj h
          rw [ih hrest]

/-! ## what breaks the form -/

/-- An argument behind items breaks their form; `given` says whether there is a
plain argument among them. -/
inductive Breaks (given : Prop) (arg : String) (behind : List String) : ArgumentError → Prop
  /-- An option that there is not. -/
  | unknownOption (dashed : IsDashed arg)
    (unspelt : ∀ option : PathOption, arg ∉ option.spellings) :
    Breaks given arg behind (.unknownOption arg)
  /-- A second plain argument. -/
  | unexpected (undashed : ¬ IsDashed arg) (again : given) :
    Breaks given arg behind (.unexpected arg)
  /-- An option without a value. -/
  | missingValue {option : PathOption} (spelt : arg ∈ option.spellings) (last : behind = []) :
    Breaks given arg behind (.missingValue option)

/-- An argument is in the way for one reason only. -/
theorem Breaks.unique {given : Prop} {arg : String} {behind : List String}
    {e e' : ArgumentError} (h : Breaks given arg behind e) (h' : Breaks given arg behind e') :
    e = e' := by
  cases h with
  | unknownOption dashed unspelt =>
      cases h' with
      | unknownOption => rfl
      | unexpected undashed => contradiction
      | missingValue spelt => exact absurd spelt (unspelt _)
  | unexpected undashed =>
      cases h' with
      | unknownOption dashed => contradiction
      | unexpected => rfl
      | missingValue spelt => exact absurd (isDashed_of_mem_spellings spelt) undashed
  | missingValue spelt =>
      cases h' with
      | unknownOption _ unspelt => exact absurd spelt (unspelt _)
      | unexpected undashed => exact absurd (isDashed_of_mem_spellings spelt) undashed
      | missingValue spelt' =>
          rw [PathOption.eq_of_mem_spellings spelt spelt']

/-- The arguments break their form at a position: what stands before it is made
of items, and the argument there does not go on. -/
def Breach (args : List String) (position : Nat) (e : ArgumentError) : Prop :=
  ∃ before arg behind, args = spell before ++ arg :: behind ∧
    (spell before).length = position ∧ Breaks (plains before ≠ []) arg behind e

/-- Items with one plain argument at most are not broken from within. -/
theorem Breaks.exists_eq_append {as bs : List Item} {r behind : List String} {arg : String}
    {e : ArgumentError} (hplains : (plains as).length ≤ 1)
    (hbreaks : Breaks (plains bs ≠ []) arg behind e)
    (h : spell as ++ r = spell bs ++ arg :: behind) : ∃ cs, bs = as ++ cs := by
  rcases spell_compare h with ⟨cs, hbs, -⟩ | ⟨i, cs, rfl, hs⟩
  · exact ⟨cs, hbs⟩
  · cases i with
    | pair option flag value spelt =>
        simp only [Item.words, List.cons_append, List.nil_append, List.cons.injEq] at hs
        obtain ⟨rfl, rfl⟩ := hs
        cases hbreaks with
        | unknownOption _ unspelt => exact absurd spelt (unspelt option)
        | unexpected undashed => exact absurd (isDashed_of_mem_spellings spelt) undashed
        | missingValue _ last => contradiction
    | plain text undashed =>
        obtain ⟨rfl, rfl⟩ := List.cons.inj hs
        cases hbreaks with
        | unknownOption dashed => contradiction
        | unexpected _ again =>
            have hpos := List.length_pos_iff.mpr again
            rw [plains_append, plains_plain, List.length_append, List.length_cons] at hplains
            omega
        | missingValue spelt => exact absurd (isDashed_of_mem_spellings spelt) undashed

/-- Items with one plain argument at most have no breach. -/
theorem not_breach_spell (items : List Item) (hplains : (plains items).length ≤ 1)
    (position : Nat) (e : ArgumentError) : ¬ Breach (spell items) position e := by
  rintro ⟨before, arg, behind, hargs, -, hbreaks⟩
  obtain ⟨cs, rfl⟩ := hbreaks.exists_eq_append (r := []) hplains (by rw [List.append_nil, hargs])
  have hlength := congrArg List.length hargs
  rw [spell_append, List.length_append, List.length_append, List.length_cons] at hlength
  omega

/-- No breach stands to the left of one behind items with one plain argument at
most. -/
theorem Breach.le_of_plains {before : List Item} {arg : String} {behind : List String}
    {position : Nat} {e : ArgumentError} (hplains : (plains before).length ≤ 1)
    (h : Breach (spell before ++ arg :: behind) position e) :
    (spell before).length ≤ position := by
  obtain ⟨before', arg', behind', hargs, rfl, hbreaks⟩ := h
  obtain ⟨cs, rfl⟩ := hbreaks.exists_eq_append hplains hargs
  rw [spell_append, List.length_append]
  exact Nat.le_add_right _ _

/-- There is one error at most at a position. -/
theorem Breach.unique {args : List String} {position : Nat} {e e' : ArgumentError}
    (h : Breach args position e) (h' : Breach args position e') : e = e' := by
  obtain ⟨as, arg, behind, rfl, rfl, hbreaks⟩ := h
  obtain ⟨bs, arg', behind', hargs, hlength, hbreaks'⟩ := h'
  obtain ⟨hspell, htail⟩ := List.append_inj hargs.symm hlength
  obtain ⟨rfl, rfl⟩ := List.cons.inj htail
  obtain rfl := spell_injective hspell
  exact hbreaks.unique hbreaks'

/-! ## drafts -/

theorem Draft.read_option {arg : String} {option : PathOption}
    (h : PathOption.ofFlag? arg = some option) (d : Draft) (value : String) (rest : List String) :
    d.read (arg :: value :: rest) = (d.set option value).read rest := by
  rw [Draft.read.eq_def]
  simp only [h]

theorem Draft.read_plain {arg : String} (h : PathOption.ofFlag? arg = none) (d : Draft)
    (rest : List String) : d.read (arg :: rest) = d.place arg >>= fun next => next.read rest := by
  rw [Draft.read.eq_def]
  simp only [h]

namespace Draft

/-- The draft after items: the first plain argument is the model if there is none
yet, and the last value of each option counts. -/
def after (d : Draft) (items : List Item) : Draft where
  model := d.model.or ((plains items).head?.map Path.mk)
  config := (lastValue? .config items).or d.config
  out := (lastValue? .out items).or d.out

/-- There is one model at most in a draft and items. -/
def HasRoom (d : Draft) (items : List Item) : Prop :=
  d.model.toList.length + (plains items).length ≤ 1

theorem after_nil (d : Draft) : d.after [] = d := by
  simp [after, lastValue?]

theorem after_pair (d : Draft) {option : PathOption} {flag value : String}
    (spelt : flag ∈ option.spellings) (items : List Item) :
    d.after (.pair option flag value spelt :: items) = (d.set option value).after items := by
  cases option <;> simp [after, set, lastValue?_cons, Item.value?]

theorem after_plain {d : Draft} (h : d.model = none) {text : String}
    (undashed : ¬ IsDashed text) (items : List Item) :
    d.after (.plain text undashed :: items) = { d with model := some ⟨text⟩ }.after items := by
  simp [after, h, lastValue?_cons, Item.value?]

theorem hasRoom_pair {d : Draft} {option : PathOption} {flag value : String}
    {spelt : flag ∈ option.spellings} {items : List Item} :
    d.HasRoom (.pair option flag value spelt :: items) ↔ (d.set option value).HasRoom items := by
  cases option <;> exact Iff.rfl

theorem hasRoom_plain {d : Draft} {text : String} {undashed : ¬ IsDashed text}
    {items : List Item} : d.HasRoom (.plain text undashed :: items) ↔
      d.model = none ∧ { d with model := some ⟨text⟩ }.HasRoom items := by
  cases h : d.model with
  | none => simp [HasRoom, h, Nat.add_comm]
  | some model => simp [HasRoom, h]

theorem place_eq (d : Draft) (text : String) : d.place text =
    if IsDashed text then .error (.unknownOption text)
    else if d.model.isSome then .error (.unexpected text)
    else .ok { d with model := some ⟨text⟩ } := rfl

theorem place_plain {d : Draft} {text : String} (undashed : ¬ IsDashed text)
    (h : d.model = none) : d.place text = .ok { d with model := some ⟨text⟩ } := by
  rw [place_eq, if_neg undashed, h]
  rfl

/-- Items are read to the draft after them. -/
theorem read_spell {d : Draft} {items : List Item} (h : d.HasRoom items) (rest : List String) :
    d.read (spell items ++ rest) = (d.after items).read rest := by
  induction items generalizing d with
  | nil => rw [after_nil]; rfl
  | cons item items ih =>
      cases item with
      | pair option flag value spelt =>
          rw [after_pair, ← ih (hasRoom_pair.mp h)]
          exact read_option (PathOption.ofFlag?_eq_some.mpr spelt) d value _
      | plain text undashed =>
          obtain ⟨hmodel, hroom⟩ := hasRoom_plain.mp h
          rw [after_plain hmodel, ← ih hroom, spell_cons, Item.words, List.append_assoc,
            List.singleton_append, read_plain (ofFlag?_of_not_isDashed undashed),
            place_plain undashed hmodel]
          rfl

/-- An argument that breaks the form behind a draft is the error. -/
theorem read_of_breaks {d : Draft} {arg : String} {behind : List String} {e : ArgumentError}
    (h : Breaks (d.model ≠ none) arg behind e) : d.read (arg :: behind) = .error e := by
  cases h with
  | unknownOption dashed unspelt =>
      rw [read_plain (PathOption.ofFlag?_eq_none.mpr unspelt), place_eq, if_pos dashed]
      rfl
  | unexpected undashed again =>
      rw [read_plain (ofFlag?_of_not_isDashed undashed), place_eq, if_neg undashed,
        if_pos (Option.isSome_iff_ne_none.mpr again)]
      rfl
  | missingValue spelt last =>
      rw [last, read.eq_def]
      simp only [PathOption.ofFlag?_eq_some.mpr spelt]

/-- Items at the front of arguments: the draft has room for them, and they go on
to the end of the arguments or to one that breaks the form. -/
structure Front (d : Draft) (args : List String) (items : List Item) : Prop where
  room : d.HasRoom items
  ends : args = spell items ∨ ∃ arg behind e, args = spell items ++ arg :: behind ∧
    Breaks ((d.after items).model ≠ none) arg behind e

/-- No items stand in front of what breaks the form. -/
theorem front_of_breaks {d : Draft} {arg : String} {behind : List String} {e : ArgumentError}
    (h : Breaks (d.model ≠ none) arg behind e) : d.Front (arg :: behind) [] where
  room := Option.length_toList_le
  ends := .inr ⟨arg, behind, e, rfl, by rwa [after_nil]⟩

/-- An item more stands in front of arguments that it precedes. -/
theorem Front.cons {d next : Draft} {item : Item} {items : List Item} {rest : List String}
    (h : next.Front rest items) (hroom : d.HasRoom (item :: items))
    (hafter : d.after (item :: items) = next.after items) :
    d.Front (item.words ++ rest) (item :: items) where
  room := hroom
  ends := by
    rcases h.ends with rfl | ⟨arg, behind, e, rfl, hbreaks⟩
    · exact .inl rfl
    · refine .inr ⟨arg, behind, e, ?_, by rwa [hafter]⟩
      rw [spell_cons, List.append_assoc]

/-- All arguments have items in front. -/
theorem exists_front (d : Draft) (args : List String) : ∃ items, d.Front args items := by
  induction d, args using Draft.read.induct with
  | case1 d => exact ⟨[], Option.length_toList_le, .inl rfl⟩
  | case2 d arg option hoption =>
      exact ⟨[], front_of_breaks (.missingValue (PathOption.ofFlag?_eq_some.mp hoption) rfl)⟩
  | case3 d arg option value rest hoption ih =>
      obtain ⟨items, hfront⟩ := ih
      have spelt := PathOption.ofFlag?_eq_some.mp hoption
      have hroom : d.HasRoom (.pair option arg value spelt :: items) :=
        hasRoom_pair.mpr hfront.room
      exact ⟨_, hfront.cons hroom (after_pair d spelt items)⟩
  | case4 d arg rest hoption ih =>
      by_cases hdashed : IsDashed arg
      · have unspelt := PathOption.ofFlag?_eq_none.mp hoption
        exact ⟨[], front_of_breaks (.unknownOption hdashed unspelt)⟩
      · by_cases hmodel : d.model = none
        · obtain ⟨items, hfront⟩ := ih { d with model := some ⟨arg⟩ }
          have hroom : d.HasRoom (.plain arg hdashed :: items) :=
            hasRoom_plain.mpr ⟨hmodel, hfront.room⟩
          exact ⟨_, hfront.cons hroom (after_plain hmodel hdashed items)⟩
        · exact ⟨[], front_of_breaks (.unexpected hdashed hmodel)⟩

/-- Arguments behind others are read from the draft that these leave. -/
theorem read_append {d d' : Draft} {args : List String} (h : d.read args = .ok d')
    (rest : List String) : d.read (args ++ rest) = d'.read rest := by
  obtain ⟨items, hroom, rfl | ⟨arg, behind, e, rfl, hbreaks⟩⟩ := d.exists_front args
  · have hread := read_spell hroom []
    rw [List.append_nil, h] at hread
    rw [read_spell hroom, Except.ok.inj hread]
  · rw [read_spell hroom, read_of_breaks hbreaks] at h
    contradiction

end Draft

/-! ## the law -/

variable (config : Option Path)

/-- Items with one plain argument at most are read. -/
theorem parse_spell {items : List Item} (h : (plains items).length ≤ 1) :
    Arguments.parse config (spell items) = (Draft.after ⟨none, config, none⟩ items).finish := by
  have hroom : Draft.HasRoom ⟨none, config, none⟩ items := by simpa [Draft.HasRoom] using h
  have hread := Draft.read_spell hroom []
  rw [List.append_nil] at hread
  rw [Arguments.parse, hread]
  rfl

/-- What breaks the form behind items with one plain argument at most is the error. -/
theorem parse_of_breaks {before : List Item} {arg : String} {behind : List String}
    {e : ArgumentError} (h : (plains before).length ≤ 1)
    (hbreaks : Breaks (plains before ≠ []) arg behind e) :
    Arguments.parse config (spell before ++ arg :: behind) = .error e := by
  have hbreaks' : Breaks ((Draft.after ⟨none, config, none⟩ before).model ≠ none) arg behind e := by
    simpa [Draft.after] using hbreaks
  rw [Arguments.parse, Draft.read_spell (by simpa [Draft.HasRoom] using h),
    Draft.read_of_breaks hbreaks']
  rfl

/-- All arguments are items, or start with items that an argument breaks. -/
theorem exists_items (args : List String) :
    ∃ items, (plains items).length ≤ 1 ∧ (args = spell items ∨ ∃ arg behind e,
      args = spell items ++ arg :: behind ∧ Breaks (plains items ≠ []) arg behind e) := by
  obtain ⟨items, hroom, hends⟩ := Draft.exists_front ⟨none, none, none⟩ args
  exact ⟨items, by simpa [Draft.HasRoom] using hroom, by simpa [Draft.after] using hends⟩

/-- Items with one plain argument are read: it is the model. -/
theorem parse_spell_of_plain {items : List Item} {text : String} (h : plains items = [text]) :
    Arguments.parse config (spell items) =
      .ok ⟨⟨text⟩, (lastValue? .config items).or config, lastValue? .out items⟩ := by
  rw [parse_spell config (by simp [h])]
  simp [Draft.finish, Draft.after, h]

/-- Items without a plain argument have no model. -/
theorem parse_spell_of_plains_nil {items : List Item} (h : plains items = []) :
    Arguments.parse config (spell items) = .error .missingModel := by
  rw [parse_spell config (by simp [h])]
  simp [Draft.finish, Draft.after, h]

/-- How arguments are read: they are items with one plain argument, or items
without any, or items that an argument breaks. -/
theorem parse_cases (args : List String) :
    (∃ items text, args = spell items ∧ plains items = [text] ∧ Arguments.parse config args =
      .ok ⟨⟨text⟩, (lastValue? .config items).or config, lastValue? .out items⟩) ∨
    (∃ items, args = spell items ∧ plains items = [] ∧
      Arguments.parse config args = .error .missingModel) ∨
    ∃ before arg behind e, args = spell before ++ arg :: behind ∧ (plains before).length ≤ 1 ∧
      Breaks (plains before ≠ []) arg behind e ∧ Arguments.parse config args = .error e := by
  obtain ⟨items, hplains, rfl | ⟨arg, behind, e, rfl, hbreaks⟩⟩ := exists_items args
  · rcases h : plains items with _ | ⟨text, _ | ⟨other, texts⟩⟩
    · exact .inr (.inl ⟨items, rfl, h, parse_spell_of_plains_nil config h⟩)
    · exact .inl ⟨items, text, rfl, h, parse_spell_of_plain config h⟩
    · simp [h] at hplains
  · have hparse := parse_of_breaks config hplains hbreaks
    exact .inr (.inr ⟨items, arg, behind, e, rfl, hplains, hbreaks, hparse⟩)

/-- **Arguments are read exactly.**

1. They are read if and only if they are made of options with their values and
   of plain arguments, and one argument is plain.  This is the model; the last
   value of each option counts, wherever the model stands, and the settings are
   those given from outside where no option names any.
2. Otherwise the error is that of the leftmost argument that breaks this form.
   The missing model is reported only if no argument does. -/
theorem Arguments.parse_itemwise (args : List String) :
    (∀ a, Arguments.parse config args = .ok a ↔
      ∃ items, args = spell items ∧ plains items = [a.model.text] ∧
        a.config = (lastValue? .config items).or config ∧ a.out = lastValue? .out items) ∧
    ∀ e, Arguments.parse config args = .error e ↔
      (∃ position, Breach args position e ∧ ∀ other e', Breach args other e' → position ≤ other) ∨
      (e = .missingModel ∧ (∀ position e', ¬ Breach args position e') ∧
        ∃ items, args = spell items ∧ plains items = []) := by
  refine ⟨fun a => ⟨fun h => ?_, ?_⟩, fun e => ⟨fun h => ?_, ?_⟩⟩
  · rcases parse_cases config args with ⟨items, text, hargs, hplains, hparse⟩ |
      ⟨items, -, -, hparse⟩ | ⟨before, arg, behind, e, -, -, -, hparse⟩
    · obtain rfl := Except.ok.inj (hparse.symm.trans h)
      exact ⟨items, hargs, hplains, rfl, rfl⟩
    · rw [hparse] at h
      contradiction
    · rw [hparse] at h
      contradiction
  · rintro ⟨items, rfl, hplains, hconfig, hout⟩
    rw [parse_spell_of_plain config hplains, ← hconfig, ← hout]
  · rcases parse_cases config args with ⟨items, text, -, -, hparse⟩ |
      ⟨items, rfl, hplains, hparse⟩ | ⟨before, arg, behind, e₀, rfl, hplains, hbreaks, hparse⟩
    · rw [hparse] at h
      contradiction
    · have hno := not_breach_spell items (by simp [hplains])
      exact .inr ⟨(Except.error.inj (hparse.symm.trans h)).symm, hno, items, rfl, hplains⟩
    · obtain rfl := Except.error.inj (hparse.symm.trans h)
      exact .inl ⟨_, ⟨before, arg, behind, rfl, rfl, hbreaks⟩,
        fun _ _ hother => hother.le_of_plains hplains⟩
  · rintro (⟨position, hbreach, hleftmost⟩ | ⟨rfl, -, items, rfl, hplains⟩)
    · obtain ⟨before, hplains, rfl | ⟨arg, behind, e₀, rfl, hbreaks⟩⟩ := exists_items args
      · exact absurd hbreach (not_breach_spell before hplains position e)
      · -- the leftmost breach is the one behind the items that are read
        have hfirst : Breach (spell before ++ arg :: behind) (spell before).length e₀ :=
          ⟨before, arg, behind, rfl, rfl, hbreaks⟩
        obtain rfl := Nat.le_antisymm (hleftmost _ _ hfirst) (hbreach.le_of_plains hplains)
        rw [parse_of_breaks config hplains hbreaks, hfirst.unique hbreach]
    · exact parse_spell_of_plains_nil config hplains

/-- The model stands between options, whose values may look like options. -/
example : Arguments.parse (some ⟨"env.toml"⟩) ["-c", "-o", "api.yaml", "--out", "api.d.ts",
    "--config", "t.toml"] = .ok ⟨⟨"api.yaml"⟩, some ⟨"t.toml"⟩, some ⟨"api.d.ts"⟩⟩ := rfl

end DeclGen.Command
