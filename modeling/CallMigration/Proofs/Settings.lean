import CallMigration.Check
import Mathlib.Data.String.Basic

/-!
# Layers of settings

Settings come from the configuration, from flags and from options of their own, each layer above the
one before. A flag either says something about one setting or is refused (`Settings.IsRefused`).

* `Settings.applyFlag_eq_error_iff`: which flags are refused, and why;
* `Settings.getD_lastSaid`: flags leave each setting as the last of them says that says anything of
  it;
* `CheckOptions.settings_layers`: the first refused flag is reported whatever the options are, and
  otherwise the highest layer that says something of a setting decides it.
-/

namespace CallMigration

namespace PrefixSet

/-- A set with one more member is still in increasing order. -/
theorem pairwise_insert {p : String} {set : PrefixSet} (h : set.Pairwise (· < ·)) :
    (insert p set).Pairwise (· < ·) := by
  induction set with
  | nil => simp [insert]
  | cons q rest ih =>
      obtain ⟨hq, hrest⟩ := List.pairwise_cons.mp h
      unfold insert
      split
      · next hlt =>
          refine List.pairwise_cons.mpr ⟨?_, h⟩
          intro x hx
          rcases List.mem_cons.mp hx with rfl | hx
          · exact hlt
          · exact hlt.trans (hq x hx)
      · next hnot =>
          split
          · exact h
          · next hne =>
              refine List.pairwise_cons.mpr ⟨?_, ih hrest⟩
              intro x hx
              rcases mem_insert.mp hx with rfl | hx
              · exact lt_of_le_of_ne (not_lt.mp hnot) (Ne.symm hne)
              · exact hq x hx

/-- So is a set with any further members. -/
theorem pairwise_insertAll {ps : List String} {set : PrefixSet} (h : set.Pairwise (· < ·)) :
    (insertAll set ps).Pairwise (· < ·) := by
  unfold insertAll
  generalize ps.filter (· ≠ "") = ps
  induction ps generalizing set with
  | nil => exact h
  | cons p ps ih => exact ih (pairwise_insert h)

end PrefixSet

namespace Settings

/-- The setting that a key means, blanks around it left out. -/
def nameOf (key : List Char) : String := String.ofList (Text.trim key)

/-- The one of `true` and `false` that a value spells, in any case and between blanks. -/
def boolOf? (value : List Char) : Option Bool :=
  [true, false].find? fun b => (Text.trim value).map Char.toLower = (toString b).toList

/-- The parts of a value between commas, without the blanks around them. -/
def partsOf (value : List Char) : List String :=
  (Text.splitOn ',' value).map fun part => String.ofList (Text.trim part)

/-- The value that a flag gives to the setting of a name. -/
def valueFor? (name flag : String) : Option (List Char) :=
  (Text.splitOnce? '=' flag.toList).bind fun (key, value) =>
    if nameOf key = name then some value else none

/-- What a flag says about the prefixes. -/
def prefixesSaid? (flag : String) : Option (List String) := (valueFor? prefixKey flag).map partsOf

/-- What a flag says about calls with comments. -/
def skipSaid? (flag : String) : Option Bool := (valueFor? skipCommentsKey flag).bind boolOf?

/-- What a flag says about fixes that must compile. -/
def checkSaid? (flag : String) : Option Bool := (valueFor? checkFixCompilesKey flag).bind boolOf?

/-- What the last of the flags says that says anything. -/
def lastSaid? {α : Type} (said? : String → Option α) (flags : List String) : Option α :=
  (flags.filterMap said?).getLast?

/-- Why a flag is refused. -/
inductive IsRefused (flag : String) : FlagError → Prop
  | notKeyValue (h : '=' ∉ flag.toList) : IsRefused flag (.notKeyValue flag)
  | unknownKey {key value : List Char} (h : flag.toList = key ++ '=' :: value) (hfirst : '=' ∉ key)
      (hname : nameOf key ∉ [prefixKey, skipCommentsKey, checkFixCompilesKey]) :
      IsRefused flag (.unknownKey (nameOf key))
  | notBoolean {key value : List Char} (h : flag.toList = key ++ '=' :: value) (hfirst : '=' ∉ key)
      (hname : nameOf key ∈ [skipCommentsKey, checkFixCompilesKey]) (hvalue : boolOf? value = none) :
      IsRefused flag (.notBoolean (String.ofList key)
        (String.ofList ((Text.trim value).map Char.toLower)))

variable {s changed : Settings} {flag : String} {flags : List String} {cause : FlagError}

theorem readBool_eq (key value : List Char) :
    readBool key value =
      match boolOf? value with
      | some b => .ok b
      | none => .error (.notBoolean (String.ofList key)
          (String.ofList ((Text.trim value).map Char.toLower))) := by
  have htrue : (toString true).toList = "true".toList := rfl
  have hfalse : (toString false).toList = "false".toList := rfl
  unfold readBool boolOf?
  simp only [List.find?_cons, List.find?_nil, htrue, hfalse]
  by_cases hyes : (Text.trim value).map Char.toLower = "true".toList
  · rw [if_pos hyes, decide_eq_true hyes]
  · rw [if_neg hyes, decide_eq_false hyes]
    by_cases hno : (Text.trim value).map Char.toLower = "false".toList
    · rw [if_pos hno, decide_eq_true hno]
    · rw [if_neg hno, decide_eq_false hno]

section Flag

variable {key value : List Char}

theorem isRefused_iff_of_plain (h : '=' ∉ flag.toList) :
    IsRefused flag cause ↔ cause = .notKeyValue flag := by
  constructor
  · intro hrefused
    cases hrefused with
    | notKeyValue => rfl
    | unknownKey htext => simp [htext] at h
    | notBoolean htext => simp [htext] at h
  · rintro rfl
    exact .notKeyValue h

theorem isRefused_iff_of_split (h : Text.splitOnce? '=' flag.toList = some (key, value)) :
    IsRefused flag cause ↔
      (nameOf key ∉ [prefixKey, skipCommentsKey, checkFixCompilesKey] ∧
          cause = .unknownKey (nameOf key)) ∨
        (nameOf key ∈ [skipCommentsKey, checkFixCompilesKey] ∧ boolOf? value = none ∧
          cause = .notBoolean (String.ofList key)
            (String.ofList ((Text.trim value).map Char.toLower))) := by
  obtain ⟨htext, hfirst⟩ := Text.splitOnce?_eq_some_iff.mp h
  have hparts : ∀ {key' value' : List Char}, flag.toList = key' ++ '=' :: value' → '=' ∉ key' →
      key' = key ∧ value' = value := by
    intro key' value' htext' hfirst'
    rw [htext', Text.splitOnce?_append hfirst'] at h
    simpa using h
  constructor
  · intro hrefused
    cases hrefused with
    | notKeyValue hplain => simp [htext] at hplain
    | unknownKey htext' hfirst' hname =>
        obtain ⟨rfl, rfl⟩ := hparts htext' hfirst'
        exact Or.inl ⟨hname, rfl⟩
    | notBoolean htext' hfirst' hname hvalue =>
        obtain ⟨rfl, rfl⟩ := hparts htext' hfirst'
        exact Or.inr ⟨hname, hvalue, rfl⟩
  · rintro (⟨hname, rfl⟩ | ⟨hname, hvalue, rfl⟩)
    · exact .unknownKey htext hfirst hname
    · exact .notBoolean htext hfirst hname hvalue

theorem valueFor?_of_split (h : Text.splitOnce? '=' flag.toList = some (key, value))
    (name : String) : valueFor? name flag = if nameOf key = name then some value else none := by
  rw [valueFor?, h]
  rfl

/-- What a flag with a key and a value does. -/
theorem applyFlag_of_split (h : Text.splitOnce? '=' flag.toList = some (key, value)) :
    s.applyFlag flag =
      if nameOf key = prefixKey then
        .ok { s with prefixes := PrefixSet.insertAll [] (partsOf value) }
      else if nameOf key = skipCommentsKey ∨ nameOf key = checkFixCompilesKey then
        match boolOf? value with
        | some b =>
            if nameOf key = skipCommentsKey then .ok { s with skipComments := b }
            else .ok { s with checkFixCompiles := b }
        | none => .error (.notBoolean (String.ofList key)
            (String.ofList ((Text.trim value).map Char.toLower)))
      else .error (.unknownKey (nameOf key)) := by
  rw [applyFlag, h]
  simp only [readBool_eq]
  change (if nameOf key = prefixKey then _ else if nameOf key = skipCommentsKey then _ else
    if nameOf key = checkFixCompilesKey then _ else _) = _
  by_cases hkey : nameOf key = prefixKey
  · rw [if_pos hkey, if_pos hkey]
    rfl
  · rw [if_neg hkey, if_neg hkey]
    by_cases hskip : nameOf key = skipCommentsKey
    · rw [if_pos hskip, if_pos (Or.inl hskip)]
      cases boolOf? value with
      | some b => simp only [if_pos hskip]
      | none => rfl
    · rw [if_neg hskip]
      by_cases hcheck : nameOf key = checkFixCompilesKey
      · rw [if_pos hcheck, if_pos (Or.inr hcheck)]
        cases boolOf? value with
        | some b => simp only [if_neg hskip]
        | none => rfl
      · rw [if_neg hcheck, if_neg (not_or.mpr ⟨hskip, hcheck⟩)]
        rfl

end Flag

/-- **Refused flags.** A flag that is not understood fails with its own cause, whatever the settings
are. -/
theorem applyFlag_eq_error_iff : s.applyFlag flag = .error cause ↔ IsRefused flag cause := by
  cases h : Text.splitOnce? '=' flag.toList with
  | none =>
      rw [isRefused_iff_of_plain (Text.splitOnce?_eq_none_iff.mp h), applyFlag, h,
        Except.error.injEq, eq_comm]
  | some parts =>
      obtain ⟨key, value⟩ := parts
      rw [isRefused_iff_of_split h, applyFlag_of_split h]
      simp only [List.mem_cons, List.not_mem_nil, or_false, not_or]
      by_cases hkey : nameOf key = prefixKey
      · have hother : prefixKey ≠ skipCommentsKey ∧ prefixKey ≠ checkFixCompilesKey := by decide
        simp [hkey, hother]
      · by_cases hboolean : nameOf key = skipCommentsKey ∨ nameOf key = checkFixCompilesKey
        · rw [if_neg hkey, if_pos hboolean]
          cases hvalue : boolOf? value with
          | none => simp [hkey, hboolean, ← not_or, eq_comm (b := cause)]
          | some b =>
              simp only [← not_or, hboolean]
              split <;> simp
        · rw [if_neg hkey, if_neg hboolean]
          simp [hkey, hboolean, ← not_or, eq_comm (b := cause)]

/-- The settings with what a flag says of them. -/
def told (s : Settings) (flag : String) : Settings where
  prefixes := ((prefixesSaid? flag).map (PrefixSet.insertAll [])).getD s.prefixes
  skipComments := (skipSaid? flag).getD s.skipComments
  checkFixCompiles := (checkSaid? flag).getD s.checkFixCompiles

/-- A flag that is understood does what it says and nothing else. -/
theorem eq_told_of_applyFlag (hok : s.applyFlag flag = .ok changed) : changed = s.told flag := by
  have hkeys : prefixKey ≠ skipCommentsKey ∧ prefixKey ≠ checkFixCompilesKey ∧
      skipCommentsKey ≠ prefixKey ∧ skipCommentsKey ≠ checkFixCompilesKey ∧
      checkFixCompilesKey ≠ prefixKey ∧ checkFixCompilesKey ≠ skipCommentsKey := by
    decide
  cases h : Text.splitOnce? '=' flag.toList with
  | none =>
      rw [applyFlag, h] at hok
      cases hok
  | some parts =>
      obtain ⟨key, value⟩ := parts
      simp only [told, prefixesSaid?, skipSaid?, checkSaid?, valueFor?_of_split h]
      rw [applyFlag_of_split h] at hok
      by_cases hkey : nameOf key = prefixKey
      · rw [if_pos hkey] at hok
        obtain rfl := Except.ok.inj hok
        simp [hkey, hkeys]
      · rw [if_neg hkey] at hok
        split at hok
        · next hboolean =>
            split at hok
            · next b hvalue =>
                split at hok
                · next hskip =>
                    obtain rfl := Except.ok.inj hok
                    simp [hskip, hkeys, hvalue]
                · next hskip =>
                    have hcheck := hboolean.resolve_left hskip
                    obtain rfl := Except.ok.inj hok
                    simp [hcheck, hkeys, hvalue]
            · cases hok
        · cases hok

/-- A flag that is refused changes nothing in place. -/
theorem run_change (flag : String) (s : Settings) :
    (change flag).run s =
      match s.applyFlag flag with
      | .ok changed => (.ok (), changed)
      | .error cause => (.error cause, s) := by
  unfold change applyFlag
  cases Text.splitOnce? '=' flag.toList with
  | none => rfl
  | some parts =>
      obtain ⟨key, value⟩ := parts
      simp only
      split
      · rfl
      · split
        · cases readBool key value <;> rfl
        · split
          · cases readBool key value <;> rfl
          · rfl

section Flags

/-- The first flag that is refused is reported. -/
theorem applyFlags_eq_error_iff :
    s.applyFlags flags = .error cause ↔
      ∃ before flag after, flags = before ++ flag :: after ∧
        (∀ earlier ∈ before, ∀ c, ¬ IsRefused earlier c) ∧ IsRefused flag cause := by
  induction flags generalizing s with
  | nil => simp [applyFlags]
  | cons first flags ih =>
      unfold applyFlags
      cases hfirst : s.applyFlag first with
      | error other =>
          have hrefused := applyFlag_eq_error_iff.mp hfirst
          simp only [Except.error.injEq]
          constructor
          · rintro rfl
            exact ⟨[], first, flags, rfl, by simp, hrefused⟩
          · rintro ⟨before, flag, after, hsplit, hbefore, hflag⟩
            cases before with
            | nil =>
                obtain ⟨rfl, rfl⟩ := List.cons.inj hsplit
                rw [applyFlag_eq_error_iff.mpr hflag] at hfirst
                exact (Except.error.inj hfirst).symm
            | cons earlier before =>
                obtain ⟨rfl, -⟩ := List.cons.inj hsplit
                exact absurd hrefused (hbefore first List.mem_cons_self other)
      | ok changed =>
          have hunderstood : ∀ c, ¬ IsRefused first c := by
            intro c hrefused
            rw [applyFlag_eq_error_iff.mpr hrefused] at hfirst
            cases hfirst
          simp only [ih]
          constructor
          · rintro ⟨before, flag, after, rfl, hbefore, hflag⟩
            exact ⟨first :: before, flag, after, rfl,
              List.forall_mem_cons.mpr ⟨hunderstood, hbefore⟩, hflag⟩
          · rintro ⟨before, flag, after, hsplit, hbefore, hflag⟩
            cases before with
            | nil =>
                obtain ⟨rfl, -⟩ := List.cons.inj hsplit
                exact absurd hflag (hunderstood cause)
            | cons earlier before =>
                obtain ⟨rfl, rfl⟩ := List.cons.inj hsplit
                exact ⟨before, flag, after, rfl, (List.forall_mem_cons.mp hbefore).2, hflag⟩

/-- Flags that are understood do what they say, one after the other. -/
theorem applyFlags_of_understood (h : ∀ flag ∈ flags, ∀ c, ¬ IsRefused flag c) :
    s.applyFlags flags = .ok (flags.foldl told s) := by
  induction flags generalizing s with
  | nil => rfl
  | cons first flags ih =>
      obtain ⟨hfirst, hflags⟩ := List.forall_mem_cons.mp h
      unfold applyFlags
      cases happly : s.applyFlag first with
      | error cause => exact absurd (applyFlag_eq_error_iff.mp happly) (hfirst cause)
      | ok changed =>
          obtain rfl := eq_told_of_applyFlag happly
          exact ih hflags

variable {α : Type} {said? : String → Option α}

theorem lastSaid?_cons (flag : String) (flags : List String) :
    lastSaid? said? (flag :: flags) = (lastSaid? said? flags).or (said? flag) := by
  unfold lastSaid?
  cases hsaid : said? flag with
  | none => simp [hsaid]
  | some value =>
      rw [List.filterMap_cons_some hsaid, List.getLast?_cons]
      cases (flags.filterMap said?).getLast? <;> rfl

theorem lastSaid?_map {β : Type} (f : α → β) (flags : List String) :
    lastSaid? (fun flag => (said? flag).map f) flags = (lastSaid? said? flags).map f := by
  rw [lastSaid?, lastSaid?, ← List.map_filterMap, List.getLast?_map]

/-- **The last flag counts.** What each flag sets to what it says of it, flags together set to what
the last of them says that says anything. -/
theorem getD_lastSaid {setting : Settings → α}
    (h : ∀ s flag, setting (s.told flag) = (said? flag).getD (setting s))
    (flags : List String) (s : Settings) :
    setting (flags.foldl told s) = (lastSaid? said? flags).getD (setting s) := by
  induction flags generalizing s with
  | nil => rfl
  | cons flag flags ih =>
      rw [List.foldl_cons, ih, h, lastSaid?_cons]
      cases lastSaid? said? flags <;> rfl

end Flags

end Settings

namespace CheckOptions

open Settings (IsRefused lastSaid?)

/-- What options of their own say about the prefixes. -/
def prefixesSaid? (options : CheckOptions) : Option (List String) :=
  if options.prefixes = [] then none else some options.prefixes

/-- What options of their own say about calls with comments. -/
def skipSaid? (options : CheckOptions) : Option Bool :=
  if options.keepCommentCallSites then some false else none

/-- What options of their own say about fixes that must compile. -/
def checkSaid? (options : CheckOptions) : Option Bool :=
  if options.checkFixCompiles then some true else none

/-- The settings with what options of their own say of them. -/
def told (options : CheckOptions) (s : Settings) : Settings where
  prefixes := (options.prefixesSaid?.map (PrefixSet.insertAll [])).getD s.prefixes
  skipComments := options.skipSaid?.getD s.skipComments
  checkFixCompiles := options.checkSaid?.getD s.checkFixCompiles

section Layers

variable (config : Option Config)

/-- Options of their own come after the flags, and cannot fail. -/
theorem settings_eq (options : CheckOptions) :
    options.settings config =
      ((config.elim Settings.default Config.settings).applyFlags options.flags).map
        options.told := by
  unfold settings
  simp only
  congr 1
  funext s
  simp only [told, prefixesSaid?, skipSaid?, checkSaid?, List.isEmpty_iff]
  by_cases hprefixes : options.prefixes = []
  · cases options.keepCommentCallSites <;> cases options.checkFixCompiles <;> simp [hprefixes]
  · cases options.keepCommentCallSites <;> cases options.checkFixCompiles <;>
      simp [hprefixes, Settings.withPrefixes]

/-- The settings before any flag are those that the configuration says, else the default. -/
theorem settings_configuration :
    config.elim Settings.default Config.settings =
      ⟨PrefixSet.insertAll [] ((config.map (·.prefixes)).getD []),
        (config.bind (·.skipComments)).getD true, (config.bind (·.checkFixCompiles)).getD false⟩ := by
  cases config <;> rfl

/-- Flags leave what the last of them says, else what the configuration says. -/
theorem foldl_told (flags : List String) :
    flags.foldl Settings.told (config.elim Settings.default Config.settings) =
      ⟨PrefixSet.insertAll [] (((lastSaid? Settings.prefixesSaid? flags).or
          (config.map (·.prefixes))).getD []),
        ((lastSaid? Settings.skipSaid? flags).or (config.bind (·.skipComments))).getD true,
        ((lastSaid? Settings.checkSaid? flags).or (config.bind (·.checkFixCompiles))).getD
          false⟩ := by
  rw [settings_configuration]
  have hprefixes := @Settings.getD_lastSaid _
    (fun flag => (Settings.prefixesSaid? flag).map (PrefixSet.insertAll [])) Settings.prefixes
    (fun _ _ => rfl) flags
  have hskip := @Settings.getD_lastSaid _ Settings.skipSaid? Settings.skipComments
    (fun _ _ => rfl) flags
  have hcheck := @Settings.getD_lastSaid _ Settings.checkSaid? Settings.checkFixCompiles
    (fun _ _ => rfl) flags
  simp only [Settings.lastSaid?_map] at hprefixes
  generalize hbase : (Settings.mk _ _ _) = base
  calc flags.foldl Settings.told base
      = ⟨(flags.foldl Settings.told base).prefixes, (flags.foldl Settings.told base).skipComments,
          (flags.foldl Settings.told base).checkFixCompiles⟩ := rfl
    _ = _ := by
        rw [hprefixes, hskip, hcheck, ← hbase]
        simp only [Option.getD_or, Option.getD_map]

/-- Options of their own stand above what the flags leave. -/
theorem settings_of_understood {options : CheckOptions}
    (h : ∀ flag ∈ options.flags, ∀ cause, ¬ IsRefused flag cause) :
    options.settings config =
      .ok ⟨PrefixSet.insertAll [] ((options.prefixesSaid?.or
          ((lastSaid? Settings.prefixesSaid? options.flags).or (config.map (·.prefixes)))).getD []),
        (options.skipSaid?.or ((lastSaid? Settings.skipSaid? options.flags).or
          (config.bind (·.skipComments)))).getD true,
        (options.checkSaid?.or ((lastSaid? Settings.checkSaid? options.flags).or
          (config.bind (·.checkFixCompiles)))).getD false⟩ := by
  rw [settings_eq, Settings.applyFlags_of_understood h, foldl_told]
  simp only [Except.map, told, Option.getD_or, Option.getD_map]

end Layers

/-- **Layers of settings.** Settings cannot be made exactly if some flag is refused, and then for
the cause of the first such flag, whatever the options say. Otherwise each setting is what the
highest layer says that says anything of it: options of their own, then flags, the last one first,
then the configuration, then the default. A flag that is refused leaves the settings in place as
they were. -/
theorem settings_layers (options : CheckOptions) (config : Option Config) :
    (∀ cause, options.settings config = .error cause ↔
        ∃ before flag after, options.flags = before ++ flag :: after ∧
          (∀ earlier ∈ before, ∀ c, ¬ IsRefused earlier c) ∧ IsRefused flag cause) ∧
      ((∀ flag ∈ options.flags, ∀ cause, ¬ IsRefused flag cause) →
        ∃ s, options.settings config = .ok s ∧ s.prefixes.Pairwise (· < ·) ∧
          (∀ p, p ∈ s.prefixes ↔ p ≠ "" ∧
            p ∈ (options.prefixesSaid?.or ((lastSaid? Settings.prefixesSaid? options.flags).or
              (config.map (·.prefixes)))).getD []) ∧
          s.skipComments =
            (options.skipSaid?.or ((lastSaid? Settings.skipSaid? options.flags).or
              (config.bind (·.skipComments)))).getD true ∧
          s.checkFixCompiles =
            (options.checkSaid?.or ((lastSaid? Settings.checkSaid? options.flags).or
              (config.bind (·.checkFixCompiles)))).getD false) ∧
      ∀ (s : Settings) (flag : String) (cause : FlagError), IsRefused flag cause →
        (Settings.change flag).run s = (.error cause, s) := by
  refine ⟨?refused, ?understood, ?kept⟩
  case refused =>
    intro cause
    rw [← @Settings.applyFlags_eq_error_iff (config.elim Settings.default Config.settings)]
    rw [settings_eq]
    cases Settings.applyFlags _ options.flags with
    | error other => simp [Except.map]
    | ok s => simp [Except.map]
  case understood =>
    intro hunderstood
    refine ⟨_, settings_of_understood config hunderstood, ?_, ?_, rfl, rfl⟩
    · exact PrefixSet.pairwise_insertAll List.Pairwise.nil
    · intro p
      rw [PrefixSet.mem_insertAll]
      simp [and_comm]
  case kept =>
    intro s flag cause hrefused
    rw [Settings.run_change, Settings.applyFlag_eq_error_iff.mpr hrefused]

/-- A flag is refused though an option of its own says the same thing. -/
example : ({ flags := ["InlineMe:CheckFixCompiles=maybe"], checkFixCompiles := true } :
    CheckOptions).settings none = .error (.notBoolean "InlineMe:CheckFixCompiles" "maybe") := by
  decide

end CheckOptions

end CallMigration
