import CallMigration.Proofs.Substitution.Separation
import CallMigration.Template.ThisQualifier

/-!
# What is left without the qualifiers `this.`

A qualifier begins at a place of a text if `this` stands there as a maximal run of word characters,
with a dot directly behind it and a word behind the dot (`Template.QualifiesAt`). Where one begins
none begins before its end, so all of them are found by a single scan, also those that follow one
another. Behind a qualifier a word begins, and before it none ends, so that taking it out joins
nothing: no qualifier is left that was not there (`not_qualifiesAt_rewriteFrom`).
-/

namespace CallMigration.Template

/-- Whether a qualifier begins at a place of a text, when `before` is the character to the left of
the text: the word `this`, which is no part of a longer one, with a dot and a word behind it. -/
def QualifiesAt (before : Option Char) (text : List Char) (place : Nat) : Prop :=
  ∃ front back, text = front ++ ("this.".toList ++ back) ∧ front.length = place ∧
    Text.isWordAt (front.getLast?.or before) = false ∧ Text.isWordAt back.head? = true

/-- Whether the character at a place belongs to a qualifier, be it to `this` or to the dot. -/
def InQualifier (before : Option Char) (text : List Char) (place : Nat) : Prop :=
  ∃ start, QualifiesAt before text start ∧ start ≤ place ∧ place < start + "this.".toList.length

section Places

variable {before : Option Char} {c : Char} {rest text : List Char} {place : Nat}

theorem qualifiesAt_zero :
    QualifiesAt before text 0 ↔ ∃ back, text = "this.".toList ++ back ∧
      Text.isWordAt before = false ∧ Text.isWordAt back.head? = true := by
  constructor
  · rintro ⟨front, back, rfl, hfront, hbefore, hback⟩
    obtain rfl := List.length_eq_zero_iff.mp hfront
    exact ⟨back, rfl, hbefore, hback⟩
  · rintro ⟨back, rfl, hbefore, hback⟩
    exact ⟨[], back, rfl, rfl, hbefore, hback⟩

theorem qualifiesAt_cons :
    QualifiesAt before (c :: rest) (place + 1) ↔ QualifiesAt (some c) rest place := by
  constructor
  · rintro ⟨front, back, htext, hfront, hbefore, hback⟩
    cases front with
    | nil => cases hfront
    | cons d front =>
        obtain ⟨rfl, rfl⟩ := List.cons.inj htext
        rw [Text.getLast?_cons_or] at hbefore
        exact ⟨front, back, rfl, Nat.succ.inj hfront, hbefore, hback⟩
  · rintro ⟨front, back, rfl, rfl, hbefore, hback⟩
    refine ⟨c :: front, back, rfl, rfl, ?_, hback⟩
    rwa [Text.getLast?_cons_or]

theorem not_qualifiesAt_nil : ¬ QualifiesAt before [] place := by
  rintro ⟨front, back, htext, -⟩
  simp at htext

/-- A qualifier does not begin behind a word character. -/
theorem not_qualifiesAt_zero (h : Text.isWordAt before = true) : ¬ QualifiesAt before text 0 := by
  rw [qualifiesAt_zero]
  rintro ⟨back, -, hbefore, -⟩
  rw [h] at hbefore
  cases hbefore

theorem qualifiesAt_behind :
    QualifiesAt before ("this.".toList ++ rest) (place + "this.".toList.length) ↔
      QualifiesAt (some '.') rest place := by
  show QualifiesAt before ('t' :: 'h' :: 'i' :: 's' :: '.' :: rest) (place + 1 + 1 + 1 + 1 + 1) ↔ _
  simp only [qualifiesAt_cons]

/-- Within a qualifier no other one begins. -/
theorem not_qualifiesAt_inside (hpos : 0 < place) (hlt : place < "this.".toList.length) :
    ¬ QualifiesAt before ("this.".toList ++ rest) place := by
  show ¬ QualifiesAt before ('t' :: 'h' :: 'i' :: 's' :: '.' :: rest) place
  have hlt : place < 5 := hlt
  match place with
  | 1 | 2 | 3 | 4 =>
      simp only [qualifiesAt_cons]
      exact not_qualifiesAt_zero (by decide)

theorem inQualifier_zero : InQualifier before text 0 ↔ QualifiesAt before text 0 := by
  constructor
  · rintro ⟨start, hstart, hle, -⟩
    rwa [Nat.le_zero.mp hle] at hstart
  · exact fun h => ⟨0, h, Nat.le_refl 0, by decide⟩

theorem inQualifier_cons (h : ¬ QualifiesAt before (c :: rest) 0) :
    InQualifier before (c :: rest) (place + 1) ↔ InQualifier (some c) rest place := by
  constructor
  · rintro ⟨start, hstart, hle, hlt⟩
    match start with
    | 0 => exact absurd hstart h
    | start + 1 => exact ⟨start, qualifiesAt_cons.mp hstart, by omega, by omega⟩
  · rintro ⟨start, hstart, hle, hlt⟩
    exact ⟨start + 1, qualifiesAt_cons.mpr hstart, by omega, by omega⟩

theorem inQualifier_inside (h : QualifiesAt before text 0) (hlt : place < "this.".toList.length) :
    InQualifier before text place :=
  ⟨0, h, Nat.zero_le place, by omega⟩

theorem inQualifier_behind :
    InQualifier before ("this.".toList ++ rest) (place + "this.".toList.length) ↔
      InQualifier (some '.') rest place := by
  constructor
  · rintro ⟨start, hstart, hle, hlt⟩
    by_cases hbehind : "this.".toList.length ≤ start
    · obtain ⟨further, rfl⟩ := Nat.exists_eq_add_of_le' hbehind
      exact ⟨further, qualifiesAt_behind.mp hstart, by omega, by omega⟩
    · exact absurd hstart (not_qualifiesAt_inside (by omega) (by omega))
  · rintro ⟨start, hstart, hle, hlt⟩
    exact ⟨start + "this.".toList.length, qualifiesAt_behind.mpr hstart, by omega, by omega⟩

end Places

section Scan

variable {before before' : Option Char} {c : Char} {rest text : List Char}

/-- The scan finds the qualifiers. -/
theorem thisQualifier_eq_none_iff :
    thisQualifier before text = none ↔ ¬ QualifiesAt before text 0 := by
  rw [qualifiesAt_zero]
  unfold thisQualifier
  split
  · next rest =>
      have hback : ∀ back, "this.".toList ++ rest = "this.".toList ++ back → rest = back :=
        fun back h => List.append_cancel_left h
      split
      · next hword =>
          rw [Bool.and_eq_true, Bool.not_eq_true'] at hword
          exact iff_of_false nofun (not_not_intro ⟨rest, rfl, hword⟩)
      · next hword =>
          refine iff_of_true rfl ?_
          rintro ⟨back, htext, hbefore, hword'⟩
          rw [← hback back htext] at hword'
          exact hword (by rw [hbefore, hword']; rfl)
  · next hno =>
      refine iff_of_true rfl ?_
      rintro ⟨back, rfl, -⟩
      exact hno back rfl

theorem rewriteFrom_plain (h : ¬ QualifiesAt before (c :: rest) 0) :
    Text.rewriteFrom thisQualifier before (c :: rest) =
      c :: Text.rewriteFrom thisQualifier (some c) rest :=
  Text.rewriteFrom_plain (thisQualifier_eq_none_iff.mpr h)

theorem rewriteFrom_qualifier (hbefore : Text.isWordAt before = false)
    (hback : Text.isWordAt rest.head? = true) :
    Text.rewriteFrom thisQualifier before ("this.".toList ++ rest) =
      Text.rewriteFrom thisQualifier (some '.') rest := by
  have hfound : thisQualifier before ("this.".toList ++ rest) =
      some ("this.".toList.length, []) := by
    show (if !Text.isWordAt before && Text.isWordAt rest.head? then _ else _) = _
    rw [hbefore, hback]
    rfl
  exact Text.rewriteFrom_found (by decide) hfound

/-- A text is read qualifier by qualifier, and otherwise character by character. -/
theorem qualifier_induction {motive : Option Char → List Char → Prop}
    (nil : ∀ before, motive before [])
    (plain : ∀ before c rest, ¬ QualifiesAt before (c :: rest) 0 → motive (some c) rest →
      motive before (c :: rest))
    (qualifier : ∀ before rest, Text.isWordAt before = false → Text.isWordAt rest.head? = true →
      motive (some '.') rest → motive before ("this.".toList ++ rest))
    (before : Option Char) (text : List Char) : motive before text := by
  induction hlength : text.length using Nat.strongRecOn generalizing before text with
  | ind length ih =>
      match text with
      | [] => exact nil before
      | c :: rest =>
          by_cases hfirst : QualifiesAt before (c :: rest) 0
          · obtain ⟨back, htext, hbefore, hback⟩ := qualifiesAt_zero.mp hfirst
            rw [htext] at hlength ⊢
            rw [List.length_append] at hlength
            have hpos : 0 < "this.".toList.length := by decide
            exact qualifier before back hbefore hback (ih back.length (by omega) _ back rfl)
          · rw [List.length_cons] at hlength
            exact plain before c rest hfirst (ih rest.length (by omega) _ rest rfl)

/-- The characters at places behind a text are those behind it. -/
theorem filterMap_behind (front rest : List Char) (kept : List Nat) :
    (kept.map (· + front.length)).filterMap ((front ++ rest)[·]?) = kept.filterMap (rest[·]?) := by
  rw [List.filterMap_map]
  refine List.filterMap_congr fun place _ => ?_
  show (front ++ rest)[place + front.length]? = rest[place]?
  rw [List.getElem?_append_right (Nat.le_add_left ..), Nat.add_sub_cancel]

/-- The characters outside of all qualifiers are left, in order. -/
theorem exists_kept (before : Option Char) (text : List Char) :
    ∃ kept : List Nat, kept.Pairwise (· < ·) ∧
      (∀ place, place ∈ kept ↔ place < text.length ∧ ¬ InQualifier before text place) ∧
      Text.rewriteFrom thisQualifier before text = kept.filterMap (text[·]?) := by
  induction before, text using qualifier_induction with
  | nil before => exact ⟨[], .nil, by simp, rfl⟩
  | plain before c rest hfirst ih =>
      obtain ⟨kept, hsorted, hmem, hkept⟩ := ih
      refine ⟨0 :: kept.map (· + 1), ?_, ?_, ?_⟩
      · simpa [List.pairwise_map] using hsorted
      · intro place
        match place with
        | 0 => simpa [inQualifier_zero] using hfirst
        | place + 1 =>
            rw [inQualifier_cons hfirst]
            simpa using hmem place
      · rw [rewriteFrom_plain hfirst, hkept, ← filterMap_behind [c] rest kept]
        rfl
  | qualifier before rest hbefore hback ih =>
      obtain ⟨kept, hsorted, hmem, hkept⟩ := ih
      have hfirst : QualifiesAt before ("this.".toList ++ rest) 0 :=
        qualifiesAt_zero.mpr ⟨rest, rfl, hbefore, hback⟩
      refine ⟨kept.map (· + "this.".toList.length), ?_, ?_, ?_⟩
      · simpa [List.pairwise_map] using hsorted
      · intro place
        by_cases hinside : place < "this.".toList.length
        · refine iff_of_false ?_ fun h => h.2 (inQualifier_inside hfirst hinside)
          intro hplace
          obtain ⟨further, -, rfl⟩ := List.mem_map.mp hplace
          omega
        · obtain ⟨further, rfl⟩ := Nat.exists_eq_add_of_le' (Nat.not_lt.mp hinside)
          rw [inQualifier_behind]
          simpa using hmem further
      · rw [rewriteFrom_qualifier hbefore hback, hkept, filterMap_behind]

/-- What is left begins with a word if the text does. -/
theorem isWordAt_head?_of_rewriteFrom
    (h : Text.isWordAt (Text.rewriteFrom thisQualifier before text).head? = true) :
    Text.isWordAt text.head? = true := by
  by_cases hfirst : QualifiesAt before text 0
  · obtain ⟨back, rfl, -⟩ := qualifiesAt_zero.mp hfirst
    rfl
  · cases text with
    | nil => exact h
    | cons c rest => rwa [rewriteFrom_plain hfirst] at h

/-- Behind a word character the scan copies. -/
theorem exists_of_rewriteFrom_eq_append {word back : List Char}
    (hbefore : Text.isWordAt before = true) (hword : Text.IsWord word) (c : Char)
    (h : Text.rewriteFrom thisQualifier before text = word ++ c :: back) :
    ∃ rest, text = word ++ c :: rest ∧ back = Text.rewriteFrom thisQualifier (some c) rest := by
  induction word generalizing before text with
  | nil =>
      cases text with
      | nil => cases h
      | cons d rest =>
          rw [rewriteFrom_plain (not_qualifiesAt_zero hbefore)] at h
          obtain ⟨rfl, rfl⟩ := List.cons.inj h
          exact ⟨rest, rfl, rfl⟩
  | cons d word ih =>
      cases text with
      | nil => cases h
      | cons e rest =>
          rw [rewriteFrom_plain (not_qualifiesAt_zero hbefore)] at h
          obtain ⟨rfl, hrest⟩ := List.cons.inj h
          obtain ⟨hfirst, hword⟩ := List.forall_mem_cons.mp hword
          have hbehind : Text.isWordAt (some e) = true := hfirst
          obtain ⟨rest, rfl, hback⟩ := ih hbehind hword hrest
          exact ⟨rest, rfl, hback⟩

/-- **No qualifier is left.** -/
theorem not_qualifiesAt_rewriteFrom {place : Nat}
    (hsame : Text.isWordAt before' = Text.isWordAt before) :
    ¬ QualifiesAt before' (Text.rewriteFrom thisQualifier before text) place := by
  induction before, text using qualifier_induction generalizing before' place with
  | nil before => exact not_qualifiesAt_nil
  | plain before c rest hfirst ih =>
      rw [rewriteFrom_plain hfirst]
      match place with
      | place + 1 =>
          rw [qualifiesAt_cons]
          exact ih rfl
      | 0 =>
          rw [qualifiesAt_zero]
          rintro ⟨back, htext, hbefore, hback⟩
          -- Its letters and its dot have been copied, so that the text itself begins with it.
          obtain ⟨rfl, hrest⟩ := List.cons.inj htext
          obtain ⟨rest, rfl, rfl⟩ := exists_of_rewriteFrom_eq_append (by decide)
            (by decide : Text.IsWord "his".toList) '.' hrest
          exact hfirst (qualifiesAt_zero.mpr
            ⟨rest, rfl, hsame.symm.trans hbefore, isWordAt_head?_of_rewriteFrom hback⟩)
  | qualifier before rest hbefore hback ih =>
      rw [rewriteFrom_qualifier hbefore hback]
      exact ih (hsame.trans hbefore)

/-- Something is left, since a word stands behind each qualifier. -/
theorem rewriteFrom_thisQualifier_ne_nil (hne : text ≠ []) :
    Text.rewriteFrom thisQualifier before text ≠ [] := by
  induction before, text using qualifier_induction with
  | nil before => exact absurd rfl hne
  | plain before c rest hfirst _ =>
      rw [rewriteFrom_plain hfirst]
      exact List.cons_ne_nil c _
  | qualifier before rest hbefore hback ih =>
      rw [rewriteFrom_qualifier hbefore hback]
      exact ih (Text.ne_nil_of_isWordAt_head? hback)

/-- A text without qualifiers stays as it is. -/
theorem rewriteFrom_eq_self (h : ∀ place, ¬ QualifiesAt before text place) :
    Text.rewriteFrom thisQualifier before text = text := by
  induction before, text using qualifier_induction with
  | nil before => rfl
  | plain before c rest hfirst ih =>
      rw [rewriteFrom_plain hfirst, ih fun place => mt qualifiesAt_cons.mpr (h (place + 1))]
  | qualifier before rest hbefore hback _ =>
      exact absurd (qualifiesAt_zero.mpr ⟨rest, rfl, hbefore, hback⟩) (h 0)

end Scan

/-- The qualifiers are dropped by a single scan. -/
theorem dropThisQualifiers_eq (template : String) :
    dropThisQualifiers template =
      String.ofList (Text.rewriteFrom thisQualifier none template.toList) := by
  rw [dropThisQualifiers, Text.replaceMatches_eq_rewriteFrom]

theorem dropThisQualifiers_ne_empty {template : String} (hne : template ≠ "") :
    dropThisQualifiers template ≠ "" := by
  have htext : template.toList ≠ [] := by simpa using hne
  have hleft := @rewriteFrom_thisQualifier_ne_nil none _ htext
  simpa [dropThisQualifiers_eq] using hleft

/-- **What dropping the qualifiers leaves.** The characters that belong to no qualifier are left,
each once and in order. No qualifier is left, so that dropping them once more changes nothing. -/
theorem toList_dropThisQualifiers (template : String) :
    (∃ kept : List Nat, kept.Pairwise (· < ·) ∧
      (∀ place, place ∈ kept ↔
        place < template.toList.length ∧ ¬ InQualifier none template.toList place) ∧
      (dropThisQualifiers template).toList = kept.filterMap (template.toList[·]?)) ∧
    (∀ place, ¬ QualifiesAt none (dropThisQualifiers template).toList place) ∧
    dropThisQualifiers (dropThisQualifiers template) = dropThisQualifiers template := by
  have hleft : (dropThisQualifiers template).toList =
      Text.rewriteFrom thisQualifier none template.toList := by
    rw [dropThisQualifiers_eq, String.toList_ofList]
  have hnone : ∀ place, ¬ QualifiesAt none (dropThisQualifiers template).toList place := by
    intro place
    rw [hleft]
    exact not_qualifiesAt_rewriteFrom rfl
  refine ⟨?kept, hnone, ?again⟩
  case kept =>
    rw [hleft]
    exact exists_kept none template.toList
  case again =>
    rw [dropThisQualifiers_eq (dropThisQualifiers template), rewriteFrom_eq_self hnone,
      String.ofList_toList]

example : dropThisQualifiers "this.this.a(Other.this.b, thisx.c, this.(d))" =
    "a(Other.b, thisx.c, this.(d))" := by decide +kernel

end CallMigration.Template
