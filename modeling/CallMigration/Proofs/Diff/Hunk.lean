import CallMigration.Diff.Hunk

/-!
# What hunks show

The stretches around the changes of a script begin and end in the order of the changes. Joining
those that meet keeps what they show: a step is shown exactly if it is near a change
(`Hunk.shows_ofScript_iff`). What is left are stretches with a gap between any two
(`Hunk.pairwise_ofScript`).
-/

namespace CallMigration.Diff

namespace Script

variable {script : Script}

/-- The changes are the positions of steps that change something. -/
theorem mem_changes {i : Nat} :
    i ∈ script.changes ↔ ∃ step, script[i]? = some step ∧ step.isChange = true := by
  unfold changes
  simp only [List.mem_filterMap, Prod.exists, List.mem_zipIdx_iff_getElem?]
  constructor
  · rintro ⟨step, k, hstep, hshown⟩
    split at hshown
    · next hchange =>
        obtain rfl := Option.some.inj hshown
        exact ⟨step, hstep, hchange⟩
    · cases hshown
  · rintro ⟨step, hstep, hchange⟩
    exact ⟨step, i, hstep, if_pos hchange⟩

theorem lt_length_of_mem_changes {i : Nat} (h : i ∈ script.changes) : i < script.length := by
  obtain ⟨step, hstep, -⟩ := mem_changes.mp h
  exact (List.getElem?_eq_some_iff.mp hstep).1

/-- The changes of a script are listed in order. -/
theorem pairwise_changes (script : Script) : script.changes.Pairwise (· < ·) := by
  have hplaces : script.zipIdx.Pairwise fun x y => x.2 < y.2 := by
    rw [← List.pairwise_map, List.zipIdx_map_snd]
    exact List.pairwise_lt_range'
  refine List.pairwise_filterMap.mpr (hplaces.imp ?_)
  rintro ⟨step, i⟩ ⟨later, j⟩ hlt i' hi j' hj
  simp only [Option.ite_none_right_eq_some, Option.some.injEq] at hi hj
  obtain ⟨-, rfl⟩ := hi
  obtain ⟨-, rfl⟩ := hj
  exact hlt

end Script

namespace Hunk

/-- Whether a hunk shows the step at a position. -/
def Shows (hunk : Hunk) (i : Nat) : Prop := hunk.start ≤ i ∧ i < hunk.stop

/-- Whether a hunk begins and ends no later than another one. -/
def Leads (hunk other : Hunk) : Prop := hunk.start ≤ other.start ∧ hunk.stop ≤ other.stop

section Extend

variable {context size : Nat} {hunk : Hunk} {changes : List Nat} {i : Nat}

/-- Two stretches that meet show together what the stretch over both shows. -/
theorem shows_join {next : Hunk} (hleads : hunk.Leads next) (hmeets : next.start ≤ hunk.stop) :
    (⟨hunk.start, next.stop⟩ : Hunk).Shows i ↔ hunk.Shows i ∨ next.Shows i := by
  unfold Leads at hleads
  unfold Shows
  simp only
  omega

/-- The hunk over the first two of some stretches leads the others. -/
theorem pairwise_join {next : Hunk} {others : List Hunk}
    (h : (hunk :: next :: others).Pairwise Leads) :
    hunk.Leads next ∧ (⟨hunk.start, next.stop⟩ :: others).Pairwise Leads := by
  rw [List.pairwise_cons, List.pairwise_cons, List.forall_mem_cons] at h
  obtain ⟨⟨hleads, hhunk⟩, hnext, hothers⟩ := h
  exact ⟨hleads, List.pairwise_cons.mpr
    ⟨fun other hother => ⟨(hhunk other hother).1, (hnext other hother).2⟩, hothers⟩⟩

/-- Extending a hunk over stretches shows what it and they show. -/
theorem shows_extend_iff
    (h : (hunk :: changes.map (around context size)).Pairwise Leads) :
    (∃ shown ∈ extend context size hunk changes, shown.Shows i) ↔
      hunk.Shows i ∨ ∃ change ∈ changes, (around context size change).Shows i := by
  fun_induction extend context size hunk changes with
  | case1 hunk => simp
  | case2 hunk change changes next hmeets ih =>
      obtain ⟨hleads, hjoined⟩ := pairwise_join h
      rw [ih hjoined, shows_join hleads hmeets]
      simp only [List.mem_cons, exists_eq_or_imp, or_assoc]
  | case3 hunk change changes next hgap ih =>
      simp only [List.mem_cons, exists_eq_or_imp, ih (List.pairwise_cons.mp h).2, next]

/-- No hunk begins before the one that is extended. -/
theorem start_le_of_mem_extend
    (h : (hunk :: changes.map (around context size)).Pairwise Leads) :
    ∀ shown ∈ extend context size hunk changes, hunk.start ≤ shown.start := by
  fun_induction extend context size hunk changes with
  | case1 hunk => simp
  | case2 hunk change changes next hmeets ih => exact ih (pairwise_join h).2
  | case3 hunk change changes next hgap ih =>
      obtain ⟨hhunk, hrest⟩ := List.pairwise_cons.mp h
      have hnext : hunk.start ≤ next.start := (hhunk next List.mem_cons_self).1
      refine List.forall_mem_cons.mpr ⟨Nat.le_refl _, fun shown hshown => ?_⟩
      exact Nat.le_trans hnext (ih hrest shown hshown)

/-- Between any two hunks there is a gap. -/
theorem pairwise_extend (h : (hunk :: changes.map (around context size)).Pairwise Leads) :
    (extend context size hunk changes).Pairwise fun shown later => shown.stop < later.start := by
  fun_induction extend context size hunk changes with
  | case1 hunk => exact List.pairwise_singleton _ _
  | case2 hunk change changes next hmeets ih => exact ih (pairwise_join h).2
  | case3 hunk change changes next hgap ih =>
      have hrest := (List.pairwise_cons.mp h).2
      refine List.pairwise_cons.mpr ⟨fun later hlater => ?_, ih hrest⟩
      exact Nat.lt_of_lt_of_le (Nat.lt_of_not_le hgap) (start_le_of_mem_extend hrest later hlater)

/-- Every hunk shows a change if every stretch does. -/
theorem exists_shows_of_mem_extend {p : Nat → Prop}
    (h : (hunk :: changes.map (around context size)).Pairwise Leads)
    (hhunk : ∃ i, p i ∧ hunk.Shows i)
    (hchanges : ∀ change ∈ changes, p change ∧ (around context size change).Shows change) :
    ∀ shown ∈ extend context size hunk changes, ∃ i, p i ∧ shown.Shows i := by
  fun_induction extend context size hunk changes with
  | case1 hunk => simpa using hhunk
  | case2 hunk change changes next hmeets ih =>
      obtain ⟨hleads, hjoined⟩ := pairwise_join h
      obtain ⟨i, hi, hshows⟩ := hhunk
      rw [List.forall_mem_cons] at hchanges
      exact ih hjoined ⟨i, hi, (shows_join hleads hmeets).mpr (Or.inl hshows)⟩ hchanges.2
  | case3 hunk change changes next hgap ih =>
      rw [List.forall_mem_cons] at hchanges
      exact List.forall_mem_cons.mpr
        ⟨hhunk, ih (List.pairwise_cons.mp h).2 ⟨change, hchanges.1⟩ hchanges.2⟩

end Extend

section Around

variable {context size : Nat}

/-- A stretch shows the steps within a distance of the change, unless counting on from there begins
again at zero. -/
theorem shows_around_iff (hsize : size + context < positions) {change i : Nat}
    (hchange : change < size) :
    (around context size change).Shows i ↔
      i < size ∧ i ≤ change + context ∧ change ≤ i + context := by
  have hmod : (change + context + 1) % positions = change + context + 1 :=
    Nat.mod_eq_of_lt (by omega)
  unfold Shows around
  simp only [hmod]
  omega

/-- Stretches around changes in order are in order. -/
theorem pairwise_around (hsize : size + context < positions) {changes : List Nat}
    (hchanges : ∀ change ∈ changes, change < size) (hsorted : changes.Pairwise (· < ·)) :
    (changes.map (around context size)).Pairwise Leads := by
  refine List.pairwise_map.mpr (hsorted.imp_of_mem fun {change later} hchange hlater hlt => ?_)
  have hmod : (change + context + 1) % positions = change + context + 1 :=
    Nat.mod_eq_of_lt (by have := hchanges change hchange; omega)
  have hmodLater : (later + context + 1) % positions = later + context + 1 :=
    Nat.mod_eq_of_lt (by have := hchanges later hlater; omega)
  unfold Leads around
  simp only [hmod, hmodLater]
  omega

end Around

section OfScript

variable {context : Nat} {script : Script} (hsize : script.length + context < positions)
include hsize

theorem pairwise_around_changes :
    (script.changes.map (around context script.length)).Pairwise Leads :=
  pairwise_around hsize (fun _ => Script.lt_length_of_mem_changes) (Script.pairwise_changes script)

/-- **What is shown.** A step is shown exactly if it is within the distance of a change. -/
theorem shows_ofScript_iff {i : Nat} :
    (∃ hunk ∈ ofScript context script, hunk.Shows i) ↔
      i < script.length ∧
        ∃ change ∈ script.changes, i ≤ change + context ∧ change ≤ i + context := by
  have hshown : (∃ hunk ∈ ofScript context script, hunk.Shows i) ↔
      ∃ change ∈ script.changes, (around context script.length change).Shows i := by
    have hpairwise := pairwise_around_changes hsize
    unfold ofScript
    cases hchanges : script.changes with
    | nil => simp [ofChanges]
    | cons change changes =>
        rw [hchanges, List.map_cons] at hpairwise
        simp only [ofChanges, shows_extend_iff hpairwise, List.mem_cons, exists_eq_or_imp]
  rw [hshown]
  constructor
  · rintro ⟨change, hchange, hshows⟩
    rw [shows_around_iff hsize (Script.lt_length_of_mem_changes hchange)] at hshows
    exact ⟨hshows.1, change, hchange, hshows.2⟩
  · rintro ⟨hi, change, hchange, hnear⟩
    exact ⟨change, hchange,
      (shows_around_iff hsize (Script.lt_length_of_mem_changes hchange)).mpr ⟨hi, hnear⟩⟩

/-- Every change is shown. -/
theorem exists_shows_of_mem_changes {change : Nat} (h : change ∈ script.changes) :
    ∃ hunk ∈ ofScript context script, hunk.Shows change :=
  (shows_ofScript_iff hsize).mpr
    ⟨Script.lt_length_of_mem_changes h, change, h, Nat.le_add_right _ _, Nat.le_add_right _ _⟩

/-- The hunks of a script are in order, with a gap between any two. -/
theorem pairwise_ofScript :
    (ofScript context script).Pairwise fun hunk later => hunk.stop < later.start := by
  have hpairwise := pairwise_around_changes hsize
  unfold ofScript
  cases hchanges : script.changes with
  | nil => exact List.Pairwise.nil
  | cons change changes =>
      rw [hchanges, List.map_cons] at hpairwise
      exact pairwise_extend hpairwise

/-- Every hunk of a script shows a change. -/
theorem exists_change_of_mem_ofScript :
    ∀ hunk ∈ ofScript context script, ∃ i ∈ script.changes, hunk.Shows i := by
  have hpairwise := pairwise_around_changes hsize
  have hself : ∀ change ∈ script.changes, (around context script.length change).Shows change := by
    intro change hchange
    have hlt := Script.lt_length_of_mem_changes hchange
    exact (shows_around_iff hsize hlt).mpr ⟨hlt, by omega, by omega⟩
  unfold ofScript
  cases hchanges : script.changes with
  | nil => simp [ofChanges]
  | cons change changes =>
      rw [hchanges, List.map_cons] at hpairwise
      rw [hchanges, List.forall_mem_cons] at hself
      exact exists_shows_of_mem_extend hpairwise ⟨change, List.mem_cons_self, hself.1⟩
        fun later hlater => ⟨List.mem_cons_of_mem change hlater, hself.2 later hlater⟩

/-- A script without changes has no hunks. -/
theorem ofScript_eq_nil_iff : ofScript context script = [] ↔ script.changes = [] := by
  constructor
  · intro hnone
    refine List.eq_nil_iff_forall_not_mem.mpr fun change hchange => ?_
    obtain ⟨hunk, hmem, -⟩ := exists_shows_of_mem_changes hsize hchange
    rw [hnone] at hmem
    cases hmem
  · intro hnone
    rw [ofScript, hnone]
    rfl

end OfScript

end Hunk

end CallMigration.Diff
