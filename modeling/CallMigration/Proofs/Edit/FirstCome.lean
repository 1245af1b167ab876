import CallMigration.Proofs.Edit.Batch
import Mathlib.Data.Fin.Tuple.Basic
import Mathlib.Data.Fintype.Basic

/-!
# Which edits of a batch are made

Overlapping is not transitive, so what becomes of an item depends on what has become of those before
it. The places at which items are accepted are pinned down by one condition: an item is put off
exactly if it overlaps one that is accepted at a place before it (`Selection.IsFirstCome`). One
choice of places alone satisfies it (`IsFirstCome.unique`), and it is the one that serving in order
makes (`Selection.exists_accepts`). So the condition says all about the batches that are applied
(`Edit.applyAll_firstCome`).
-/

namespace CallMigration

namespace Selection

variable {α : Type} {overlaps : α → α → Bool} {n : Nat}

/-- The items at the marked places, in order. -/
def itemsAt (items : Fin n → α) (marked : Fin n → Bool) : List α :=
  ((List.finRange n).filter marked).map items

/-- Whether the marked places are those of the items accepted: an item is put off exactly if it
overlaps one at a marked place before it. -/
def IsFirstCome (overlaps : α → α → Bool) (items : Fin n → α) (accepts : Fin n → Bool) : Prop :=
  ∀ i, accepts i = false ↔ ∃ j, j < i ∧ accepts j = true ∧ overlaps (items j) (items i) = true

instance (overlaps : α → α → Bool) (items : Fin n → α) (accepts : Fin n → Bool) :
    Decidable (IsFirstCome overlaps items accepts) :=
  inferInstanceAs (Decidable (∀ i, accepts i = false ↔
    ∃ j, j < i ∧ accepts j = true ∧ overlaps (items j) (items i) = true))

section Places

variable {items : Fin n → α} {accepts accepts' : Fin n → Bool}

theorem itemsAt_cons (items : Fin (n + 1) → α) (first : Bool) (marked : Fin n → Bool) :
    itemsAt items (Fin.cons first marked) =
      if first then items 0 :: itemsAt (items ∘ Fin.succ) marked
      else itemsAt (items ∘ Fin.succ) marked := by
  unfold itemsAt
  rw [List.finRange_succ, List.filter_cons, List.filter_map]
  cases first <;> simp [Function.comp_def]

theorem not_cons (first : Bool) (marked : Fin n → Bool) :
    (fun i => !(Fin.cons first marked : Fin (n + 1) → Bool) i) =
      Fin.cons (!first) fun i => !marked i := by
  funext i
  cases i using Fin.cases <;> rfl

theorem exists_lt_succ {p : Fin (n + 1) → Prop} {i : Fin n} :
    (∃ j, j < i.succ ∧ p j) ↔ p 0 ∨ ∃ j, j < i ∧ p j.succ := by
  simp [Fin.exists_iff_succ, Fin.succ_pos]

theorem itemsAt_sublist (items : List α) (marked : Fin items.length → Bool) :
    (itemsAt items.get marked).Sublist items := by
  have hall := (List.filter_sublist (p := marked) (l := List.finRange items.length)).map items.get
  rwa [List.map_get_finRange] at hall

/-- At most one choice of places is made by serving in order. -/
theorem IsFirstCome.unique (h : IsFirstCome overlaps items accepts)
    (h' : IsFirstCome overlaps items accepts') : accepts' = accepts := by
  funext i
  induction i using WellFoundedLT.induction with
  | ind i ih =>
      rw [Bool.eq_iff_iff, ← not_iff_not, Bool.not_eq_true, Bool.not_eq_true, h i, h' i]
      constructor
      · rintro ⟨j, hlt, hj, hoverlaps⟩
        exact ⟨j, hlt, (ih j hlt).symm.trans hj, hoverlaps⟩
      · rintro ⟨j, hlt, hj, hoverlaps⟩
        exact ⟨j, hlt, (ih j hlt).trans hj, hoverlaps⟩

/-- Of two items accepted the earlier does not overlap the later. -/
theorem IsFirstCome.overlaps_eq_false (h : IsFirstCome overlaps items accepts) {i j : Fin n}
    (hlt : j < i) (hj : accepts j = true) (hi : accepts i = true) :
    overlaps (items j) (items i) = false := by
  by_contra hoverlaps
  rw [Bool.not_eq_false] at hoverlaps
  have := (h i).mpr ⟨j, hlt, hj, hoverlaps⟩
  rw [hi] at this
  cases this

/-- Serving in order, when some items have been taken already, puts an item off exactly if it
overlaps one of these or one accepted at a place before it. -/
theorem exists_accepts (overlaps : α → α → Bool) (taken : List α) (items : Fin n → α) :
    ∃ accepts : Fin n → Bool,
      serve overlaps taken (List.ofFn items) =
        ⟨itemsAt items accepts, itemsAt items fun i => !accepts i⟩ ∧
      ∀ i, accepts i = false ↔ (∃ t ∈ taken, overlaps t (items i) = true) ∨
        ∃ j, j < i ∧ accepts j = true ∧ overlaps (items j) (items i) = true := by
  induction n generalizing taken with
  | zero => exact ⟨Fin.elim0, rfl, fun i => i.elim0⟩
  | succ n ih =>
      -- The first item is put off at once, or it is one more that has been taken.
      rw [List.ofFn_succ]
      by_cases htaken : taken.any (overlaps · (items 0)) = true
      · obtain ⟨accepts, hserve, haccepts⟩ := ih taken (items ∘ Fin.succ)
        refine ⟨Fin.cons false accepts, ?_, fun i => ?_⟩
        · rw [not_cons, itemsAt_cons, itemsAt_cons, serve, if_pos htaken]
          exact congrArg (fun s : Selection α => (⟨s.accepted, items 0 :: s.deferred⟩ : Selection α))
            hserve
        · cases i using Fin.cases with
          | zero => simpa using htaken
          | succ i =>
              rw [exists_lt_succ]
              simpa using haccepts i
      · obtain ⟨accepts, hserve, haccepts⟩ := ih (items 0 :: taken) (items ∘ Fin.succ)
        refine ⟨Fin.cons true accepts, ?_, fun i => ?_⟩
        · rw [not_cons, itemsAt_cons, itemsAt_cons, serve, if_neg htaken]
          exact congrArg (fun s : Selection α => (⟨items 0 :: s.accepted, s.deferred⟩ : Selection α))
            hserve
        · cases i using Fin.cases with
          | zero => simpa using htaken
          | succ i =>
              rw [exists_lt_succ]
              have hplace := haccepts i
              rw [List.exists_mem_cons_iff] at hplace
              simpa [or_assoc, or_left_comm] using hplace

/-- Items are accepted at the places of the one choice that puts an item off exactly if it overlaps
one accepted before it. -/
theorem exists_isFirstCome (overlaps : α → α → Bool) (items : List α) :
    ∃ accepts, IsFirstCome overlaps items.get accepts ∧
      firstCome overlaps items =
        ⟨itemsAt items.get accepts, itemsAt items.get fun i => !accepts i⟩ := by
  obtain ⟨accepts, hserve, haccepts⟩ := exists_accepts overlaps [] items.get
  rw [List.ofFn_get] at hserve
  exact ⟨accepts, by simpa [IsFirstCome] using haccepts, hserve⟩

end Places

end Selection

namespace Edit

open Selection

/-- Valid edits do not overlap exactly if one ends where the other begins, or before, and they do
not insert at one place. -/
theorem overlaps_eq_false_iff {e f : Edit} (he : e.range.start ≤ e.range.stop)
    (hf : f.range.start ≤ f.range.stop) :
    e.overlaps f = false ↔
      (e.range.stop ≤ f.range.start ∨ f.range.stop ≤ e.range.start) ∧
        ¬ (e.range.start = e.range.stop ∧ f.range = e.range) := by
  obtain ⟨⟨start, stop⟩, text⟩ := e
  obtain ⟨⟨start', stop'⟩, text'⟩ := f
  simp only [← Bool.not_eq_true, overlaps_iff, TextRange.mk.injEq] at he hf ⊢
  omega

/-- The edits made of a batch are all made when they are applied alone. -/
theorem applyAll_accepted {source : String} {edits : List Edit}
    (hvalid : ∀ e ∈ edits, e.validate source = .ok ()) :
    applyAll source (accepted edits) =
      .ok ⟨makeAll source (accepted edits), (accepted edits).length, []⟩ := by
  have hmem : ∀ e ∈ accepted edits, e ∈ edits := fun e he => (firstCome_sublist edits).subset he
  have hfree : firstCome overlaps (accepted edits) = ⟨accepted edits, []⟩ :=
    firstCome_of_pairwise (pairwise_firstCome edits)
  rw [applyAll_of_valid fun e he => hvalid e (hmem e he), hfree]

/-- **Which edits of a batch are made.** A batch fails exactly if one of its edits is not valid,
with the cause of the first that is not. Otherwise there is one choice of places at which edits are
made such that an edit is deferred exactly if it overlaps one made at a place before it: those made
and those deferred share out the batch, keep its order and lie apart from one another, and a batch
of those made gives the same source and defers none. -/
theorem applyAll_firstCome (source : String) (edits : List Edit) :
    (∀ cause, applyAll source edits = .error cause ↔
      ∃ before e after, edits = before ++ e :: after ∧
        (∀ f ∈ before, f.validate source = .ok ()) ∧ e.validate source = .error cause) ∧
    ((∃ result, applyAll source edits = .ok result) ↔ ∀ e ∈ edits, e.validate source = .ok ()) ∧
    ∀ result, applyAll source edits = .ok result →
      ∃ accepts : Fin edits.length → Bool, IsFirstCome overlaps edits.get accepts ∧
        (∀ other, IsFirstCome overlaps edits.get other → other = accepts) ∧
        result.deferred = itemsAt edits.get (fun i => !accepts i) ∧
        result.deferred.Sublist edits ∧
        result.applied = (itemsAt edits.get accepts).length ∧
        result.applied + result.deferred.length = edits.length ∧
        (∀ i j, j < i → accepts j = true → accepts i = true →
          (edits.get j).overlaps (edits.get i) = false) ∧
        (itemsAt edits.get accepts).Pairwise (fun e f => e.overlaps f = false ∧
          (e.range.stop ≤ f.range.start ∨ f.range.stop ≤ e.range.start) ∧
            ¬ (e.range.start = e.range.stop ∧ f.range = e.range)) ∧
        applyAll source (itemsAt edits.get accepts) = .ok ⟨result.source, result.applied, []⟩ := by
  refine ⟨fun cause => ?fails, ?succeeds, fun result hresult => ?shared⟩
  case fails => rw [applyAll_eq_error_iff, validateAll_eq_error_iff]
  case succeeds =>
    exact ⟨fun ⟨result, h⟩ => validate_of_applyAll h, fun h => ⟨_, applyAll_of_valid h⟩⟩
  case shared =>
    have hvalid := validate_of_applyAll hresult
    obtain ⟨accepts, hfirst, hserved⟩ := exists_isFirstCome overlaps edits
    have haccepted : accepted edits = itemsAt edits.get accepts := by
      rw [accepted, hserved]
    have hapart : (itemsAt edits.get accepts).Pairwise (fun e f => e.overlaps f = false ∧
        (e.range.stop ≤ f.range.start ∨ f.range.stop ≤ e.range.start) ∧
          ¬ (e.range.start = e.range.stop ∧ f.range = e.range)) := by
      have hforward : ∀ e ∈ itemsAt edits.get accepts, e.range.start ≤ e.range.stop :=
        fun e he => start_le_stop_of_validate (hvalid e ((itemsAt_sublist edits accepts).subset he))
      have hfree : (accepted edits).Pairwise fun e f => e.overlaps f = false :=
        pairwise_firstCome edits
      rw [haccepted] at hfree
      apply List.Pairwise.imp_of_mem _ hfree
      intro e f he hf hfree
      exact ⟨hfree, (overlaps_eq_false_iff (hforward e he) (hforward f hf)).mp hfree⟩
    have hshared := length_add_length overlaps edits
    have hagain := applyAll_accepted hvalid
    rw [applyAll_of_valid hvalid] at hresult
    obtain rfl := Except.ok.inj hresult
    rw [haccepted] at hagain
    simp only [hserved] at hshared ⊢
    exact ⟨accepts, hfirst, fun other hother => hfirst.unique hother, rfl, itemsAt_sublist _ _, rfl,
      hshared, fun i j => hfirst.overlaps_eq_false, hapart, hagain⟩

/-- Edits of which the third overlaps the second only, which overlaps the first, and the last is the
first one again. -/
def chained : List Edit :=
  [⟨⟨1, 5⟩, "x"⟩, ⟨⟨3, 8⟩, "y"⟩, ⟨⟨6, 9⟩, "z"⟩, .insertion 5 "+", ⟨⟨1, 5⟩, "x"⟩]

/-- An edit that overlaps none but a deferred one is made. -/
theorem applyAll_firstCome_chained :
    applyAll "a.b().c()" chained =
      .ok ⟨"ax+.z", 3, [⟨⟨3, 8⟩, "y"⟩, ⟨⟨1, 5⟩, "x"⟩]⟩ ∧
    ∃ accepts, IsFirstCome overlaps chained.get accepts ∧
      (∀ i, accepts i = [0, 2, 3].contains i.val) ∧
      applyAll "a.b().c()" (itemsAt chained.get accepts) = .ok ⟨"ax+.z", 3, []⟩ := by
  have happlied : applyAll "a.b().c()" chained =
      .ok ⟨"ax+.z", 3, [⟨⟨3, 8⟩, "y"⟩, ⟨⟨1, 5⟩, "x"⟩]⟩ := by decide +kernel
  have hplaces : IsFirstCome overlaps chained.get fun i => [0, 2, 3].contains i.val := by
    decide +kernel
  obtain ⟨accepts, hfirst, hunique, -, -, -, -, -, -, hagain⟩ :=
    (applyAll_firstCome "a.b().c()" chained).2.2 _ happlied
  exact ⟨happlied, accepts, hfirst, fun i => congrFun (hunique _ hplaces).symm i, hagain⟩

end Edit

end CallMigration
