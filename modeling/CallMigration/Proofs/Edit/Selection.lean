import CallMigration.Edit.Batch
import Mathlib.Data.List.Induction

/-!
# Which items are accepted

Serving items first come, first served accepts items that do not overlap one another
(`Selection.pairwise_firstCome`), keeps them in the order in which they came
(`Selection.firstCome_sublist`) and accepts all of them where there is nothing to put off
(`Selection.firstCome_of_pairwise`). An item behind such items is put off exactly if it overlaps one
of them (`Selection.firstCome_append_singleton`), and items that come a second time are put off
(`Selection.serve_append_of_overlapped`, `Selection.any_overlaps_of_mem`).
-/

namespace CallMigration

namespace Selection

variable {α β : Type} {overlaps : α → α → Bool}

/-- What is accepted keeps the order of the items. -/
theorem serve_sublist (taken items : List α) :
    (serve overlaps taken items).accepted.Sublist items := by
  induction items generalizing taken with
  | nil => simp [serve]
  | cons item items ih =>
      unfold serve
      split
      · exact (ih taken).cons item
      · exact (ih (item :: taken)).cons_cons item

/-- Accepted items overlap neither one another nor an item taken before. -/
theorem pairwise_serve (taken items : List α) :
    (serve overlaps taken items).accepted.Pairwise (fun a b => overlaps a b = false) ∧
      ∀ t ∈ taken, ∀ a ∈ (serve overlaps taken items).accepted, overlaps t a = false := by
  induction items generalizing taken with
  | nil => simp [serve]
  | cons item items ih =>
      unfold serve
      split
      · exact ih taken
      · next hfree =>
          obtain ⟨hpair, htaken⟩ := ih (item :: taken)
          have hitem : ∀ t ∈ taken, overlaps t item = false := by simpa using hfree
          refine ⟨List.pairwise_cons.mpr ⟨htaken item List.mem_cons_self, hpair⟩, ?_⟩
          intro t ht a ha
          rcases List.mem_cons.mp ha with rfl | ha
          · exact hitem t ht
          · exact htaken t (List.mem_cons_of_mem _ ht) a ha

/-- Items that overlap neither one another nor an item taken before are all accepted. -/
theorem serve_of_pairwise {taken items : List α}
    (hpair : items.Pairwise fun a b => overlaps a b = false)
    (htaken : ∀ t ∈ taken, ∀ a ∈ items, overlaps t a = false) :
    serve overlaps taken items = ⟨items, []⟩ := by
  induction items generalizing taken with
  | nil => rfl
  | cons item items ih =>
      rw [List.pairwise_cons] at hpair
      have hfree : taken.any (overlaps · item) = false := by
        simpa using fun t ht => htaken t ht item List.mem_cons_self
      have hrest : serve overlaps (item :: taken) items = ⟨items, []⟩ := by
        apply ih hpair.2
        intro t ht a ha
        rcases List.mem_cons.mp ht with rfl | ht
        · exact hpair.1 a ha
        · exact htaken t ht a (List.mem_cons_of_mem _ ha)
      simp [serve, hfree, hrest]

theorem firstCome_sublist (items : List α) :
    (firstCome overlaps items).accepted.Sublist items :=
  serve_sublist [] items

theorem pairwise_firstCome (items : List α) :
    (firstCome overlaps items).accepted.Pairwise fun a b => overlaps a b = false :=
  (pairwise_serve [] items).1

theorem firstCome_of_pairwise {items : List α}
    (hpair : items.Pairwise fun a b => overlaps a b = false) :
    firstCome overlaps items = ⟨items, []⟩ :=
  serve_of_pairwise hpair (by simp)

/-- An item that comes last is accepted exactly if it overlaps neither an item taken before nor one
accepted. -/
theorem serve_append_singleton (taken items : List α) (item : α) :
    serve overlaps taken (items ++ [item]) =
      let served := serve overlaps taken items
      if (taken ++ served.accepted).any (overlaps · item) then
        ⟨served.accepted, served.deferred ++ [item]⟩
      else ⟨served.accepted ++ [item], served.deferred⟩ := by
  induction items generalizing taken with
  | nil => simp [serve]
  | cons first items ih =>
      simp only [List.cons_append, serve]
      split
      · rw [ih]
        simp only
        split <;> rfl
      · rw [ih]
        simp only [List.cons_append, List.any_append, List.any_cons, ← Bool.or_assoc,
          Bool.or_comm (overlaps first item)]
        split <;> rfl

/-- Behind items that do not overlap, another one is deferred exactly if it overlaps one of them. -/
theorem firstCome_append_singleton {items : List α}
    (hpair : items.Pairwise fun a b => overlaps a b = false) (item : α) :
    firstCome overlaps (items ++ [item]) =
      if items.any (overlaps · item) then ⟨items, [item]⟩ else ⟨items ++ [item], []⟩ := by
  have hitems : serve overlaps [] items = ⟨items, []⟩ := firstCome_of_pairwise hpair
  rw [firstCome, serve_append_singleton, hitems]
  rfl

/-- Every item is overlapped by one taken before or accepted: it is accepted itself, or it is put
off for that very reason. -/
theorem any_overlaps_of_mem {taken items : List α}
    (hself : ∀ item ∈ items, overlaps item item = true) {item : α} (hitem : item ∈ items) :
    (taken ++ (serve overlaps taken items).accepted).any (overlaps · item) = true := by
  induction items generalizing taken with
  | nil => cases hitem
  | cons first items ih =>
      rw [List.forall_mem_cons] at hself
      unfold serve
      split
      · next htaken =>
          rcases List.mem_cons.mp hitem with rfl | hitem
          · rw [List.any_append, htaken, Bool.true_or]
          · exact ih hself.2 hitem
      · rcases List.mem_cons.mp hitem with rfl | hitem
        · simp [hself.1]
        · have hany : (first :: taken ++ (serve overlaps (first :: taken) items).accepted).any
              (overlaps · item) = true := ih hself.2 hitem
          obtain ⟨a, ha, hoverlaps⟩ := List.any_eq_true.mp hany
          rw [List.any_eq_true]
          exact ⟨a, List.perm_middle.mem_iff.mpr ha, hoverlaps⟩

/-- Items that overlap one taken before or accepted are put off. -/
theorem serve_append_of_overlapped {taken items more : List α}
    (h : ∀ item ∈ more,
      (taken ++ (serve overlaps taken items).accepted).any (overlaps · item) = true) :
    serve overlaps taken (items ++ more) =
      ⟨(serve overlaps taken items).accepted, (serve overlaps taken items).deferred ++ more⟩ := by
  induction more using List.reverseRecOn with
  | nil => simp
  | append_singleton more item ih =>
      have hmore := ih fun i hi => h i (List.mem_append_left _ hi)
      rw [← List.append_assoc, serve_append_singleton, hmore]
      simp only [h item (by simp), if_true, List.append_assoc]

/-- Where overlapping depends on a part of the items alone, so does how they are served. -/
theorem serve_map (overlaps : α → α → Bool) (f : β → α) (taken items : List β) :
    serve overlaps (taken.map f) (items.map f) =
      ⟨(serve (fun a b => overlaps (f a) (f b)) taken items).accepted.map f,
        (serve (fun a b => overlaps (f a) (f b)) taken items).deferred.map f⟩ := by
  induction items generalizing taken with
  | nil => rfl
  | cons item items ih =>
      simp only [serve, List.map_cons, List.any_map, Function.comp_def]
      split
      · rw [ih, List.map_cons]
      · rw [← List.map_cons, ih, List.map_cons]

end Selection

end CallMigration
