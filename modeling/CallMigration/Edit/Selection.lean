/-!
# First come, first served

Of items that may overlap, those are accepted that overlap no item accepted before them; the
others are deferred. The two lists keep the order of the items and share them out
(`Selection.perm`).
-/

namespace CallMigration

/-- Items shared out into those accepted and those put off. -/
structure Selection (α : Type) where
  accepted : List α
  deferred : List α
deriving DecidableEq, Inhabited

namespace Selection

variable {α : Type} (overlaps : α → α → Bool)

/-- Serves the items in order when those in `taken` have been accepted already. -/
def serve (taken : List α) : List α → Selection α
  | [] => ⟨[], []⟩
  | item :: items =>
      if taken.any (overlaps · item) then
        let rest := serve taken items
        ⟨rest.accepted, item :: rest.deferred⟩
      else
        let rest := serve (item :: taken) items
        ⟨item :: rest.accepted, rest.deferred⟩

/-- Accepts each item that overlaps none accepted before it. -/
def firstCome (items : List α) : Selection α := serve overlaps [] items

/-- Every item is either accepted or deferred. -/
theorem perm (taken items : List α) :
    ((serve overlaps taken items).accepted ++ (serve overlaps taken items).deferred).Perm
      items := by
  induction items generalizing taken with
  | nil => simp [serve]
  | cons item items ih =>
      unfold serve
      split
      · exact List.perm_middle.trans ((ih taken).cons item)
      · exact (ih (item :: taken)).cons item

/-- Accepted and deferred items add up to all items. -/
theorem length_add_length (items : List α) :
    (firstCome overlaps items).accepted.length + (firstCome overlaps items).deferred.length =
      items.length := by
  rw [← List.length_append]
  exact (perm overlaps [] items).length_eq

end Selection

end CallMigration
