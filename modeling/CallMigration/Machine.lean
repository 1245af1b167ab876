import CallMigration.FileTree
import CallMigration.Response

/-!
# Machines

A run of the program goes through the states of a machine, which hold its files and whatever else
its commands depend on and change. Reading files changes nothing; a command may do what it likes
(`Machine.disk`). When the program has answered, its texts are written (`Machine.afterRun`).

`Machine.IsReliable` says what can be expected of the commands that verify fixes: they work on a
copy.
-/

namespace CallMigration

/-- A state of a machine: its files, and everything else that its commands depend on. -/
structure World (σ : Type) where
  tree : FileTree
  rest : σ

/-- What a machine has for a run of the program. -/
structure Machine (σ : Type) where
  readers : Readers
  commands : Commands (StateM (World σ))

namespace Machine

variable {σ : Type} (machine : Machine σ)

/-- The files and commands of a machine, as the program sees them. -/
def disk : Disk (StateM (World σ)) where
  isFile p := return (← get).tree.isFile p
  isDirectory p := return (← get).tree.isDirectory p
  read p := return (← get).tree.read p
  filesBelow p := return .ok ((← get).tree.filesBelow p)
  confirms v text := v.confirms machine.commands text

/-- Whether verifications leave the files as they were and have the same outcome for the same text
on the same files. -/
structure IsReliable : Prop where
  tree_eq : ∀ v text (world : World σ),
    ((machine.disk.confirms v text).run world).2.tree = world.tree
  answer_eq : ∀ v text (world world' : World σ), world'.tree = world.tree →
    ((machine.disk.confirms v text).run world').1 = ((machine.disk.confirms v text).run world).1

/-- What a check gathers. -/
def gather (options : CheckOptions) (world : World σ) : Except CheckError (List Batch) :=
  ((machine.disk.gather machine.readers options).run world).1

/-- The answer to a command line. -/
def run (arguments : List String) (world : World σ) : Response :=
  ((machine.disk.respond machine.readers arguments).run world).1

/-- The state that a run of the program leaves behind. -/
def afterRun (arguments : List String) (world : World σ) : World σ :=
  let (response, after) := (machine.disk.respond machine.readers arguments).run world
  { after with tree := after.tree.writeAll response.writes }

end Machine

end CallMigration
