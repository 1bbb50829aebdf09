import Schemata.Files.Path
import Schemata.Rules.Overrides

/-!
# Configuration

The settings of a session.

## Main definitions

* `Config` : all settings; every one has a default.
* `ParallelConfig.workerCount`, `ParallelConfig.effectiveBatchSize` : the numbers in use, which are
  never zero.
-/

namespace Schemata

/-- Settings of the schema cache. -/
structure CacheConfig where
  enabled : Bool := true
  /-- The number of schemas that are kept. -/
  maxSize : Nat := 1000
deriving DecidableEq, Repr

/-- Settings of incremental work, which passes over documents that did not change. -/
structure IncrementalConfig where
  enabled : Bool := false
  /-- The file that keeps the ledger between sessions. -/
  cachePath : Option Path := none
deriving DecidableEq, Repr

/-- Settings of parallel work. -/
structure ParallelConfig where
  enabled : Bool := false
  workers : Option Nat := none
  /-- The number of declarations in a unit of work. -/
  batchSize : Nat := 50
  shutdownTimeoutMs : Nat := 5000
  taskTimeoutMs : Nat := 30000
deriving DecidableEq, Repr

namespace ParallelConfig

/-- The number of workers in use, `available` being that of a machine that was not told any. -/
def workerCount (c : ParallelConfig) (available : Nat) : Nat :=
  max 1 (c.workers.getD available)

/-- The batch size in use. -/
def effectiveBatchSize (c : ParallelConfig) : Nat :=
  max 1 c.batchSize

end ParallelConfig

/-- The settings of a session. -/
structure Config where
  enabled : Bool := true
  /-- Fallbacks are errors instead of warnings. -/
  strict : Bool := false
  /-- Only exported declarations are generated, with those they need. -/
  exportOnly : Bool := false
  cache : CacheConfig := {}
  incremental : IncrementalConfig := {}
  parallel : ParallelConfig := {}
  overrides : Overrides := .empty

end Schemata
