import Bnbera.Coordinator.AtMostOnce

namespace Bnbera

open Interleaving

section
variable [Sha256] {pool later : CoordinatorPool}

theorem coordinatorStep_moves {next : CoordinatorPool} (step : coordinator.Step pool next) : pool.state.Moves next.state := by
  cases step with
  | start => exact .refl _
  | call _ called => exact coordinatorExec_moves called
  | environment moved => exact moved.elim

theorem coordinatorRun_moves (run : Relation.ReflTransGen coordinator.Step pool later) : pool.state.Moves later.state := by
  induction run with
  | refl => exact .refl _
  | tail _ step ih => exact ih.trans (coordinatorStep_moves step)

end

end Bnbera
