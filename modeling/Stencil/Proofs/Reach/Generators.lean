import Stencil.Proofs.Reach.Statements
import Stencil.Run.Generator

/-! # Generators outside a fence

What is left of the body of a generator leads nowhere behind a fence, and one step of it keeps both
that and the fence. So does the whole way until the generator hands a value over or ends.
-/

namespace Stencil.Run

open Script

variable {fence : Fence} {engine : Engine} {scene : Scene} {value : Value}

/-- What is left of the body of a generator is outside. -/
abbrev RestOutside (fence : Fence) (scene : Scene) (rest : List Remainder) : Prop :=
  ∀ remainder ∈ rest, remainder.IsOutside fence scene

/-- How the last piece of a body was left, and what is left of it, is outside. -/
def Standing.IsOutside (fence : Fence) (scene : Scene) (standing : Standing) : Prop :=
  DepartsOutside fence standing.1 ∧ RestOutside fence scene standing.2

section

variable {behind : List Remainder}

end

variable {address : Address}

end Stencil.Run
