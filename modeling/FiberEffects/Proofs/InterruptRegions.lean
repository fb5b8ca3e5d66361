import FiberEffects.Host.Runtime
import FiberEffects.Proofs.Interruption
import FiberEffects.Proofs.LoopSimulation

namespace FiberEffects

namespace FiberBook

variable {b : FiberBook}

end FiberBook

namespace Machine

variable {h : Heap} {n f : Nat}

end Machine

namespace Runtime

end Runtime

end FiberEffects
