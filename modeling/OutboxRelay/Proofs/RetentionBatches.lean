import Mathlib.Algebra.GroupWithZero.Nat
import Mathlib.Data.List.Nodup
import OutboxRelay.Proofs.FetchRelease
import OutboxRelay.Proofs.SweepOutcome

namespace OutboxRelay

namespace OutboxRows
variable {rows : OutboxRows} {cutoff : Instant} {row : OutboxEntry} {m n : Nat}

end OutboxRows

namespace Store
variable {s : Store} {table : OutboxTable} {cutoff : Instant}

end Store

namespace Site
variable {τ : Type}

end Site

namespace Store

end Store

end OutboxRelay
