import OutboxRelay.Proofs.Ordering
import OutboxRelay.Proofs.References

namespace OutboxRelay

namespace Tables
variable {t : Tables} {serial : Nat} {cutoff : Instant}

end Tables

namespace Store

end Store

end OutboxRelay
