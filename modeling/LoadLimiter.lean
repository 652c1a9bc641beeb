import LoadLimiter.Basic.Word
import LoadLimiter.Window.State
import LoadLimiter.Window.Shape
import LoadLimiter.Window.Rotate
import LoadLimiter.Window.RotateSpec
import LoadLimiter.Window.Distribute
import LoadLimiter.Window.DistributeSpec
import LoadLimiter.Window.Pointers
import LoadLimiter.Window.Capping
import LoadLimiter.Window.RetryIn
import LoadLimiter.Core.Limiter
import LoadLimiter.Core.Tenants
import LoadLimiter.Core.Invariant
import LoadLimiter.Core.Progress
import LoadLimiter.Core.Version
import LoadLimiter.Composite.Limiter
import LoadLimiter.Sync.Codec
import LoadLimiter.Sync.Transaction
import LoadLimiter.Sync.Peers
import LoadLimiter.Sync.Composite
import LoadLimiter.Sync.Stats
import LoadLimiter.Config.Validate
import LoadLimiter.Ledger.Model
import LoadLimiter.Ledger.Refinement
import LoadLimiter.Ledger.Safety
import LoadLimiter.Ledger.Capped
import LoadLimiter.Ledger.Retry
import LoadLimiter.Composite.Retry
import LoadLimiter.Composite.FastPath
import LoadLimiter.SubmitUntil.Driver
import LoadLimiter.SubmitUntil.Limiter
