import Turnstile.Cache
import Turnstile.Pattern
import Turnstile.Ping
import Turnstile.Settings.Layered
import Turnstile.Proofs.Composition
import Turnstile.Proofs.Bucket
import Turnstile.Proofs.Isolation
import Turnstile.Proofs.Frame
import Turnstile.Proofs.Precedence
import Turnstile.Proofs.Runs
import Turnstile.Proofs.Reordering
import Turnstile.Proofs.Exchange
import Turnstile.Proofs.Delivery
import Turnstile.Proofs.Budget
import Turnstile.Proofs.Credit
import Turnstile.Proofs.Ownership
import Turnstile.Proofs.Redaction
import Turnstile.Proofs.Containment
import Turnstile.Proofs.Limits
import Turnstile.Proofs.Endings
import Turnstile.Proofs.Accounts
import Turnstile.Proofs.Lanes
import Turnstile.Proofs.Provenance
import Turnstile.Proofs.Lifetime
import Turnstile.Proofs.Refill
import Turnstile.Proofs.Mapped
import Turnstile.Proofs.Arrangement
import Turnstile.Proofs.Onion
import Turnstile.Proofs.Compilation
import Turnstile.Proofs.GroupRates
import Turnstile.Proofs.Holdings
import Turnstile.Proofs.TypedEnds
