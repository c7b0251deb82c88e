/-!
# Splitting texts

A text before and behind a character: `splitFirst` at its first and `splitLast` at its last place.
-/

namespace MetricIntake.Text

/-- The text before and behind the first separator, or the whole text. -/
def splitFirst (separator : Char) (cs : List Char) : List Char × Option (List Char) :=
  match cs.span (· ≠ separator) with
  | (before, _ :: behind) => (before, some behind)
  | (before, []) => (before, none)

/-- The text before and behind the last separator, or the whole text behind it. -/
def splitLast (separator : Char) (cs : List Char) : Option (List Char) × List Char :=
  match splitFirst separator cs.reverse with
  | (behind, some before) => (some before.reverse, behind.reverse)
  | (behind, none) => (none, behind.reverse)

end MetricIntake.Text
