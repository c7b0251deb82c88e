/-!
# Runs of code points

Classes of characters as ordered tables of runs.  `inRanges` says whether a code point lies in one
of the runs, searching the table by halving.
-/

namespace MetricIntake.Text

/-- The number of entries at the front of an ordered table that start at or before `n`, searched by
halving between `low` and `high`. -/
def rangesUpTo (table : Array (Nat × Nat)) (n : Nat) : Nat → Nat → Nat → Nat
  | 0, low, _ => low
  | fuel + 1, low, high =>
    if low < high then
      let middle := (low + high) / 2
      match table[middle]? with
      | some entry =>
        if entry.1 ≤ n then rangesUpTo table n fuel (middle + 1) high
        else rangesUpTo table n fuel low middle
      | none => low
    else low

/-- A code point lies in one of the runs of an ordered table. -/
def inRanges (table : Array (Nat × Nat)) (n : Nat) : Bool :=
  let k := rangesUpTo table n table.size 0 table.size
  match table[k - 1]? with
  | some entry => 0 < k && entry.1 ≤ n && n ≤ entry.2
  | none => false

end MetricIntake.Text
