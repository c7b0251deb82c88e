/-!
# Digits

Texts of ASCII digits and the numbers they write: `digitsValue`.  `placeValue` is the number of some
digits of any base, the one that counts least in front.  `joinPlaces` finds it by joining
neighbours, which takes a long text far less work than one digit after another, and `joinPlaces_eq`
says that it is the same.
-/

namespace MetricIntake

/-- An ASCII digit. -/
def isDigit (c : Char) : Bool := '0' ≤ c && c ≤ '9'

/-- The value of an ASCII digit. -/
def digitValue (c : Char) : Nat := c.toNat - '0'.toNat

/-- The number of some digits, the one that counts least in front. -/
def placeValue (base : Nat) : List Nat → Nat
  | [] => 0
  | d :: ds => d + base * placeValue base ds

/-- Every two digits as one digit of the squared base. -/
def joinPairs (base : Nat) : List Nat → List Nat
  | low :: high :: ds => (low + base * high) :: joinPairs base ds
  | ds => ds

/-- Joined digits write the same number. -/
theorem placeValue_joinPairs (base : Nat) (ds : List Nat) :
    placeValue (base * base) (joinPairs base ds) = placeValue base ds := by
  fun_induction joinPairs base ds with
  | case1 low high ds ih =>
    simp only [placeValue, ih, Nat.mul_add, Nat.mul_assoc, Nat.add_assoc]
  | case2 ds h =>
    match ds, h with
    | [], _ => rfl
    | [d], _ => simp [placeValue]
    | low :: high :: ds, h => exact absurd rfl (h low high ds)

/-- The number of some digits, found by joining neighbours in so many rounds before the digits that
are left are taken one after another. -/
def joinPlaces : Nat → Nat → List Nat → Nat
  | 0, base, ds => placeValue base ds
  | rounds + 1, base, ds => joinPlaces rounds (base * base) (joinPairs base ds)

/-- Whatever the number of rounds, it is the number that the digits write. -/
theorem joinPlaces_eq (rounds base : Nat) (ds : List Nat) :
    joinPlaces rounds base ds = placeValue base ds := by
  induction rounds generalizing base ds with
  | zero => rfl
  | succ rounds ih => rw [joinPlaces, ih, placeValue_joinPairs]

/-- The value of a text of digits.  After as many rounds at most two numbers are left of it. -/
def digitsValue (cs : List Char) : Nat :=
  joinPlaces cs.length.log2 10 (cs.reverse.map digitValue)

/-- A digit at the end of a text of digits takes the last place. -/
theorem digitsValue_concat (cs : List Char) (c : Char) :
    digitsValue (cs ++ [c]) = digitsValue cs * 10 + digitValue c := by
  simp [digitsValue, joinPlaces_eq, placeValue, Nat.mul_comm, Nat.add_comm]

end MetricIntake
