/-! Numbers as a fixed count of digits, the most significant digit first. -/

namespace NetworkTime.Positional
variable {base : Nat} {ds : List Nat}

/-- The number that the digits write in `base`. -/
def value (base : Nat) (ds : List Nat) : Nat := ds.foldl (fun n d => n * base + d) 0

/-- The last `count` digits of a number. -/
def digits (base : Nat) : Nat → Nat → List Nat
  | 0, _ => []
  | count + 1, n => digits base count (n / base) ++ [n % base]

@[simp] theorem value_nil : value base [] = 0 := rfl

@[simp] theorem value_append_singleton (d : Nat) :
    value base (ds ++ [d]) = value base ds * base + d := by
  simp [value]

@[simp] theorem length_digits (count n : Nat) : (digits base count n).length = count := by
  induction count generalizing n with
  | zero => rfl
  | succ count ih => simp [digits, ih]

end NetworkTime.Positional
