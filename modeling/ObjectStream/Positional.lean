/-
  ObjectStream.Positional

  Numbers in a fixed count of digits of some base, the most significant digit
  first. Writing and reading them undo each other, up to what does not fit.
-/

import Mathlib.Algebra.Group.Nat.Defs

namespace ObjectStream.Positional

/-- A number in `count` digits; what does not fit is dropped. -/
def digits (base count n : Nat) : List Nat :=
  (List.range count).map fun i => n / base ^ (count - 1 - i) % base

/-- The number that digits stand for. -/
def value (base : Nat) (digits : List Nat) : Nat :=
  digits.foldl (fun n digit => base * n + digit) 0

variable {base : Nat}

@[simp] theorem length_digits (base count n : Nat) : (digits base count n).length = count := by
  rw [digits, List.length_map, List.length_range]

theorem digits_lt (hbase : 0 < base) {count n d : Nat} (h : d ∈ digits base count n) : d < base := by
  obtain ⟨i, -, rfl⟩ := List.mem_map.mp h
  exact Nat.mod_lt _ hbase

theorem digits_add (base high low n : Nat) :
    digits base (high + low) n = digits base high (n / base ^ low) ++ digits base low n := by
  rw [digits, List.range_add, List.map_append, List.map_map]
  congr 1
  · apply List.map_congr_left
    intro i hi
    have hi := List.mem_range.mp hi
    rw [Nat.div_div_eq_div_mul, ← Nat.pow_add]
    congr 3
    omega
  · apply List.map_congr_left
    intro i _
    show n / base ^ (high + low - 1 - (high + i)) % base = _
    congr 3
    omega

theorem digits_succ (base count n : Nat) :
    digits base (count + 1) n = digits base count (n / base) ++ [n % base] := by
  have hlast : digits base 1 n = [n % base] := by
    show [n / 1 % base] = _
    rw [Nat.div_one]
  rw [digits_add, Nat.pow_one, hlast]

theorem value_concat (base : Nat) (l : List Nat) (d : Nat) :
    value base (l ++ [d]) = base * value base l + d := by
  rw [value, List.foldl_append]
  rfl

theorem value_append_zeros (base : Nat) (l : List Nat) (k : Nat) :
    value base (l ++ List.replicate k 0) = value base l * base ^ k := by
  induction k with
  | zero => rw [List.replicate_zero, List.append_nil, Nat.pow_zero, Nat.mul_one]
  | succ k ih =>
    rw [List.replicate_succ', ← List.append_assoc, value_concat, ih, Nat.add_zero, Nat.pow_succ,
      Nat.mul_comm, Nat.mul_assoc]

/-- What was written is read, as far as it fits. -/
theorem value_digits (base count n : Nat) :
    value base (digits base count n) = n % base ^ count := by
  induction count generalizing n with
  | zero => exact (Nat.mod_one n).symm
  | succ count ih => rw [digits_succ, value_concat, ih, Nat.pow_succ', Nat.mod_mul, Nat.add_comm]

/-- What was read is written. -/
theorem digits_value {l : List Nat} (h : ∀ d ∈ l, d < base) :
    digits base l.length (value base l) = l := by
  induction hlength : l.length generalizing l with
  | zero => rw [List.eq_nil_of_length_eq_zero hlength]; rfl
  | succ count ih =>
    have hne : l ≠ [] := fun hnil => by rw [hnil] at hlength; cases hlength
    have hlast := h _ (List.getLast_mem hne)
    have hfront := ih (l := l.dropLast) (fun d hd => h d (List.dropLast_subset l hd))
      (by rw [List.length_dropLast, hlength]; rfl)
    have hbase : 0 < base := Nat.zero_lt_of_lt hlast
    rw [← List.dropLast_concat_getLast hne, value_concat, digits_succ, Nat.mul_add_div hbase,
      Nat.div_eq_of_lt hlast, Nat.add_zero, hfront, Nat.mul_add_mod, Nat.mod_eq_of_lt hlast]

theorem digits_mod (hbase : 0 < base) (count n : Nat) :
    digits base count (n % base ^ count) = digits base count n := by
  have h := @digits_value base (digits base count n) fun _ => digits_lt hbase
  rwa [length_digits, value_digits] at h

/-- A number in digits is cut in two numbers in fewer digits. -/
theorem digits_split (hbase : 0 < base) (high low n : Nat) :
    digits base (high + low) n = digits base high (n / base ^ low) ++ digits base low (n % base ^ low) := by
  rw [digits_mod hbase, digits_add]

/-- Digits behind others make a longer number. -/
theorem digits_append {low m n : Nat} (high : Nat) (h : n < base ^ low) :
    digits base high m ++ digits base low n = digits base (high + low) (m * base ^ low + n) := by
  have hpos : 0 < base ^ low := Nat.zero_lt_of_lt h
  have hlow : digits base low (m * base ^ low + n) = digits base low n := by
    rcases Nat.eq_zero_or_pos low with rfl | hlow
    · rfl
    · have hbase : 0 < base := Nat.pos_of_ne_zero fun hzero => by
        rw [hzero, Nat.zero_pow hlow] at hpos
        exact Nat.lt_irrefl 0 hpos
      rw [← digits_mod hbase, Nat.mul_comm, Nat.mul_add_mod, Nat.mod_eq_of_lt h]
  rw [digits_add, hlow, Nat.mul_comm, Nat.mul_add_div hpos, Nat.div_eq_of_lt h, Nat.add_zero]

theorem value_lt (h : 0 < base) {l : List Nat} (hl : ∀ d ∈ l, d < base) :
    value base l < base ^ l.length := by
  rw [← digits_value hl, value_digits, length_digits]
  exact Nat.mod_lt _ (Nat.pow_pos h)

end ObjectStream.Positional
