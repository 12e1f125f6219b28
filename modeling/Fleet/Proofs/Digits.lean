/-
# Digits of a number

A number is written with its digits, the most significant first.  The digits of a positive number do
not start with a zero, and the number is read off them from left to right.

Main statements: `toDigits_eq_map`, `foldl_digitsOf`, `head?_digitsOf`.
-/
import Mathlib.Data.Nat.Digits.Defs

namespace Fleet

/-- The digits of a number in a base, the most significant first; zero has one digit. -/
def digitsOf (base n : Nat) : List Nat :=
  if n = 0 then [0] else (Nat.digits base n).reverse

variable {base n k d : Nat}

/-- A number below the base is its own digit. -/
theorem digitsOf_of_lt (h : n < base) : digitsOf base n = [n] := by
  unfold digitsOf
  split
  · rename_i hzero
    rw [hzero]
  · rename_i hne
    rw [Nat.digits_of_lt base n hne h, List.reverse_singleton]

/-- A larger number has one digit more than its quotient by the base. -/
theorem digitsOf_of_le (hbase : 1 < base) (h : base ≤ n) :
    digitsOf base n = digitsOf base (n / base) ++ [n % base] := by
  have hpos : 0 < n / base := Nat.div_pos h (by omega)
  unfold digitsOf
  rw [if_neg (by omega), if_neg (by omega), Nat.digits_def' hbase (by omega), List.reverse_cons]

/-- The characters of a number are those of its digits. -/
theorem toDigits_eq_map (hbase : 1 < base) (n : Nat) :
    Nat.toDigits base n = (digitsOf base n).map Nat.digitChar := by
  induction n using Nat.strongRecOn with
  | _ n ih =>
      rw [Nat.toDigits_eq_if hbase]
      split
      · rename_i hlt
        rw [digitsOf_of_lt hlt, List.map_singleton]
      · rename_i hge
        rw [digitsOf_of_le hbase (by omega), List.map_append, List.map_singleton,
          ih (n / base) (Nat.div_lt_self (by omega) hbase)]

/-- There is a digit. -/
theorem digitsOf_ne_nil (hbase : 1 < base) (n : Nat) : digitsOf base n ≠ [] := by
  by_cases h : n < base
  · rw [digitsOf_of_lt h]
    exact List.cons_ne_nil n []
  · rw [digitsOf_of_le hbase (by omega)]
    exact List.append_ne_nil_of_right_ne_nil _ (List.cons_ne_nil _ _)

/-- Digits are below the base. -/
theorem lt_of_mem_digitsOf (hbase : 1 < base) (h : d ∈ digitsOf base n) : d < base := by
  induction n using Nat.strongRecOn with
  | _ n ih =>
      by_cases hlt : n < base
      · rw [digitsOf_of_lt hlt, List.mem_singleton] at h
        omega
      · rw [digitsOf_of_le hbase (by omega), List.mem_append, List.mem_singleton] at h
        rcases h with h | rfl
        · exact ih _ (Nat.div_lt_self (by omega) hbase) h
        · exact Nat.mod_lt n (by omega)

/-- The number is read off its digits. -/
theorem foldl_digitsOf (hbase : 1 < base) (n : Nat) :
    (digitsOf base n).foldl (fun acc d => acc * base + d) 0 = n := by
  induction n using Nat.strongRecOn with
  | _ n ih =>
      by_cases hlt : n < base
      · rw [digitsOf_of_lt hlt, List.foldl_cons, List.foldl_nil, Nat.zero_mul, Nat.zero_add]
      · rw [digitsOf_of_le hbase (by omega), List.foldl_append,
          ih _ (Nat.div_lt_self (by omega) hbase), List.foldl_cons, List.foldl_nil]
        exact Nat.div_add_mod' n base

/-- Only zero starts with a zero. -/
theorem head?_digitsOf (hbase : 1 < base) (h : (digitsOf base n).head? = some 0) : n = 0 := by
  induction n using Nat.strongRecOn with
  | _ n ih =>
      by_cases hlt : n < base
      · rw [digitsOf_of_lt hlt] at h
        cases h
        rfl
      · obtain ⟨first, rest, hdigits⟩ :=
          List.exists_cons_of_ne_nil (digitsOf_ne_nil hbase (n / base))
        rw [digitsOf_of_le hbase (by omega), hdigits] at h
        have hzero := ih _ (Nat.div_lt_self (by omega) hbase) (by rw [hdigits]; exact h)
        have hpos : 0 < n / base := Nat.div_pos (by omega) (by omega)
        omega

/-- A number below a power of the base has at most as many digits. -/
theorem length_digitsOf_le (hbase : 1 < base) (hk : 0 < k) (h : n < base ^ k) :
    (digitsOf base n).length ≤ k := by
  have hlength := (Nat.length_toDigits_le_iff hbase hk).mpr h
  rwa [toDigits_eq_map hbase, List.length_map] at hlength

end Fleet
