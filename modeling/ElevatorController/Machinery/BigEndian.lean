import Mathlib

/-!
# Machinery/BigEndian — numbers as octets, the most significant first

    octetsOf 2 0x1234 = [0x12, 0x34]        value [0x12, 0x34] = 0x1234

`value` is the loop `v = (v << 8) | octet`; `value_octetsOf` says the loop reads back what
`octetsOf` wrote, when the number fits.
-/

namespace BigEndian

/-- The lowest `n` octets of a number, the most significant first. -/
def octetsOf : ℕ → ℕ → List UInt8
  | 0, _ => []
  | n + 1, v => octetsOf n (v / 256) ++ [UInt8.ofNat v]

/-- The number some octets stand for. -/
def value (xs : List UInt8) : ℕ := xs.foldl (fun v octet => v <<< 8 ||| octet.toNat) 0

@[simp] theorem length_octetsOf : ∀ n v, (octetsOf n v).length = n
  | 0, _ => rfl
  | n + 1, v => by rw [octetsOf, List.length_append, length_octetsOf n, List.length_singleton]

theorem octetsOf_ne_nil {n : ℕ} (h : 0 < n) (v : ℕ) : octetsOf n v ≠ [] := fun hnil => by
  have := congrArg List.length hnil
  rw [length_octetsOf, List.length_nil] at this
  omega

/-- One pass of the loop. -/
theorem shiftLeft_or_octet (v : ℕ) (octet : UInt8) :
    v <<< 8 ||| octet.toNat = v * 256 + octet.toNat := by
  rw [← Nat.shiftLeft_add_eq_or_of_lt (show octet.toNat < 2 ^ 8 from octet.toNat_lt),
    Nat.shiftLeft_eq]

theorem value_concat (xs : List UInt8) (octet : UInt8) :
    value (xs ++ [octet]) = value xs * 256 + octet.toNat := by
  rw [value, List.foldl_append, List.foldl_cons, List.foldl_nil, shiftLeft_or_octet, value]

theorem value_lt (xs : List UInt8) : value xs < 256 ^ xs.length := by
  induction xs using List.reverseRecOn with
  | nil => exact Nat.one_pos
  | append_singleton xs octet ih =>
    have hoctet : octet.toNat < 256 := octet.toNat_lt
    rw [value_concat, List.length_append, List.length_singleton, pow_succ]
    omega

/-- **The loop reads back the number that was written.** -/
theorem value_octetsOf : ∀ {n v : ℕ}, v < 256 ^ n → value (octetsOf n v) = v
  | 0, v, h => (Nat.lt_one_iff.mp h).symm
  | n + 1, v, h => by
    have hhigh : v / 256 < 256 ^ n := Nat.div_lt_of_lt_mul (by rwa [← pow_succ'])
    rw [octetsOf, value_concat, value_octetsOf hhigh, UInt8.toNat_ofNat']
    omega

end BigEndian
