import Mathlib
import TunnelPorts.Number.Binary64

/-!
Nearest doubles. Which double is nearest to a natural is said here without a word on how it is
found, and without a bound on exponents. There is exactly one, rounding finds it, and it stays below
the bound if the natural is below the midpoint between the last double and the bound.
-/

namespace TunnelPorts.Binary64

-- A double with any exponent that makes it a natural.
def IsDouble (x : Nat) : Prop :=
  ∃ mantissa exponent, mantissa < 2 ^ 53 ∧ x = mantissa * 2 ^ exponent

-- No double is nearer to `n` than `x`. Of two that are equally near, the one counts whose mantissa
-- is even: it is divided by a power of two by which the other is not.
structure IsNearest (n x : Nat) : Prop where
  double  : IsDouble x
  nearest : ∀ y, IsDouble y → n.dist x ≤ n.dist y
  even    : ∀ y, IsDouble y → n.dist x = n.dist y → y ≠ x → ∃ e, 2 ^ e ∣ x ∧ ¬2 ^ e ∣ y

variable {n x y k : Nat}

theorem IsNearest.unique (hx : IsNearest n x) (hy : IsNearest n y) : x = y := by
  by_contra hn
  have hd := Nat.le_antisymm (hx.nearest y hy.double) (hy.nearest x hx.double)
  have ⟨e, he, hf⟩ := hx.even y hy.double hd (Ne.symm hn)
  have ⟨e', he', hf'⟩ := hy.even x hx.double hd.symm hn
  cases Nat.le_total e e'
  case inl h => exact hf <| Nat.pow_dvd_pow 2 h |>.trans he'
  case inr h => exact hf' <| Nat.pow_dvd_pow 2 h |>.trans he

theorem isDouble_mul_pow (h : x ≤ 2 ^ 53) (k : Nat) : IsDouble (x * 2 ^ k) := by
  by_cases hx : x = 2 ^ 53
  case pos => exact ⟨1, 53 + k, by decide, by rw [hx, one_mul, pow_add]⟩
  case neg => exact ⟨x, k, by omega, rfl⟩

-- Beyond its 53rd bit a double has only zeros.
theorem IsDouble.dvd (h : IsDouble x) (hx : 2 ^ (52 + k) ≤ x) : 2 ^ k ∣ x := by
  obtain ⟨m, e, hm, rfl⟩ := h
  have he : 52 + k < 53 + e := by
    apply (Nat.pow_lt_pow_iff_right Nat.one_lt_two).mp
    calc 2 ^ (52 + k) ≤ m * 2 ^ e := hx
      _ < 2 ^ 53 * 2 ^ e := Nat.mul_lt_mul_of_pos_right hm (Nat.two_pow_pos e)
      _ = 2 ^ (53 + e) := (pow_add 2 53 e).symm
  exact Dvd.dvd.mul_left (Nat.pow_dvd_pow 2 (by omega)) m

-- The multiples of `u` around a number are less than `u` away, and no others are.
theorem dist_multiple {q r u : Nat} (hr : r < u) (j : Nat) :
    j = q ∧ (q * u + r).dist (j * u) = r ∨ j = q + 1 ∧ (q * u + r).dist (j * u) = u - r ∨
      j ≠ q ∧ j ≠ q + 1 ∧ u ≤ (q * u + r).dist (j * u) := by
  rcases Nat.lt_trichotomy j q with hj | hj | hj
  case inl =>
    have hm : (j + 1) * u ≤ q * u := Nat.mul_le_mul_right u hj
    rw [add_one_mul] at hm
    rw [Nat.dist_eq_sub_of_le_right (by omega)]
    omega
  case inr.inl =>
    rw [hj, Nat.dist_eq_sub_of_le_right (by omega)]
    omega
  case inr.inr =>
    have hm : (q + 1) * u ≤ j * u := Nat.mul_le_mul_right u hj
    rw [add_one_mul] at hm
    rw [Nat.dist_eq_sub_of_le (by omega)]
    by_cases he : j = q + 1
    case pos =>
      rw [he, add_one_mul]
      omega
    case neg =>
      have hm : (q + 2) * u ≤ j * u := Nat.mul_le_mul_right u (by omega)
      rw [add_mul] at hm
      omega

-- Rounding to a multiple of `u` finds the nearest one, which is an even multiple if there are two.
theorem dist_roundDiv {u : Nat} (hu : 0 < u) (n j : Nat) :
    n.dist (roundDiv n u * u) ≤ n.dist (j * u) ∧
      (n.dist (roundDiv n u * u) = n.dist (j * u) → j ≠ roundDiv n u →
        roundDiv n u % 2 = 0 ∧ j % 2 = 1) := by
  have hr := Nat.mod_lt n hu
  have hj := dist_multiple (q := n / u) hr j
  have ha := dist_multiple (q := n / u) hr (roundDiv n u)
  rw [Nat.div_add_mod'] at hj ha
  have hc : roundDiv n u =
      if 2 * (n % u) < u ∨ 2 * (n % u) = u ∧ n / u % 2 = 0 then n / u else n / u + 1 := by
    simp [roundDiv]
  generalize roundDiv n u = a at ha hc ⊢
  split at hc
  case isTrue  => omega
  case isFalse => omega

theorem roundDiv_le_of_lt {u b : Nat} (hu : 0 < u) (h : n < b * u) : roundDiv n u ≤ b := by
  have hq : n / u < b := Nat.div_lt_iff_lt_mul hu |>.mpr h
  simp only [roundDiv]
  split <;> omega

-- Numbers of more than 53 bits are rounded to a multiple of some power of two.
theorem exists_roundNat (n : Nat) :
    ∃ k, (k = 0 ∨ 2 ^ (52 + k) ≤ n) ∧ n < 2 ^ 53 * 2 ^ k ∧
      roundNat n = roundDiv n (2 ^ k) * 2 ^ k := by
  refine ⟨n.log2 - 52, ?_, ?_, rfl⟩
  case refine_1 =>
    by_cases hl : n.log2 ≤ 52
    case pos => exact .inl <| Nat.sub_eq_zero_of_le hl
    case neg =>
      have hn : n ≠ 0 := by
        rintro rfl
        simp at hl
      rw [Nat.add_sub_cancel' (by omega)]
      exact .inr <| Nat.log2_self_le hn
  case refine_2 =>
    rw [← pow_add]
    exact Nat.lt_log2_self.trans_le <| Nat.pow_le_pow_right Nat.two_pos (by omega)

-- The doubles that matter are multiples of the same power of two: the others are farther away than
-- the least of these.
theorem IsDouble.dvd_or_far (hy : IsDouble y) (hk : k = 0 ∨ 2 ^ (52 + k) ≤ n) :
    2 ^ k ∣ y ∨ n.dist (2 ^ 52 * 2 ^ k) < n.dist y := by
  rw [← pow_add]
  by_cases h : 2 ^ (52 + k) ≤ y
  case pos => exact .inl <| hy.dvd h
  case neg =>
    cases hk
    case inl hk => exact .inl <| by simp [hk]
    case inr hk =>
      refine .inr ?_
      rw [Nat.dist_eq_sub_of_le_right hk, Nat.dist_eq_sub_of_le_right (by omega)]
      omega

theorem exists_dvd_of_even {a j : Nat} (ha : a % 2 = 0) (hj : j % 2 = 1) (k : Nat) :
    ∃ e, 2 ^ e ∣ a * 2 ^ k ∧ ¬2 ^ e ∣ j * 2 ^ k := by
  refine ⟨k + 1, ?_, ?_⟩
  case refine_1 =>
    rw [pow_succ']
    exact Nat.mul_dvd_mul_right (Nat.dvd_of_mod_eq_zero ha) _
  case refine_2 =>
    rw [pow_succ', Nat.mul_dvd_mul_iff_right (Nat.two_pow_pos k)]
    omega

theorem isNearest_roundNat (n : Nat) : IsNearest n (roundNat n) := by
  have ⟨k, hk, hn, hr⟩ := exists_roundNat n
  have hu := Nat.two_pow_pos k
  rw [hr]
  refine ⟨isDouble_mul_pow (roundDiv_le_of_lt hu hn) k, fun y hy => ?_, fun y hy hd hne => ?_⟩
  case refine_1 =>
    rcases hy.dvd_or_far hk with ⟨j, rfl⟩ | hf
    case inl => exact mul_comm (2 ^ k) j ▸ (dist_roundDiv hu n j).left
    case inr => exact (dist_roundDiv hu n _).left.trans hf.le
  case refine_2 =>
    rcases hy.dvd_or_far hk with ⟨j, rfl⟩ | hf
    case inl =>
      rw [mul_comm (2 ^ k) j] at hd hne ⊢
      have ⟨ha, hj⟩ := (dist_roundDiv hu n j).right hd fun h => hne <| by rw [h]
      exact exists_dvd_of_even ha hj k
    case inr => exact absurd hd <| ((dist_roundDiv hu n _).left.trans_lt hf).ne

theorem isNearest_iff : IsNearest n x ↔ x = roundNat n :=
  ⟨fun h => h.unique (isNearest_roundNat n), fun h => h ▸ isNearest_roundNat n⟩

section

variable {b : Nat}

-- The last double below a power of two has all of its 53 bits set.
theorem IsDouble.le_of_lt_two_pow (h : IsDouble x) (hb : b = k + 54) (hx : x < 2 ^ b) :
    x ≤ 2 ^ b - 2 ^ (k + 1) := by
  have hp : 2 ^ b = 2 ^ 53 * 2 ^ (k + 1) := by
    rw [← pow_add, hb]
    congr 1
    omega
  rw [hp] at hx ⊢
  by_cases hl : 2 ^ (52 + (k + 1)) ≤ x
  case pos =>
    obtain ⟨j, rfl⟩ := h.dvd hl
    rw [mul_comm] at hx ⊢
    have hj : j + 1 ≤ 2 ^ 53 := lt_of_mul_lt_mul_right hx (Nat.zero_le _)
    have hm := Nat.mul_le_mul_right (2 ^ (k + 1)) hj
    rw [add_one_mul] at hm
    omega
  case neg =>
    rw [pow_add] at hl
    omega

-- From halfway between the last double below a power of two and the power itself, it is the power
-- that is nearest: a tie goes to it, for its mantissa is even and the other is odd.
theorem IsNearest.lt_two_pow_iff (h : IsNearest n x) (hb : b = k + 54) :
    x < 2 ^ b ↔ n < 2 ^ b - 2 ^ k := by
  have hu := Nat.two_pow_pos k
  have hp : 2 ^ b = 2 ^ 54 * 2 ^ k := by rw [← pow_add, hb, add_comm]
  have hs : 2 ^ (k + 1) = 2 * 2 ^ k := pow_succ' 2 k
  have hd : IsDouble (2 ^ b) := ⟨1, b, by decide, (one_mul _).symm⟩
  constructor
  case mp =>
    intro hx
    by_contra hn
    have hl := h.double.le_of_lt_two_pow hb hx
    have hc := h.nearest _ hd
    have he : n.dist x = n.dist (2 ^ b) := by
      simp only [Nat.dist] at hc ⊢
      omega
    obtain ⟨e, hex, hem⟩ := h.even _ hd he hx.ne'
    have hk : b ≤ e := by
      by_contra hk
      exact hem <| Nat.pow_dvd_pow 2 (by omega)
    have hz := Nat.eq_zero_of_dvd_of_lt ((Nat.pow_dvd_pow 2 hk).trans hex) hx
    simp only [Nat.dist, hz] at he
    omega
  case mpr =>
    intro hn
    by_contra hx
    have hl : IsDouble (2 ^ b - 2 ^ (k + 1)) :=
      ⟨2 ^ 53 - 1, k + 1, by decide, by rw [Nat.sub_one_mul]; omega⟩
    have hc := h.nearest _ hl
    simp only [Nat.dist] at hc
    omega

end

-- The bound of the doubles that are finite.
theorem roundNat_lt_iff (n : Nat) : roundNat n < 2 ^ 1024 ↔ n < overflow := by
  rw [(isNearest_roundNat n).lt_two_pow_iff (show 1024 = 970 + 54 from rfl)]
  simp only [overflow, Nat.pow_eq]

end TunnelPorts.Binary64
