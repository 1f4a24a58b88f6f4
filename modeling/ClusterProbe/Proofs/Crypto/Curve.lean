import ClusterProbe.Proofs.Crypto.Prime
import Mathlib.NumberTheory.LegendreSymbol.Basic
import Mathlib.Tactic.FieldSimp
import Mathlib.Tactic.LinearCombination

/-!
# The points of the curve

Sums of points of the curve are points of the curve, without exception, because the constant of the
curve is no square among the field elements and minus one is.
-/

namespace ClusterProbe.Ed25519

/-- A field element, of which a number is a representative. -/
abbrev Element := ZMod prime

/-! ## Arithmetic on representatives -/

theorem sub_lt (a b : Nat) : sub a b < prime := Nat.mod_lt _ prime_prime.pos

theorem cast_sub {a b : Nat} (h : b ≤ a + prime) : (sub a b : Element) = a - b := by
  rw [sub, ZMod.natCast_mod, Nat.cast_sub h, Nat.cast_add, ZMod.natCast_self, add_zero]

theorem cast_power {base bits exponent : Nat} (h : exponent < 2 ^ bits) :
    (power base bits exponent : Element) = (base : Element) ^ exponent := by
  rw [power_eq_powMod, cast_powMod h]

theorem cast_inverse {a : Nat} (h : (a : Element) ≠ 0) :
    (inverse a : Element) = (a : Element)⁻¹ := by
  have hfermat : (a : Element) * (a : Element) ^ (prime - 2) = 1 := by
    rw [← pow_succ']
    exact ZMod.pow_card_sub_one_eq_one h
  rw [inverse, cast_power (by decide)]
  exact eq_inv_of_mul_eq_one_right hfermat

theorem two_ne_zero : (2 : Element) ≠ 0 := by
  rw [← Nat.cast_two, Ne, ZMod.natCast_eq_zero_iff]
  exact fun h => absurd (Nat.le_of_dvd Nat.two_pos h) (by decide)

/-- Minus one is a square. -/
theorem sq_rootOfMinusOne : (rootOfMinusOne : Element) ^ 2 = -1 := by
  have h : ((rootOfMinusOne ^ 2 + 1 : Nat) : Element) = 0 := by
    rw [ZMod.natCast_eq_zero_iff]
    decide +kernel
  rw [eq_neg_iff_add_eq_zero]
  exact_mod_cast h

/-- The constant of the curve is no square: its power to half the order of the group is not one. -/
theorem not_isSquare_d : ¬ IsSquare (d : Element) := by
  have hne : (d : Element) ≠ 0 := by
    rw [Ne, ZMod.natCast_eq_zero_iff]
    decide +kernel
  rw [ZMod.euler_criterion prime hne, ← cast_power (by decide : prime / 2 < 2 ^ 256),
    ← Nat.cast_one, ZMod.natCast_eq_natCast_iff']
  decide +kernel

/-! ## The curve -/

def OnCurve (x y : Element) : Prop := -x ^ 2 + y ^ 2 = 1 + d * x ^ 2 * y ^ 2

namespace OnCurve

variable {x₁ y₁ x₂ y₂ : Element}

/-- A product of coordinates that is one or minus one would make the constant of the curve a square,
up to one of two factors. -/
theorem sq_eq (h₁ : OnCurve x₁ y₁) (h₂ : OnCurve x₂ y₂) {sign : Element} (hsign : sign ^ 2 = 1)
    (hproduct : (d * x₁ * x₂ * y₁ * y₂ : Element) ^ 2 = 1) :
    (rootOfMinusOne * x₁ + sign * (d * x₁ * x₂ * y₁ * y₂) * y₁ : Element) ^ 2 =
      d * (x₁ * y₁ * (rootOfMinusOne * x₂ + sign * y₂)) ^ 2 := by
  have hroot := sq_rootOfMinusOne
  unfold OnCurve at h₁ h₂
  grind

/-- No two points of the curve have a product of coordinates for which their sum is undefined. -/
theorem sq_ne_one (h₁ : OnCurve x₁ y₁) (h₂ : OnCurve x₂ y₂) :
    (d * x₁ * x₂ * y₁ * y₂ : Element) ^ 2 ≠ 1 := by
  intro hproduct
  have hne : (d * x₁ * x₂ * y₁ * y₂ : Element) ≠ 0 := by
    intro hzero
    rw [hzero] at hproduct
    exact zero_ne_one ((zero_pow (Nat.succ_ne_zero 1)).symm.trans hproduct)
  obtain ⟨⟨⟨⟨hd, hx₁⟩, hx₂⟩, hy₁⟩, hy₂⟩ :
      ((((d : Element) ≠ 0 ∧ x₁ ≠ 0) ∧ x₂ ≠ 0) ∧ y₁ ≠ 0) ∧ y₂ ≠ 0 := by
    simpa only [mul_ne_zero_iff] using hne
  have hvanishes {sign : Element} (hsign : sign ^ 2 = 1) :
      (rootOfMinusOne * x₂ + sign * y₂ : Element) = 0 := by
    by_contra hfactor
    have hdenominator := mul_ne_zero (mul_ne_zero hx₁ hy₁) hfactor
    refine not_isSquare_d ((isSquare_iff_exists_sq _).2
      ⟨(rootOfMinusOne * x₁ + sign * (d * x₁ * x₂ * y₁ * y₂) * y₁) /
        (x₁ * y₁ * (rootOfMinusOne * x₂ + sign * y₂)), ?_⟩)
    rw [div_pow, eq_div_iff (pow_ne_zero 2 hdenominator), sq_eq h₁ h₂ hsign hproduct]
  -- Both factors vanish only for a point with the coordinate zero.
  have hplus := hvanishes (one_pow 2)
  have hminus := hvanishes (neg_one_sq (R := Element))
  have htwice : 2 * y₂ = 0 := by linear_combination hplus - hminus
  exact (mul_ne_zero two_ne_zero hy₂) htwice

/-- The equation of a sum, with its denominators multiplied out. -/
theorem add_eq (h₁ : OnCurve x₁ y₁) (h₂ : OnCurve x₂ y₂) :
    -(x₁ * y₂ + x₂ * y₁) ^ 2 * (1 - d * x₁ * x₂ * y₁ * y₂) ^ 2 +
        (y₁ * y₂ + x₁ * x₂) ^ 2 * (1 + d * x₁ * x₂ * y₁ * y₂) ^ 2 =
      (1 + d * x₁ * x₂ * y₁ * y₂) ^ 2 * (1 - d * x₁ * x₂ * y₁ * y₂) ^ 2 +
        d * (x₁ * y₂ + x₂ * y₁) ^ 2 * (y₁ * y₂ + x₁ * x₂) ^ 2 := by
  unfold OnCurve at h₁ h₂
  grind

theorem denominators_ne_zero (h₁ : OnCurve x₁ y₁) (h₂ : OnCurve x₂ y₂) :
    (1 + d * x₁ * x₂ * y₁ * y₂ : Element) ≠ 0 ∧ (1 - d * x₁ * x₂ * y₁ * y₂ : Element) ≠ 0 := by
  rw [← mul_ne_zero_iff]
  intro h
  exact sq_ne_one h₁ h₂ (by linear_combination -h)

/-- The sum of two points of the curve is one. -/
theorem add (h₁ : OnCurve x₁ y₁) (h₂ : OnCurve x₂ y₂) :
    OnCurve ((x₁ * y₂ + x₂ * y₁) / (1 + d * x₁ * x₂ * y₁ * y₂))
      ((y₁ * y₂ + x₁ * x₂) / (1 - d * x₁ * x₂ * y₁ * y₂)) := by
  have hsum := add_eq h₁ h₂
  obtain ⟨hplus, hminus⟩ := denominators_ne_zero h₁ h₂
  generalize (1 + d * x₁ * x₂ * y₁ * y₂ : Element) = plus at hplus hsum ⊢
  generalize (1 - d * x₁ * x₂ * y₁ * y₂ : Element) = minus at hminus hsum ⊢
  unfold OnCurve
  field_simp
  linear_combination hsum

end OnCurve

/-! ## Points in extended coordinates -/

namespace Point

/-- The point is the pair of elements, in extended coordinates. -/
structure Stands (p : Point) (x y : Element) : Prop where
  x_lt : p.x < prime
  z_ne_zero : (p.z : Element) ≠ 0
  x_eq : (p.x : Element) = x * p.z
  y_eq : (p.y : Element) = y * p.z
  t_eq : (p.t : Element) = x * y * p.z

variable {p q : Point}

theorem le_add_prime {a b : Nat} (h : a < prime) : a ≤ b + prime :=
  Nat.le_add_left_of_le h.le

theorem mod_le_add_prime {a b : Nat} : a % prime ≤ b + prime :=
  le_add_prime (Nat.mod_lt a prime_prime.pos)

/-- The coordinates of a sum are products of these four values. -/
theorem cast_add {x₁ y₁ x₂ y₂ : Element} (hp : p.Stands x₁ y₁) (hq : q.Stands x₂ y₂) :
    let scale : Element := 2 * (p.z * q.z)
    let f := scale * (x₁ * y₂ + x₂ * y₁)
    let g := scale * (1 - d * x₁ * x₂ * y₁ * y₂)
    let h := scale * (1 + d * x₁ * x₂ * y₁ * y₂)
    let i := scale * (y₁ * y₂ + x₁ * x₂)
    ((p.add q).x : Element) = f * g ∧ ((p.add q).y : Element) = h * i ∧
      ((p.add q).z : Element) = g * h ∧ ((p.add q).t : Element) = f * i := by
  simp only [Point.add, ZMod.natCast_mod, Nat.cast_mul, Nat.cast_add, Nat.cast_ofNat,
    cast_sub mod_le_add_prime, cast_sub (le_add_prime hp.x_lt), cast_sub (le_add_prime hq.x_lt),
    hp.x_eq, hp.y_eq, hp.t_eq, hq.x_eq, hq.y_eq, hq.t_eq]
  refine ⟨?_, ?_, ?_, ?_⟩ <;> ring

/-- The sum of two points stands for the sum of what they stand for. -/
theorem Stands.add {x₁ y₁ x₂ y₂ : Element} (hp : p.Stands x₁ y₁) (hq : q.Stands x₂ y₂)
    (h₁ : OnCurve x₁ y₁) (h₂ : OnCurve x₂ y₂) :
    (p.add q).Stands ((x₁ * y₂ + x₂ * y₁) / (1 + d * x₁ * x₂ * y₁ * y₂))
      ((y₁ * y₂ + x₁ * x₂) / (1 - d * x₁ * x₂ * y₁ * y₂)) := by
  obtain ⟨hplus, hminus⟩ := h₁.denominators_ne_zero h₂
  obtain ⟨hx, hy, hz, ht⟩ := cast_add hp hq
  have hscale : (2 * (p.z * q.z) : Element) ≠ 0 :=
    mul_ne_zero two_ne_zero (mul_ne_zero hp.z_ne_zero hq.z_ne_zero)
  generalize (1 + d * x₁ * x₂ * y₁ * y₂ : Element) = plus at hplus hx hy hz ht ⊢
  generalize (1 - d * x₁ * x₂ * y₁ * y₂ : Element) = minus at hminus hx hy hz ht ⊢
  refine ⟨Nat.mod_lt _ prime_prime.pos, ?_, ?_, ?_, ?_⟩
  · rw [hz]
    exact mul_ne_zero (mul_ne_zero hscale hminus) (mul_ne_zero hscale hplus)
  · rw [hx, hz]
    field_simp
  · rw [hy, hz]
    field_simp
  · rw [ht, hz]
    field_simp

theorem onCurve_base : OnCurve base.x base.y := by
  have hcurve : (base.y ^ 2 : Element) = 1 + d * base.x ^ 2 * base.y ^ 2 + base.x ^ 2 := by
    have h : (base.y ^ 2) % prime = (1 + d * base.x ^ 2 * base.y ^ 2 + base.x ^ 2) % prime := by
      decide +kernel
    exact_mod_cast (ZMod.natCast_eq_natCast_iff' _ _ prime).2 h
  unfold OnCurve
  linear_combination hcurve

theorem stands_base : base.Stands base.x base.y := by
  have hz : (base.z : Element) = 1 := Nat.cast_one
  have ht : base.t = base.x * base.y % prime := rfl
  refine ⟨by decide, ?_, ?_, ?_, ?_⟩
  · rw [hz]
    exact one_ne_zero
  · rw [hz, mul_one]
  · rw [hz, mul_one]
  · rw [hz, mul_one, ht, ZMod.natCast_mod, Nat.cast_mul]

end Point

end ClusterProbe.Ed25519
