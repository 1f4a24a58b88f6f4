import ClusterProbe.Proofs.Crypto.Curve

/-!
# The group of the curve

The points of the curve are a commutative group.  Adding a point to itself over and over, as the
octets of a number say, is taking a multiple in this group, and the base point times the order is
nothing.
-/

namespace ClusterProbe.Ed25519

/-! ## Sums of three points -/

namespace OnCurve

variable {x₁ y₁ x₂ y₂ x₃ y₃ : Element}

/-- The two ways to add three points, in the first coordinate, with the denominators multiplied
out. -/
theorem assoc_x (h₁ : OnCurve x₁ y₁) (h₂ : OnCurve x₂ y₂) (h₃ : OnCurve x₃ y₃) :
    ((x₁ * y₂ + x₂ * y₁) * (1 - d * x₁ * x₂ * y₁ * y₂) * y₃ +
        x₃ * (y₁ * y₂ + x₁ * x₂) * (1 + d * x₁ * x₂ * y₁ * y₂)) *
      ((1 + d * x₂ * x₃ * y₂ * y₃) * (1 - d * x₂ * x₃ * y₂ * y₃) +
        d * x₁ * (x₂ * y₃ + x₃ * y₂) * y₁ * (y₂ * y₃ + x₂ * x₃)) =
    (x₁ * (y₂ * y₃ + x₂ * x₃) * (1 + d * x₂ * x₃ * y₂ * y₃) +
        (x₂ * y₃ + x₃ * y₂) * (1 - d * x₂ * x₃ * y₂ * y₃) * y₁) *
      ((1 + d * x₁ * x₂ * y₁ * y₂) * (1 - d * x₁ * x₂ * y₁ * y₂) +
        d * (x₁ * y₂ + x₂ * y₁) * x₃ * (y₁ * y₂ + x₁ * x₂) * y₃) := by
  unfold OnCurve at h₁ h₂ h₃
  -- With the points in reverse, the weights of the outer two equations change places.
  linear_combination
    d * (x₂ * y₂) * (x₃ * y₃) *
        (x₁ * (y₂ * y₃ + x₂ * x₃) * (1 + d * x₂ * x₃ * y₂ * y₃) -
          y₁ * (x₂ * y₃ + x₃ * y₂) * (1 - d * x₂ * x₃ * y₂ * y₃)) * h₁ +
      d ^ 2 * (x₁ * y₁) * (x₂ * y₂) * (x₃ * y₃) *
        ((x₁ * y₁ + x₃ * y₃) * (y₁ * x₃ - x₁ * y₃) * y₂ -
          (x₁ * y₁ - x₃ * y₃) * (x₁ * x₃ - y₁ * y₃) * x₂) * h₂ +
      d * (x₁ * y₁) * (x₂ * y₂) *
        (y₃ * (x₁ * y₂ + x₂ * y₁) * (1 - d * x₁ * x₂ * y₁ * y₂) -
          x₃ * (y₁ * y₂ + x₁ * x₂) * (1 + d * x₁ * x₂ * y₁ * y₂)) * h₃

/-- The same in the second coordinate. -/
theorem assoc_y (h₁ : OnCurve x₁ y₁) (h₂ : OnCurve x₂ y₂) (h₃ : OnCurve x₃ y₃) :
    ((y₁ * y₂ + x₁ * x₂) * (1 + d * x₁ * x₂ * y₁ * y₂) * y₃ +
        x₃ * (x₁ * y₂ + x₂ * y₁) * (1 - d * x₁ * x₂ * y₁ * y₂)) *
      ((1 + d * x₂ * x₃ * y₂ * y₃) * (1 - d * x₂ * x₃ * y₂ * y₃) -
        d * x₁ * (x₂ * y₃ + x₃ * y₂) * y₁ * (y₂ * y₃ + x₂ * x₃)) =
    (y₁ * (y₂ * y₃ + x₂ * x₃) * (1 + d * x₂ * x₃ * y₂ * y₃) +
        x₁ * (x₂ * y₃ + x₃ * y₂) * (1 - d * x₂ * x₃ * y₂ * y₃)) *
      ((1 + d * x₁ * x₂ * y₁ * y₂) * (1 - d * x₁ * x₂ * y₁ * y₂) -
        d * (x₁ * y₂ + x₂ * y₁) * x₃ * (y₁ * y₂ + x₁ * x₂) * y₃) := by
  unfold OnCurve at h₁ h₂ h₃
  linear_combination
    d * (x₂ * y₂) * (x₃ * y₃) *
        (y₁ * (y₂ * y₃ + x₂ * x₃) * (1 + d * x₂ * x₃ * y₂ * y₃) -
          x₁ * (x₂ * y₃ + x₃ * y₂) * (1 - d * x₂ * x₃ * y₂ * y₃)) * h₁ +
      d ^ 2 * (x₁ * y₁) * (x₂ * y₂) * (x₃ * y₃) *
        ((x₁ * y₁ - x₃ * y₃) * (x₁ * x₃ - y₁ * y₃) * y₂ -
          (x₁ * y₁ + x₃ * y₃) * (y₁ * x₃ - x₁ * y₃) * x₂) * h₂ +
      d * (x₁ * y₁) * (x₂ * y₂) *
        (x₃ * (x₁ * y₂ + x₂ * y₁) * (1 - d * x₁ * x₂ * y₁ * y₂) -
          y₃ * (y₁ * y₂ + x₁ * x₂) * (1 + d * x₁ * x₂ * y₁ * y₂)) * h₃

end OnCurve

/-! ## The group -/

/-- A point of the curve, by its two coordinates. -/
@[ext] structure Affine where
  x : Element
  y : Element
  onCurve : OnCurve x y

namespace Affine

instance : Zero Affine where
  zero := ⟨0, 1, by simp [OnCurve]⟩

instance : Neg Affine where
  neg a := ⟨-a.x, a.y, by simpa [OnCurve] using a.onCurve⟩

instance : Add Affine where
  add a b := ⟨_, _, a.onCurve.add b.onCurve⟩

@[simp] theorem x_zero : (0 : Affine).x = 0 := rfl

@[simp] theorem y_zero : (0 : Affine).y = 1 := rfl

@[simp] theorem x_neg (a : Affine) : (-a).x = -a.x := rfl

@[simp] theorem y_neg (a : Affine) : (-a).y = a.y := rfl

variable (a b c : Affine)

theorem x_add : (a + b).x = (a.x * b.y + b.x * a.y) / (1 + d * a.x * b.x * a.y * b.y) := rfl

theorem y_add : (a + b).y = (a.y * b.y + a.x * b.x) / (1 - d * a.x * b.x * a.y * b.y) := rfl

theorem assoc : a + b + c = a + (b + c) := by
  obtain ⟨hplus, hminus⟩ := (a + b).onCurve.denominators_ne_zero c.onCurve
  obtain ⟨hplus', hminus'⟩ := a.onCurve.denominators_ne_zero (b + c).onCurve
  obtain ⟨hp, hm⟩ := a.onCurve.denominators_ne_zero b.onCurve
  obtain ⟨hp', hm'⟩ := b.onCurve.denominators_ne_zero c.onCurve
  have hx := OnCurve.assoc_x a.onCurve b.onCurve c.onCurve
  have hy := OnCurve.assoc_y a.onCurve b.onCurve c.onCurve
  -- The denominators of the inner sums are nonzero, whatever they are.
  ext
  · rw [x_add (a + b), x_add a (b + c), div_eq_div_iff hplus hplus', x_add a b, y_add a b,
      x_add b c, y_add b c]
    generalize (1 + d * a.x * b.x * a.y * b.y : Element) = p at hp hx ⊢
    generalize (1 - d * a.x * b.x * a.y * b.y : Element) = m at hm hx ⊢
    generalize (1 + d * b.x * c.x * b.y * c.y : Element) = p' at hp' hx ⊢
    generalize (1 - d * b.x * c.x * b.y * c.y : Element) = m' at hm' hx ⊢
    field_simp
    linear_combination hx
  · rw [y_add (a + b), y_add a (b + c), div_eq_div_iff hminus hminus', x_add a b, y_add a b,
      x_add b c, y_add b c]
    generalize (1 + d * a.x * b.x * a.y * b.y : Element) = p at hp hy ⊢
    generalize (1 - d * a.x * b.x * a.y * b.y : Element) = m at hm hy ⊢
    generalize (1 + d * b.x * c.x * b.y * c.y : Element) = p' at hp' hy ⊢
    generalize (1 - d * b.x * c.x * b.y * c.y : Element) = m' at hm' hy ⊢
    field_simp
    linear_combination hy

theorem comm : a + b = b + a := by
  ext
  · rw [x_add, x_add]
    congr 1 <;> ring
  · rw [y_add, y_add]
    congr 1 <;> ring

theorem zero_add_eq : 0 + a = a := by
  ext <;> simp [x_add, y_add]

/-- The curve's equation makes the second coordinate of the sum one. -/
theorem neg_add_eq_zero : -a + a = 0 := by
  obtain ⟨-, hminus⟩ := (-a).onCurve.denominators_ne_zero a.onCurve
  have hcurve := a.onCurve
  unfold OnCurve at hcurve
  ext
  · rw [x_add, x_neg, y_neg, x_zero, neg_mul, neg_add_cancel, zero_div]
  · rw [y_add, y_zero, div_eq_one_iff_eq hminus, x_neg, y_neg]
    linear_combination hcurve

instance : AddCommGroup Affine where
  add_assoc := assoc
  add_comm := comm
  zero_add := zero_add_eq
  add_zero a := (comm a 0).trans (zero_add_eq a)
  neg_add_cancel := neg_add_eq_zero
  nsmul := nsmulRec
  zsmul := zsmulRec

end Affine

/-! ## Multiples of points -/

namespace Point

/-- The point is this one of the curve, in extended coordinates. -/
def Is (p : Point) (a : Affine) : Prop := p.Stands a.x a.y

namespace Is

variable {p q : Point} {a b : Affine}

theorem zero : Point.zero.Is 0 := by
  refine ⟨prime_prime.pos, ?_, ?_, ?_, ?_⟩ <;> simp [Point.zero]

theorem add (hp : p.Is a) (hq : q.Is b) : (p.add q).Is (a + b) :=
  Stands.add hp hq a.onCurve b.onCurve

/-- Each bit of the number adds the point that has been doubled so often. -/
theorem multiply (hp : p.Is a) {bits n : Nat} (h : n < 2 ^ bits) :
    (p.multiply bits n).Is (n • a) := by
  induction bits generalizing p a n with
  | zero =>
    obtain rfl := Nat.lt_one_iff.1 h
    rw [zero_nsmul]
    exact zero
  | succ bits ih =>
    have hrest := ih (hp.add hp) (n := n / 2) (by rw [pow_succ] at h; omega)
    rw [← two_nsmul, ← mul_nsmul] at hrest
    rw [Point.multiply]
    split
    · next hodd =>
      have hsum := hp.add hrest
      rw [← succ_nsmul'] at hsum
      have hn : 2 * (n / 2) + 1 = n := by omega
      rwa [hn] at hsum
    · next heven =>
      have hn : 2 * (n / 2) = n := by omega
      rwa [hn] at hrest

/-- Coordinates of the same point differ by a factor. -/
theorem same (hp : p.Is a) (hq : q.Is a) : p.same q = true := by
  rw [Point.same, Bool.and_eq_true, decide_eq_true_iff, decide_eq_true_iff,
    ← ZMod.natCast_eq_natCast_iff', ← ZMod.natCast_eq_natCast_iff', Nat.cast_mul, Nat.cast_mul,
    Nat.cast_mul, Nat.cast_mul, hp.x_eq, hq.x_eq, hp.y_eq, hq.y_eq]
  constructor <;> ring

end Is

end Point

/-! ## The base point -/

def Affine.base : Affine := ⟨Point.base.x, Point.base.y, Point.onCurve_base⟩

theorem Point.Is.base : Point.base.Is Affine.base := Point.stands_base

theorem order_lt : order < 2 ^ 253 := by decide

/-- So many base points add up to nothing. -/
theorem order_nsmul_base : order • Affine.base = 0 := by
  have hmultiple := Point.Is.base.multiply order_lt
  have hx : (Point.base.multiply 253 order).x = 0 := by decide +kernel
  have hy : (Point.base.multiply 253 order).y = (Point.base.multiply 253 order).z := by
    decide +kernel
  ext
  · have hzero := hmultiple.x_eq
    rw [hx, Nat.cast_zero, eq_comm, mul_eq_zero] at hzero
    exact hzero.resolve_right hmultiple.z_ne_zero
  · have hone := hmultiple.y_eq
    rw [hy, eq_comm] at hone
    exact mul_right_cancel₀ hmultiple.z_ne_zero (hone.trans (one_mul _).symm)

end ClusterProbe.Ed25519
