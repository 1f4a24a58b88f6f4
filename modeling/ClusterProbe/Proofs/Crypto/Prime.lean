import ClusterProbe.Crypto.Ed25519
import Mathlib.Data.List.Prime
import Mathlib.NumberTheory.LucasPrimality
import Mathlib.Tactic.NormNum.Prime

/-!
# The prime of the curve

The number of field elements is a prime.  Lucas's test shows it: a number is prime if another one
has as many different powers modulo it as there are positive numbers below it, for which it is enough
to look at one power for each prime factor of the number before it.  The larger ones of these factors
are tested in the same way.
-/

namespace ClusterProbe.Ed25519

/-- `base ^ exponent` up to multiples of a modulus, with at most `bits` bits of the exponent. -/
def powMod (modulus base : Nat) : (bits : Nat) → (exponent : Nat) → Nat
  | 0, _ => 1
  | bits + 1, exponent =>
    let half := powMod modulus (base * base % modulus) bits (exponent / 2)
    if exponent % 2 = 1 then base * half % modulus else half

theorem cast_powMod {modulus base bits exponent : Nat} (h : exponent < 2 ^ bits) :
    (powMod modulus base bits exponent : ZMod modulus) = (base : ZMod modulus) ^ exponent := by
  induction bits generalizing base exponent with
  | zero =>
    obtain rfl := Nat.lt_one_iff.1 h
    rw [powMod, Nat.cast_one, pow_zero]
  | succ bits ih =>
    have hhalf : (powMod modulus (base * base % modulus) bits (exponent / 2) : ZMod modulus) =
        (base : ZMod modulus) ^ (2 * (exponent / 2)) := by
      rw [ih (by rw [pow_succ] at h; omega), ZMod.natCast_mod, Nat.cast_mul, ← pow_two, ← pow_mul]
    rw [powMod]
    split
    · next hodd =>
      rw [ZMod.natCast_mod, Nat.cast_mul, hhalf, ← pow_succ']
      congr 1
      omega
    · rw [hhalf]
      congr 1
      omega

/-- A power modulo the prime is the power of the element. -/
theorem power_eq_powMod (base bits exponent : Nat) :
    power base bits exponent = powMod prime base bits exponent := by
  induction bits generalizing base exponent with
  | zero => rfl
  | succ bits ih => rw [power, powMod, ih]

/-! ## Lucas's test -/

/-- A number passes the test with another one and with the prime factors of the number before it. -/
def PassesLucas (n base : Nat) (factors : List Nat) : Prop :=
  n = factors.prod + 1 ∧ n < 2 ^ 256 ∧ powMod n base 256 (n - 1) % n = 1 % n ∧
    ∀ q ∈ factors, powMod n base 256 ((n - 1) / q) % n ≠ 1 % n

instance (n base : Nat) (factors : List Nat) : Decidable (PassesLucas n base factors) :=
  inferInstanceAs (Decidable (_ ∧ _ ∧ _ ∧ _))

theorem prime_of_passesLucas {n : Nat} (base : Nat) (factors : List Nat)
    (h : PassesLucas n base factors) (hprime : ∀ q ∈ factors, q.Prime) : n.Prime := by
  obtain ⟨hn, hbits, hone, hother⟩ := h
  have hbefore : n - 1 = factors.prod := by rw [hn, Nat.add_sub_cancel]
  have hpow (exponent : Nat) (hle : exponent ≤ n - 1) :
      (base : ZMod n) ^ exponent = 1 ↔ powMod n base 256 exponent % n = 1 % n := by
    have hexponent : exponent < 2 ^ 256 := by omega
    rw [← cast_powMod hexponent, ← Nat.cast_one, ZMod.natCast_eq_natCast_iff']
  refine lucas_primality n base ((hpow _ (Nat.le_refl _)).2 hone) fun q hq hdvd => ?_
  -- A prime that divides the product of the factors is one of them.
  rw [hbefore] at hdvd
  obtain ⟨factor, hmem, hdvd⟩ := (Prime.dvd_prod_iff hq.prime).1 hdvd
  obtain rfl := (Nat.prime_dvd_prime_iff_eq hq (hprime factor hmem)).1 hdvd
  exact mt (hpow _ (Nat.div_le_self _ _)).1 (hother q hmem)

theorem prime_prime : Nat.Prime prime := by
  -- The large primes on the way, each by its number of digits.
  have h10 : Nat.Prime 2773320623 :=
    prime_of_passesLucas 5 [2, 2437, 569003] (by decide +kernel) (by norm_num)
  have h11 : Nat.Prime 72106336199 := by
    refine prime_of_passesLucas 7 [2, 13, 2773320623] (by decide +kernel) ?_
    simp only [List.forall_mem_cons, h10]
    norm_num
  have h16 : Nat.Prime 1919519569386763 :=
    prime_of_passesLucas 2 [2, 3, 7, 19, 47, 47, 127, 8574133] (by decide +kernel) (by norm_num)
  have h17 : Nat.Prime 31757755568855353 :=
    prime_of_passesLucas 10 [2, 2, 2, 3, 31, 107, 223, 4153, 430751] (by decide +kernel)
      (by norm_num)
  have h35 : Nat.Prime 75445702479781427272750846543864801 := by
    refine prime_of_passesLucas 7
      [2, 2, 2, 2, 2, 3, 3, 5, 5, 75707, 72106336199, 1919519569386763] (by decide +kernel) ?_
    simp only [List.forall_mem_cons, h11, h16]
    norm_num
  have h71 : Nat.Prime
      74058212732561358302231226437062788676166966415465897661863160754340907 := by
    refine prime_of_passesLucas 2 [2, 3, 353, 57467, 132049, 1923133, 31757755568855353,
      75445702479781427272750846543864801] (by decide +kernel) ?_
    simp only [List.forall_mem_cons, h17, h35]
    norm_num
  refine prime_of_passesLucas 2 [2, 2, 3, 65147,
    74058212732561358302231226437062788676166966415465897661863160754340907] (by decide +kernel) ?_
  simp only [List.forall_mem_cons, h71]
  norm_num

instance : Fact prime.Prime := ⟨prime_prime⟩

end ClusterProbe.Ed25519
