import ClusterProbe.Proofs.Crypto.Group

/-!
# Points in 32 octets

A point of the curve that is written in 32 octets can be read again, and so every public key can.
-/

namespace ClusterProbe.Ed25519

theorem number_cons (b : UInt8) (bs : List UInt8) :
    number (b :: bs) = number bs * 256 + b.toNat := by
  rw [number, List.reverse_cons, List.map_append, List.map_singleton, Radix.value_concat, number]

theorem number_octets (count n : Nat) : number (octets count n) = n % 256 ^ count := by
  induction count generalizing n with
  | zero => rw [pow_zero, Nat.mod_one]; rfl
  | succ count ih =>
    have hlow : (UInt8.ofNat (n % 256)).toNat = n % 256 := by
      rw [UInt8.toNat_ofNat', Nat.mod_mod]
    rw [octets, number_cons, ih, hlow, pow_succ', Nat.mod_mul, Nat.mul_comm, Nat.add_comm]

/-! ## Square roots -/

/-- Every `y` has its fraction, of which an `x` to it is a square root. -/
theorem denominator_ne_zero (y : Element) : d * y ^ 2 + 1 ≠ 0 := by
  intro h
  have hy : y ≠ 0 := by
    rintro rfl
    rw [zero_pow (Nat.succ_ne_zero 1), mul_zero, zero_add] at h
    exact one_ne_zero h
  refine not_isSquare_d ((isSquare_iff_exists_sq _).2 ⟨rootOfMinusOne / y, ?_⟩)
  rw [div_pow, eq_div_iff (pow_ne_zero 2 hy), sq_rootOfMinusOne]
  linear_combination h

/-- The candidate for the square root of a fraction that has one is a root of it, or of its
negative. -/
theorem candidate_sq {u v x : Element} (hv : v ≠ 0) (h : x ^ 2 * v = u) :
    v * (u * v ^ 3 * (u * v ^ 7) ^ ((prime - 5) / 8)) ^ 2 = u ∨
      v * (u * v ^ 3 * (u * v ^ 7) ^ ((prime - 5) / 8)) ^ 2 = -u := by
  have hhalf : prime / 2 = 2 * (2 * ((prime - 5) / 8) + 1) := by decide
  have hsquare : u * v ^ 7 = (x * v ^ 4) ^ 2 := by
    rw [← h]
    ring
  have hcheck : v * (u * v ^ 3 * (u * v ^ 7) ^ ((prime - 5) / 8)) ^ 2 =
      u * (x * v ^ 4) ^ (prime / 2) := by
    rw [hhalf, pow_mul, ← hsquare]
    ring
  rw [hcheck]
  by_cases hx : x = 0
  · rw [← h, hx]
    left
    ring
  · have hroot : x * v ^ 4 ≠ 0 := mul_ne_zero hx (pow_ne_zero 4 hv)
    rcases ZMod.pow_div_two_eq_neg_one_or_one prime hroot with hone | hone
    · exact .inl (by rw [hone, mul_one])
    · exact .inr (by rw [hone, mul_neg_one])

theorem eq_of_cast_eq {a b : Nat} (ha : a < prime) (hb : b < prime) (h : (a : Element) = b) :
    a = b := by
  have hmod := (ZMod.natCast_eq_natCast_iff' a b prime).1 h
  rwa [Nat.mod_eq_of_lt ha, Nat.mod_eq_of_lt hb] at hmod

/-- The candidate, or else its product with the root of minus one, is a square root of a fraction
that has one. -/
theorem exists_root {u v r check : Nat} {x : Element} (hv : (v : Element) ≠ 0)
    (h : x ^ 2 * v = u) (hu : u < prime) (hr : r < prime) (hcheck : check < prime)
    (hcandidate : (r : Element) = u * v ^ 3 * (u * v ^ 7 : Element) ^ ((prime - 5) / 8))
    (hsquare : (check : Element) = v * (r : Element) ^ 2) :
    ∃ root < prime, (root : Element) ^ 2 = x ^ 2 ∧
      (if check = u then some r
        else if check = sub 0 u then some (r * rootOfMinusOne % prime)
        else none) = some root := by
  have hroot {root : Element} (heq : v * root ^ 2 = u) : root ^ 2 = x ^ 2 := by
    refine mul_left_cancel₀ hv (heq.trans ?_)
    rw [← h, mul_comm]
  by_cases hsame : check = u
  · refine ⟨r, hr, hroot ?_, if_pos hsame⟩
    rw [← hsquare, hsame]
  · have hnegative : (check : Element) = -u := by
      rw [hsquare, hcandidate]
      refine (candidate_sq hv h).resolve_left fun heq => hsame ?_
      exact eq_of_cast_eq hcheck hu (by rw [hsquare, hcandidate, heq])
    have hopposite : check = sub 0 u := by
      refine eq_of_cast_eq hcheck (sub_lt _ _) ?_
      rw [hnegative, cast_sub (Point.le_add_prime hu), Nat.cast_zero, zero_sub]
    refine ⟨r * rootOfMinusOne % prime, Nat.mod_lt _ prime_prime.pos, hroot ?_, ?_⟩
    · rw [ZMod.natCast_mod, Nat.cast_mul]
      linear_combination (v * r ^ 2 : Element) * sq_rootOfMinusOne + hsquare - hnegative
    · rw [if_neg hsame, if_pos hopposite]

/-- Of a number and the one that stands for the opposite element, each has another lowest bit. -/
theorem eq_of_lowest_bit {root x : Nat} (hroot : root < prime) (hx : x < prime)
    (h : (root : Element) ^ 2 = x ^ 2) :
    (if root % 2 = x % 2 then root else sub 0 root) = x := by
  rcases sq_eq_sq_iff_eq_or_eq_neg.1 h with heq | heq
  · obtain rfl := eq_of_cast_eq hroot hx heq
    rw [if_pos rfl]
  · by_cases hzero : x = 0
    · rw [hzero, Nat.cast_zero, neg_zero, ← Nat.cast_zero] at heq
      obtain rfl := eq_of_cast_eq hroot prime_prime.pos heq
      rw [hzero, if_pos rfl]
    · have hopposite : root = prime - x := by
        refine eq_of_cast_eq hroot (by omega) ?_
        rw [heq, Nat.cast_sub hx.le, ZMod.natCast_self, zero_sub]
      have hodd : prime % 2 = 1 := by decide
      have hback : 0 + prime - (prime - x) = x := by omega
      rw [if_neg (by omega), sub, hopposite, hback, Nat.mod_eq_of_lt hx]

/-! ## Reading a point -/

namespace Point

/-- Octets with the `y` of a point of the curve are read as that `y` and one of the two values that
`x` can have, which their last bit chooses. -/
theorem exists_decompress {octets : Octets 32} {x : Element} {y : Nat}
    (hy : number octets.toList % Nat.pow 2 255 % prime = y) (h : OnCurve x y) :
    ∃ root < prime, (root : Element) ^ 2 = x ^ 2 ∧
      let x := if root % 2 = number octets.toList / Nat.pow 2 255 % 2 then root else sub 0 root
      decompress octets = some ⟨x, y, 1, x * y % prime⟩ := by
  subst hy
  unfold decompress
  extract_lets n y u v v3 v7 r check root?
  have hu : (u : Element) = (y : Element) ^ 2 - 1 := by
    rw [cast_sub (Nat.le_add_left_of_le prime_prime.one_le), ZMod.natCast_mod, Nat.cast_mul,
      Nat.cast_one, pow_two]
  have hv : (v : Element) = d * (y : Element) ^ 2 + 1 := by
    rw [ZMod.natCast_mod, Nat.cast_add, Nat.cast_mul, ZMod.natCast_mod, Nat.cast_mul,
      Nat.cast_one, pow_two]
  have hv0 : (v : Element) ≠ 0 := by
    rw [hv]
    exact denominator_ne_zero _
  have hfraction : (x ^ 2 * v : Element) = u := by
    rw [hu, hv]
    unfold OnCurve at h
    linear_combination -h
  have hexponent : (prime - 5) / 8 < 2 ^ 256 := by decide
  have hcandidate : (r : Element) = u * v ^ 3 * (u * v ^ 7 : Element) ^ ((prime - 5) / 8) := by
    simp only [r, v7, v3, ZMod.natCast_mod, Nat.cast_mul, cast_power hexponent]
    ring
  have hsquare : (check : Element) = v * (r : Element) ^ 2 := by
    simp only [check, ZMod.natCast_mod, Nat.cast_mul, pow_two]
  obtain ⟨root, hroot, hsq, hread⟩ := exists_root hv0 hfraction (sub_lt _ _)
    (Nat.mod_lt _ prime_prime.pos) (Nat.mod_lt _ prime_prime.pos) hcandidate hsquare
  exact ⟨root, hroot, hsq, congrArg (Option.map _) hread⟩

/-- A coordinate is divided by its denominator. -/
theorem cast_mul_inverse {n z : Nat} {a : Element} (hz : (z : Element) ≠ 0)
    (hn : (n : Element) = a * z) : ((n * inverse z % prime : Nat) : Element) = a := by
  rw [ZMod.natCast_mod, Nat.cast_mul, cast_inverse hz, hn, mul_inv_cancel_right₀ hz]

/-- A point is written as its `y`, with the lowest bit of `x` above it. -/
theorem number_compress (p : Point) :
    number p.compress.toList =
      p.y * inverse p.z % prime + p.x * inverse p.z % prime % 2 * Nat.pow 2 255 := by
  refine (number_octets 32 _).trans (Nat.mod_eq_of_lt ?_)
  have hy : p.y * inverse p.z % prime < Nat.pow 2 255 :=
    (Nat.mod_lt _ prime_prime.pos).trans (by decide)
  have hbit := Nat.mod_lt (p.x * inverse p.z % prime) Nat.two_pos
  have hsize : 256 ^ 32 = 2 * Nat.pow 2 255 := by decide
  rw [hsize]
  nlinarith

/-- A point that is written is read again. -/
theorem Is.exists_decompress_compress {p : Point} {a : Affine} (h : p.Is a) :
    ∃ q, decompress p.compress = some q ∧ q.Is a := by
  have hnumber := number_compress p
  generalize hx : p.x * inverse p.z % prime = x at hnumber
  generalize hy : p.y * inverse p.z % prime = y at hnumber
  have hxlt : x < prime := hx ▸ Nat.mod_lt _ prime_prime.pos
  have hylt : y < prime := hy ▸ Nat.mod_lt _ prime_prime.pos
  have hax : (x : Element) = a.x := hx ▸ cast_mul_inverse h.z_ne_zero h.x_eq
  have hay : (y : Element) = a.y := hy ▸ cast_mul_inverse h.z_ne_zero h.y_eq
  have hlt : y < Nat.pow 2 255 := hylt.trans (by decide)
  have hbit : number p.compress.toList / Nat.pow 2 255 % 2 = x % 2 := by
    rw [hnumber, Nat.add_mul_div_right _ _ (by decide), Nat.div_eq_of_lt hlt, zero_add,
      Nat.mod_mod]
  have hrest : number p.compress.toList % Nat.pow 2 255 % prime = y := by
    rw [hnumber, Nat.add_mul_mod_self_right, Nat.mod_eq_of_lt hlt, Nat.mod_eq_of_lt hylt]
  obtain ⟨root, hroot, hsquare, hread⟩ := exists_decompress hrest (hay ▸ a.onCurve)
  -- The bit that was written chooses the `x` that was written.
  rw [hbit, eq_of_lowest_bit hroot hxlt (by rw [hsquare, hax])] at hread
  refine ⟨_, hread, hxlt, ?_, ?_, ?_, ?_⟩ <;>
    simp [hax, hay]

end Point

/-! ## Keys -/

theorem expand_lt (seed : Octets 32) : (expand seed).1 < 2 ^ 255 := by
  have hlt := Nat.mod_lt (number ((Sha512.hash seed.toList).toList.take 32))
    (by decide : 0 < Nat.pow 2 254)
  have hsize : 2 ^ 255 = 2 * Nat.pow 2 254 := by decide
  rw [expand]
  omega

/-- A public key is a multiple of the base point. -/
theorem exists_decompress_publicKey (seed : Octets 32) :
    ∃ q, Point.decompress (publicKey seed) = some q ∧
      q.Is ((expand seed).1 • Affine.base) :=
  (Point.Is.base.multiply (expand_lt seed)).exists_decompress_compress

/-- Every public key is a point. -/
theorem isSome_decompress_publicKey (seed : Octets 32) :
    (Point.decompress (publicKey seed)).isSome := by
  obtain ⟨q, hq, -⟩ := exists_decompress_publicKey seed
  rw [hq, Option.isSome_some]

end ClusterProbe.Ed25519
