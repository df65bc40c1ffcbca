import ActionGraph.Number

/-!
# Integers in double precision

In double precision an integer is held as the nearest integer of at most 53
significant bits, a tie going to the even one.  The order of two numbers is
that of what they are held as, so that it is told exactly for integers that
are not held as the same one, and never the wrong way round.
-/

namespace ActionGraph.Binary64

/-! ## What an integer is held as -/

/-- An integer of at most 53 significant bits. -/
def Precise (z : Int) : Prop :=
  ∃ significand exponent : Nat,
    significand < Nat.pow 2 53 ∧ z.natAbs = significand * Nat.pow 2 exponent

/-- No integer of at most 53 significant bits is nearer. -/
structure IsNearest (z r : Int) : Prop where
  precise : Precise r
  closest : ∀ other, Precise other → (z - r).natAbs ≤ (z - other).natAbs

/-- How far apart the integers of 53 significant bits are at a natural number. -/
def gap (n : Nat) : Nat :=
  Nat.pow 2 (Nat.log2 n - 52)

/-- The multiple of the gap that is nearest to a natural number, of two the even one. -/
def heldNat (n : Nat) : Nat :=
  divRounding n (gap n) * gap n

def signed (f : Nat → Nat) : Int → Int
  | .ofNat n => f n
  | .negSucc n => -(f (n + 1) : Int)

/-- The integer of double precision that stands for an integer. -/
def held (z : Int) : Int :=
  signed heldNat z

/-! ## Powers of two -/

theorem pow_pos (k : Nat) : 0 < Nat.pow 2 k :=
  Nat.two_pow_pos k

theorem pow_add (j k : Nat) : Nat.pow 2 (j + k) = Nat.pow 2 j * Nat.pow 2 k :=
  Nat.pow_add 2 j k

theorem pow_log2_le {n : Nat} (pos : 0 < n) : Nat.pow 2 (Nat.log2 n) ≤ n :=
  Nat.log2_self_le (Nat.ne_of_gt pos)

theorem lt_pow_log2 (n : Nat) : n < Nat.pow 2 (Nat.log2 n) * 2 :=
  Nat.lt_log2_self

/-! ## Quotients to the nearest integer -/

theorem divRounding_eq_or (n d : Nat) :
    divRounding n d = n / d ∨ divRounding n d = n / d + 1 := by
  simp only [divRounding]
  split
  · exact .inr rfl
  · exact .inl rfl

/-- A rounded quotient is off by half of the divisor at most. -/
theorem divRounding_near {d : Nat} (pos : 0 < d) (n : Nat) :
    2 * (divRounding n d * d) ≤ 2 * n + d ∧ 2 * n ≤ 2 * (divRounding n d * d) + d := by
  have parts : d * (n / d) + n % d = n := Nat.div_add_mod n d
  have below : n % d < d := Nat.mod_lt n pos
  rw [Nat.mul_comm] at parts
  simp only [divRounding]
  split
  · rw [Nat.add_mul]
    omega
  · omega

/-- No other multiple of the divisor is nearer. -/
theorem divRounding_closest {d : Nat} (pos : 0 < d) (n k : Nat) :
    ((n : Int) - (divRounding n d * d : Nat)).natAbs ≤ ((n : Int) - (k * d : Nat)).natAbs := by
  obtain ⟨upper, lower⟩ := divRounding_near pos n
  rcases Nat.lt_trichotomy k (divRounding n d) with below | same | above
  · have apart : (k + 1) * d ≤ divRounding n d * d := Nat.mul_le_mul_right d below
    rw [Nat.add_mul] at apart
    omega
  · exact Nat.le_of_eq (by rw [same])
  · have apart : (divRounding n d + 1) * d ≤ k * d := Nat.mul_le_mul_right d above
    rw [Nat.add_mul] at apart
    omega

theorem shiftRounding_eq_divRounding (n shift : Nat) :
    shiftRounding n shift = divRounding n (Nat.pow 2 shift) := by
  simp only [shiftRounding, divRounding, Nat.shiftRight_eq_div_pow]
  rfl

/-! ## The nearest integer of double precision -/

theorem gap_pos (n : Nat) : 0 < gap n :=
  pow_pos _

theorem gap_of_le {n : Nat} (small : Nat.log2 n ≤ 52) : gap n = 1 := by
  rw [gap, Nat.sub_eq_zero_of_le small]

theorem heldNat_of_le {n : Nat} (small : Nat.log2 n ≤ 52) : heldNat n = n := by
  have near := divRounding_near (gap_pos n) n
  rw [gap_of_le small] at near
  rw [heldNat, gap_of_le small]
  omega

theorem pow_log2_eq {n : Nat} (large : 52 < Nat.log2 n) :
    Nat.pow 2 (Nat.log2 n) = Nat.pow 2 52 * gap n := by
  rw [gap, ← pow_add, Nat.add_sub_cancel' (Nat.le_of_lt large)]

/-- The quotient by the gap has 53 bits, and may round up to the next power of two. -/
theorem divRounding_gap_bounds {n : Nat} (large : 52 < Nat.log2 n) :
    Nat.pow 2 52 ≤ divRounding n (gap n) ∧ divRounding n (gap n) ≤ Nat.pow 2 53 := by
  have pos : 0 < n := Nat.pos_of_ne_zero (by rintro rfl; exact absurd large (by decide))
  have low : Nat.pow 2 52 ≤ n / gap n :=
    (Nat.le_div_iff_mul_le (gap_pos n)).mpr (pow_log2_eq large ▸ pow_log2_le pos)
  have high : n / gap n < Nat.pow 2 53 := by
    refine (Nat.div_lt_iff_lt_mul (gap_pos n)).mpr (Nat.lt_of_lt_of_le (lt_pow_log2 n) ?_)
    exact Nat.le_of_eq (by rw [pow_log2_eq large, Nat.mul_right_comm])
  rcases divRounding_eq_or n (gap n) with down | up
  · rw [down]
    exact ⟨low, Nat.le_of_lt high⟩
  · rw [up]
    exact ⟨Nat.le_succ_of_le low, high⟩

theorem precise_heldNat (n : Nat) : Precise (heldNat n) := by
  by_cases small : Nat.log2 n ≤ 52
  · refine ⟨n, 0, ?_, ?_⟩
    · refine Nat.lt_of_lt_of_le (lt_pow_log2 n) ?_
      exact Nat.pow_le_pow_right (by decide : 0 < 2) (Nat.succ_le_succ small)
    · rw [heldNat_of_le small]
      exact (Nat.mul_one n).symm
  · obtain ⟨-, high⟩ := divRounding_gap_bounds (Nat.lt_of_not_le small)
    rcases Nat.lt_or_eq_of_le high with fits | full
    · exact ⟨divRounding n (gap n), Nat.log2 n - 52, fits, rfl⟩
    · refine ⟨1, 53 + (Nat.log2 n - 52), by decide, ?_⟩
      rw [heldNat, full, pow_add, Nat.one_mul]
      rfl

/-- From the leading bit of a number on, 53 significant bits make a multiple of its gap. -/
theorem gap_dvd_of_precise {n : Nat} (large : 52 < Nat.log2 n) {m : Int} (precise : Precise m)
    (above : Nat.pow 2 (Nat.log2 n) ≤ m.natAbs) : ∃ k, m.natAbs = k * gap n := by
  obtain ⟨significand, exponent, fits, parts⟩ := precise
  rcases Nat.lt_or_ge exponent (Nat.log2 n - 52) with low | high
  · exfalso
    have wide : Nat.pow 2 53 * Nat.pow 2 exponent ≤ Nat.pow 2 (Nat.log2 n) := by
      rw [← pow_add]
      exact Nat.pow_le_pow_right (by decide) (by omega)
    have narrow : significand * Nat.pow 2 exponent < Nat.pow 2 53 * Nat.pow 2 exponent :=
      Nat.mul_lt_mul_of_pos_right fits (pow_pos exponent)
    omega
  · refine ⟨significand * Nat.pow 2 (exponent - (Nat.log2 n - 52)), ?_⟩
    rw [parts, gap, Nat.mul_assoc, ← pow_add, Nat.sub_add_cancel high]

/-- A number of fewer bits is no nearer than the power of two of the leading bit. -/
theorem heldNat_closest (n : Nat) {m : Int} (precise : Precise m) :
    ((n : Int) - heldNat n).natAbs ≤ ((n : Int) - m.natAbs).natAbs := by
  have multiple := divRounding_closest (gap_pos n) n
  by_cases small : Nat.log2 n ≤ 52
  · rw [heldNat_of_le small]
    omega
  · have large := Nat.lt_of_not_le small
    rcases Nat.lt_or_ge m.natAbs (Nat.pow 2 (Nat.log2 n)) with below | above
    · have pos : 0 < n := Nat.pos_of_ne_zero (by rintro rfl; exact absurd large (by decide))
      have leading := multiple (Nat.pow 2 52)
      rw [← pow_log2_eq large] at leading
      have reached := pow_log2_le pos
      rw [heldNat]
      omega
    · obtain ⟨k, same⟩ := gap_dvd_of_precise large precise above
      rw [same]
      exact multiple k

theorem signed_eq (f : Nat → Nat) (z : Int) :
    signed f z = if 0 ≤ z then (f z.natAbs : Int) else -(f z.natAbs : Int) := by
  cases z with
  | ofNat n => rfl
  | negSucc n => rfl

theorem natAbs_signed (f : Nat → Nat) (z : Int) : (signed f z).natAbs = f z.natAbs := by
  rw [signed_eq]
  split
  · exact Int.natAbs_natCast _
  · rw [Int.natAbs_neg, Int.natAbs_natCast]

theorem isNearest_held (z : Int) : IsNearest z (held z) where
  precise := by
    obtain ⟨significand, exponent, fits, parts⟩ := precise_heldNat z.natAbs
    exact ⟨significand, exponent, fits, (natAbs_signed heldNat z).trans parts⟩
  closest other precise := by
    have near := heldNat_closest z.natAbs precise
    rw [held, signed_eq]
    split
    · omega
    · omega

/-! ## Order -/

def significand (n : Nat) : Nat :=
  if Nat.log2 n ≤ 52 then n <<< (52 - Nat.log2 n) else shiftRounding n (Nat.log2 n - 52)

theorem significand_of_le {n : Nat} (small : Nat.log2 n ≤ 52) :
    significand n = n * Nat.pow 2 (52 - Nat.log2 n) := by
  rw [significand, if_pos small, Nat.shiftLeft_eq]
  rfl

theorem significand_of_lt {n : Nat} (large : 52 < Nat.log2 n) :
    significand n = divRounding n (gap n) := by
  rw [significand, if_neg (Nat.not_le_of_lt large), shiftRounding_eq_divRounding, gap]

theorem significand_bounds {n : Nat} (pos : 0 < n) :
    Nat.pow 2 52 ≤ significand n ∧ significand n ≤ Nat.pow 2 53 := by
  by_cases small : Nat.log2 n ≤ 52
  · have whole : Nat.pow 2 (Nat.log2 n) * Nat.pow 2 (52 - Nat.log2 n) = Nat.pow 2 52 := by
      rw [← pow_add, Nat.add_sub_cancel' small]
    have low := Nat.mul_le_mul_right (Nat.pow 2 (52 - Nat.log2 n)) (pow_log2_le pos)
    have high := Nat.mul_le_mul_right (Nat.pow 2 (52 - Nat.log2 n)) (Nat.le_of_lt (lt_pow_log2 n))
    rw [Nat.mul_right_comm, whole] at high
    rw [whole] at low
    rw [significand_of_le small]
    exact ⟨low, high⟩
  · have large := Nat.lt_of_not_le small
    rw [significand_of_lt large]
    exact divRounding_gap_bounds large

/-- What a number is held as is its significand, moved to the place of its leading bit. -/
theorem heldNat_scaled (n : Nat) :
    heldNat n * Nat.pow 2 52 = significand n * Nat.pow 2 (Nat.log2 n) := by
  by_cases small : Nat.log2 n ≤ 52
  · rw [heldNat_of_le small, significand_of_le small, Nat.mul_assoc, ← pow_add,
      Nat.sub_add_cancel small]
  · have large := Nat.lt_of_not_le small
    rw [heldNat, significand_of_lt large, Nat.mul_assoc, pow_log2_eq large,
      Nat.mul_comm (gap n)]

/-- Numbers with a leading bit below 64 are finite. -/
theorem magnitudeOfNat_eq {n : Nat} (pos : 0 < n) (range : Nat.log2 n < 64) :
    magnitudeOfNat n = (Nat.log2 n + 1022) * Nat.pow 2 52 + significand n := by
  have finite : (Nat.log2 n + 1022) * Nat.pow 2 52 + significand n ≤ infinite := by
    have bound : (63 + 1022) * Nat.pow 2 52 + Nat.pow 2 53 ≤ infinite := by decide
    refine Nat.le_trans (Nat.add_le_add ?_ (significand_bounds pos).2) bound
    exact Nat.mul_le_mul_right _ (Nat.add_le_add_right (Nat.le_of_lt_succ range) 1022)
  rw [magnitudeOfNat, if_neg (Nat.ne_of_gt pos)]
  exact Nat.min_eq_right finite

theorem mul_pow_add_succ (n k d : Nat) :
    n * Nat.pow 2 (k + d + 1) = 2 * (n * Nat.pow 2 d) * Nat.pow 2 k := by
  rw [Nat.mul_assoc 2, Nat.mul_assoc n, ← pow_add, Nat.add_comm d, Nat.mul_left_comm 2,
    Nat.mul_comm 2]
  rfl

/--
Places and significands are compared as the numbers that they make: one place
counts as much as all of the significand, which may be rounded up to twice its
least value.
-/
theorem placed_lt_iff {s t j k unit : Nat} (pos : 0 < unit) (lowS : unit ≤ s)
    (highS : s ≤ 2 * unit) (lowT : unit ≤ t) (highT : t ≤ 2 * unit) :
    j * unit + s < k * unit + t ↔ s * Nat.pow 2 j < t * Nat.pow 2 k := by
  have places (k d : Nat) : (k + d + 1) * unit = k * unit + (d * unit + unit) := by
    rw [Nat.add_mul, Nat.add_mul, Nat.one_mul, Nat.add_assoc]
  rcases Nat.lt_trichotomy j k with below | rfl | above
  · obtain ⟨d, rfl⟩ := Nat.exists_eq_add_of_lt below
    rw [places, mul_pow_add_succ, Nat.mul_lt_mul_right (pow_pos j)]
    cases d with
    | zero =>
        have same : t * Nat.pow 2 0 = t := Nat.mul_one t
        omega
    | succ d =>
        have wide : 2 * t ≤ t * Nat.pow 2 (d + 1) := by
          rw [Nat.mul_comm]
          exact Nat.mul_le_mul_left t (Nat.le_mul_of_pos_left 2 (pow_pos d))
        have more : unit ≤ (d + 1) * unit := Nat.le_mul_of_pos_left unit d.succ_pos
        omega
  · rw [Nat.mul_lt_mul_right (pow_pos j)]
    omega
  · obtain ⟨d, rfl⟩ := Nat.exists_eq_add_of_lt above
    have wide : s ≤ s * Nat.pow 2 d := Nat.le_mul_of_pos_right s (pow_pos d)
    rw [places, mul_pow_add_succ, Nat.mul_lt_mul_right (pow_pos k)]
    omega

/-- Numbers are in the order of what they are held as. -/
theorem magnitudeOfNat_lt_iff {m n : Nat} (rangeM : Nat.log2 m < 64) (rangeN : Nat.log2 n < 64) :
    magnitudeOfNat m < magnitudeOfNat n ↔ heldNat m < heldNat n := by
  have scaled : heldNat m < heldNat n ↔ heldNat m * Nat.pow 2 52 < heldNat n * Nat.pow 2 52 :=
    (Nat.mul_lt_mul_right (pow_pos 52)).symm
  rw [scaled]
  rcases Nat.eq_zero_or_pos n with rfl | posN
  · exact iff_of_false (Nat.not_lt_zero _) (Nat.not_lt_zero _)
  · obtain ⟨lowN, highN⟩ := significand_bounds posN
    rw [magnitudeOfNat_eq posN rangeN, heldNat_scaled n]
    rcases Nat.eq_zero_or_pos m with rfl | posM
    · refine iff_of_true ?_ ?_
      · exact Nat.lt_of_lt_of_le (pow_pos 52) (Nat.le_trans lowN (Nat.le_add_left _ _))
      · exact Nat.mul_pos (Nat.lt_of_lt_of_le (pow_pos 52) lowN) (pow_pos _)
    · obtain ⟨lowM, highM⟩ := significand_bounds posM
      rw [magnitudeOfNat_eq posM rangeM, heldNat_scaled m,
        ← placed_lt_iff (pow_pos 52) lowM highM lowN highN, Nat.add_mul, Nat.add_mul]
      omega

/-- Operations that put natural numbers up to a bound in the same order do so with integers. -/
theorem signed_lt_iff {f g : Nat → Nat} {a b : Int} (zeroF : f 0 = 0) (zeroG : g 0 = 0)
    (agree : ∀ m n, m ≤ max a.natAbs b.natAbs → n ≤ max a.natAbs b.natAbs →
      (f m < f n ↔ g m < g n)) : signed f a < signed f b ↔ signed g a < signed g b := by
  have up := agree a.natAbs b.natAbs (Nat.le_max_left _ _) (Nat.le_max_right _ _)
  have down := agree b.natAbs a.natAbs (Nat.le_max_right _ _) (Nat.le_max_left _ _)
  have posA := agree 0 a.natAbs (Nat.zero_le _) (Nat.le_max_left _ _)
  have posB := agree 0 b.natAbs (Nat.zero_le _) (Nat.le_max_right _ _)
  rw [zeroF, zeroG] at posA posB
  rw [signed_eq, signed_eq, signed_eq, signed_eq]
  split
  · split
    · omega
    · omega
  · split
    · omega
    · omega

/-! ## Patterns -/

theorem magnitudeOfNat_le (n : Nat) : magnitudeOfNat n ≤ infinite := by
  unfold magnitudeOfNat
  split
  · exact Nat.zero_le _
  · exact Nat.min_le_left _ _

theorem toNat_bits_ofMagnitude (negative : Bool) {m : Nat} (bound : m ≤ infinite) :
    (ofMagnitude negative m).bits.toNat = if negative then m + Nat.pow 2 63 else m := by
  have room : infinite < Nat.pow 2 63 := by decide
  have width : Nat.pow 2 63 + Nat.pow 2 63 = 2 ^ 64 := by decide
  rw [ofMagnitude, UInt64.toNat_ofNat']
  refine Nat.mod_eq_of_lt ?_
  split
  · omega
  · omega

theorem magnitude_ofMagnitude (negative : Bool) {m : Nat} (bound : m ≤ infinite) :
    (ofMagnitude negative m).magnitude = m := by
  have room : m < Nat.pow 2 63 := Nat.lt_of_le_of_lt bound (by decide)
  rw [magnitude, toNat_bits_ofMagnitude negative bound]
  split
  · rw [Nat.add_mod_right, Nat.mod_eq_of_lt room]
  · exact Nat.mod_eq_of_lt room

theorem negative_ofMagnitude (negative : Bool) {m : Nat} (bound : m ≤ infinite) :
    (ofMagnitude negative m).negative = negative := by
  have room : m < Nat.pow 2 63 := Nat.lt_of_le_of_lt bound (by decide)
  rw [Binary64.negative, toNat_bits_ofMagnitude negative bound]
  cases negative with
  | true => exact decide_eq_true (Nat.le_add_left _ _)
  | false => exact decide_eq_false (Nat.not_le_of_lt room)

theorem key_ofInt (z : Int) : (ofInt z).key = signed magnitudeOfNat z := by
  cases z with
  | ofNat n =>
      have bound := magnitudeOfNat_le n
      rw [ofInt, ofNat, key, negative_ofMagnitude false bound, magnitude_ofMagnitude false bound,
        if_neg Bool.false_ne_true, signed]
  | negSucc n =>
      have bound := magnitudeOfNat_le (n + 1)
      rw [ofInt, key, negative_ofMagnitude true bound, magnitude_ofMagnitude true bound,
        if_pos rfl, signed]

theorem isNaN_ofInt (z : Int) : (ofInt z).isNaN = false := by
  refine decide_eq_false (Nat.not_lt_of_le ?_)
  cases z with
  | ofNat n =>
      rw [ofInt, ofNat, magnitude_ofMagnitude false (magnitudeOfNat_le n)]
      exact magnitudeOfNat_le n
  | negSucc n =>
      rw [ofInt, magnitude_ofMagnitude true (magnitudeOfNat_le (n + 1))]
      exact magnitudeOfNat_le (n + 1)

/-! ## Comparisons -/

section Comparisons

variable {a b : Int} (rangeA : a.natAbs < Nat.pow 2 64) (rangeB : b.natAbs < Nat.pow 2 64)

include rangeA rangeB

theorem key_ofInt_lt_iff : (ofInt a).key < (ofInt b).key ↔ held a < held b := by
  rw [key_ofInt, key_ofInt, held, held]
  have range {n : Nat} (bound : n ≤ max a.natAbs b.natAbs) : Nat.log2 n < 64 := by
    rcases Nat.eq_zero_or_pos n with rfl | pos
    · decide
    · refine (Nat.log2_lt (Nat.ne_of_gt pos)).mpr ?_
      exact Nat.lt_of_le_of_lt bound (Nat.max_lt.mpr ⟨rangeA, rangeB⟩)
  exact signed_lt_iff rfl rfl fun m n boundM boundN =>
    magnitudeOfNat_lt_iff (range boundM) (range boundN)

theorem lt_ofInt : (ofInt a).lt (ofInt b) = decide (held a < held b) := by
  simp only [lt, isNaN_ofInt, key_ofInt_lt_iff rangeA rangeB, Bool.not_false, Bool.true_and]

theorem le_ofInt : (ofInt a).le (ofInt b) = decide (held a ≤ held b) := by
  have order := key_ofInt_lt_iff rangeB rangeA
  simp only [le, isNaN_ofInt, Bool.not_false, Bool.true_and, decide_eq_decide]
  omega

theorem eqv_ofInt : (ofInt a).eqv (ofInt b) = decide (held a = held b) := by
  have up := key_ofInt_lt_iff rangeA rangeB
  have down := key_ofInt_lt_iff rangeB rangeA
  simp only [eqv, isNaN_ofInt, Bool.not_false, Bool.true_and, decide_eq_decide]
  omega

end Comparisons

end ActionGraph.Binary64
