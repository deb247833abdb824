import Mathlib.Algebra.Order.Field.Power
import Mathlib.Tactic.Linarith
import Mathlib.Tactic.NormNum
import Mathlib.Tactic.Positivity
import ValuePipeline.Number.Arithmetic

/-!
# Rounding of exact numbers

A number of the format nearest to an exact one is found in two steps: the place of its last
digit, which the size of the exact number alone decides, and the natural nearest to the
exact number counted in units of that place.  Either is unique, so rounding depends on the
exact number only, and a number of the format is its own rounding.
-/

namespace ValuePipeline.BinaryFloat

/-! ## The nearest natural -/

/-- The natural nearest to a number, and of two the even one. -/
structure Nearest (x : ℚ) (n : ℕ) : Prop where
  close : |n - x| ≤ 1 / 2
  even_of_tie : |n - x| = 1 / 2 → n % 2 = 0

section Nearest

variable {x : ℚ} {n k : ℕ}

theorem Nearest.of_lt (hclose : |n - x| < 1 / 2) : Nearest x n :=
  ⟨hclose.le, fun htie => absurd htie hclose.ne⟩

theorem nearest_natCast (n : ℕ) : Nearest n n :=
  .of_lt (by norm_num)

theorem Nearest.le_of_le (hn : Nearest x n) (hk : (k : ℚ) ≤ x) : k ≤ n := by
  by_contra hlt
  have hsucc : (n : ℚ) + 1 ≤ k := by exact_mod_cast Nat.not_le.mp hlt
  have := (abs_le.mp hn.close).1
  linarith

theorem Nearest.ge_of_ge (hn : Nearest x n) (hk : x ≤ k) : n ≤ k := by
  by_contra hlt
  have hsucc : (k : ℚ) + 1 ≤ n := by exact_mod_cast Nat.not_le.mp hlt
  have := (abs_le.mp hn.close).2
  linarith

theorem Nearest.not_lt (hn : Nearest x n) (hk : Nearest x k) : ¬ n < k := by
  intro hless
  have hsucc : (n : ℚ) + 1 ≤ k := by exact_mod_cast hless
  have hbelow := (abs_le.mp hn.close).1
  have habove := (abs_le.mp hk.close).2
  -- Both can only be half a unit away, on either side, and neighbours are not both even.
  have hx : x = n + 1 / 2 := by linarith
  have hnext : k = n + 1 := by exact_mod_cast (by linarith : (k : ℚ) = n + 1)
  have hnEven := hn.even_of_tie (by rw [hx]; norm_num)
  have hkEven := hk.even_of_tie (by rw [hx, hnext]; norm_num)
  omega

theorem Nearest.unique (hn : Nearest x n) (hk : Nearest x k) : n = k :=
  Nat.le_antisymm (Nat.not_lt.mp (hk.not_lt hn)) (Nat.not_lt.mp (hn.not_lt hk))

theorem divRoundEven_mul (num : ℕ) {den : ℕ} (hden : den ≠ 0) :
    divRoundEven num den * den + min (num % den) (den - num % den) = num ∨
      divRoundEven num den * den = num + min (num % den) (den - num % den) := by
  have hsplit := Nat.div_add_mod' num den
  have hrest := Nat.mod_lt num (Nat.pos_of_ne_zero hden)
  rw [divRoundEven]
  split
  case isTrue hup =>
    rw [min_eq_right (by omega), Nat.add_one_mul]
    omega
  case isFalse hdown =>
    rw [min_eq_left (by omega)]
    exact .inl hsplit

theorem divRoundEven_even {num den : ℕ} (htie : 2 * (num % den) = den) :
    divRoundEven num den % 2 = 0 := by
  rw [divRoundEven]
  split <;> omega

theorem abs_sub_div_eq {num den off : ℕ} (hden : den ≠ 0)
    (hoff : n * den + off = num ∨ n * den = num + off) : |(n : ℚ) - num / den| = off / den := by
  have hpos : (0 : ℚ) < den := by exact_mod_cast Nat.pos_of_ne_zero hden
  rw [eq_div_iff hpos.ne', ← abs_of_pos hpos, ← abs_mul, abs_of_pos hpos, sub_mul,
    div_mul_cancel₀ _ hpos.ne', ← Nat.cast_mul]
  rcases hoff with hdown | hup
  · rw [← hdown, Nat.cast_add, sub_add_cancel_left, abs_neg, Nat.abs_cast]
  · rw [hup, Nat.cast_add, add_sub_cancel_left, Nat.abs_cast]

theorem nearest_divRoundEven (num : ℕ) {den : ℕ} (hden : den ≠ 0) :
    Nearest (num / den) (divRoundEven num den) := by
  have hpos : (0 : ℚ) < den := by exact_mod_cast Nat.pos_of_ne_zero hden
  have hoff := abs_sub_div_eq hden (divRoundEven_mul num hden)
  constructor
  · rw [hoff, div_le_div_iff₀ hpos two_pos, one_mul]
    exact_mod_cast (by omega : min (num % den) (den - num % den) * 2 ≤ den)
  · intro htie
    rw [hoff, div_eq_div_iff hpos.ne' two_ne_zero, one_mul] at htie
    have : min (num % den) (den - num % den) * 2 = den := by exact_mod_cast htie
    exact divRoundEven_even (by omega)

end Nearest

/-! ## The place of the last digit -/

theorem two_pow_mul (n : ℕ) (power : ℤ) : (2 : ℚ) ^ n * 2 ^ power = 2 ^ (n + power) := by
  rw [zpow_add₀ two_ne_zero, zpow_natCast]

theorem shifted_ne_zero {den : ℕ} (hden : den ≠ 0) (num : ℕ) (power : ℤ) :
    (shifted num den power).2 ≠ 0 := by
  rw [shifted]
  split
  · rw [Nat.shiftLeft_eq]
    exact Nat.mul_ne_zero hden (Nat.two_pow_pos _).ne'
  · exact hden

theorem shifted_eq (num den : ℕ) (power : ℤ) :
    ((shifted num den power).1 : ℚ) / (shifted num den power).2 = num / den * 2 ^ power := by
  rw [shifted]
  split
  case isTrue hneg =>
    obtain ⟨n, rfl⟩ : ∃ n : ℕ, power = -n := ⟨power.natAbs, by omega⟩
    rw [Nat.shiftLeft_eq, neg_neg, Int.toNat_natCast, zpow_neg, zpow_natCast, ← div_eq_mul_inv,
      div_div]
    norm_cast
  case isFalse hnonneg =>
    obtain ⟨n, rfl⟩ : ∃ n : ℕ, power = n := ⟨power.natAbs, by omega⟩
    rw [Nat.shiftLeft_eq, Int.toNat_natCast, zpow_natCast, div_mul_eq_mul_div]
    norm_cast

variable {format : BinaryFormat} {x : ℚ} {place other : ℤ}

/-- Numbers of this size have their last digit at this power of two. -/
structure LastPlace (format : BinaryFormat) (x : ℚ) (place : ℤ) : Prop where
  min_le : format.minExponent ≤ place
  lt : x < 2 ^ format.precision * 2 ^ place
  le : 2 ^ (format.precision - 1) * 2 ^ place ≤ x ∨ place = format.minExponent

theorem LastPlace.le_place (hprecision : 0 < format.precision) (hplace : LastPlace format x place)
    (hother : LastPlace format x other) : other ≤ place := by
  by_contra hless
  have hmin := hplace.min_le
  have hle := hother.le.resolve_right (by omega)
  have hlt := hplace.lt
  rw [two_pow_mul] at hle hlt
  have := (zpow_lt_zpow_iff_right₀ one_lt_two).mp (hle.trans_lt hlt)
  omega

theorem LastPlace.unique (hprecision : 0 < format.precision) (hplace : LastPlace format x place)
    (hother : LastPlace format x other) : place = other :=
  le_antisymm (hother.le_place hprecision hplace) (hplace.le_place hprecision hother)

theorem lastPlace_max (hle : 2 ^ (format.precision - 1) * 2 ^ place ≤ x)
    (hlt : x < 2 ^ format.precision * 2 ^ place) :
    LastPlace format x (max format.minExponent place) := by
  rcases le_total format.minExponent place with hmin | hmin
  · rw [max_eq_right hmin]
    exact ⟨hmin, hlt, .inl hle⟩
  · rw [max_eq_left hmin]
    refine ⟨le_rfl, hlt.trans_le ?_, .inr rfl⟩
    exact mul_le_mul_of_nonneg_left (zpow_le_zpow_right₀ one_le_two hmin) (by positivity)

theorem quotient_bounds {num den : ℕ} (hnum : num ≠ 0) (hden : den ≠ 0) :
    (2 : ℚ) ^ (Nat.log2 num - Nat.log2 den - 1 : ℤ) < num / den ∧
      (num / den : ℚ) < 2 ^ (Nat.log2 num - Nat.log2 den + 1 : ℤ) := by
  have hpos : (0 : ℚ) < den := by exact_mod_cast Nat.pos_of_ne_zero hden
  have hnumLe : (2 : ℚ) ^ Nat.log2 num ≤ num := by exact_mod_cast Nat.log2_self_le hnum
  have hnumLt : (num : ℚ) < 2 ^ (Nat.log2 num + 1) := by exact_mod_cast Nat.lt_log2_self
  have hdenLe : (2 : ℚ) ^ Nat.log2 den ≤ den := by exact_mod_cast Nat.log2_self_le hden
  have hdenLt : (den : ℚ) < 2 ^ (Nat.log2 den + 1) := by exact_mod_cast Nat.lt_log2_self
  constructor
  · have hpower : (2 : ℚ) ^ (Nat.log2 num - Nat.log2 den - 1 : ℤ) =
        2 ^ Nat.log2 num / 2 ^ (Nat.log2 den + 1) := by
      rw [← zpow_natCast, ← zpow_natCast, ← zpow_sub₀ two_ne_zero, Nat.cast_add_one, sub_sub]
    rw [hpower, div_lt_div_iff₀ (by positivity) hpos]
    exact mul_lt_mul' hnumLe hdenLt hpos.le (by positivity)
  · have hpower : (2 : ℚ) ^ (Nat.log2 num - Nat.log2 den + 1 : ℤ) =
        2 ^ (Nat.log2 num + 1) / 2 ^ Nat.log2 den := by
      rw [← zpow_natCast, ← zpow_natCast, ← zpow_sub₀ two_ne_zero, Nat.cast_add_one,
        add_sub_right_comm]
    rw [hpower, div_lt_div_iff₀ hpos (by positivity)]
    exact mul_lt_mul hnumLt hdenLe (by positivity) (by positivity)

theorem shifted_div_lt_iff (num : ℕ) {den : ℕ} (hden : den ≠ 0) (n : ℕ) (power guess : ℤ) :
    (shifted num den (power - guess)).1 / (shifted num den (power - guess)).2 < 2 ^ n ↔
      (num / den * 2 ^ power : ℚ) < 2 ^ n * 2 ^ guess := by
  have hshifted := shifted_eq num den (power - guess)
  have hpos := Nat.pos_of_ne_zero (shifted_ne_zero hden num (power - guess))
  rw [Nat.div_lt_iff_lt_mul hpos, ← div_lt_iff₀ (by positivity), mul_div_assoc,
    ← zpow_sub₀ two_ne_zero, ← hshifted, div_lt_iff₀ (by exact_mod_cast hpos)]
  exact_mod_cast Iff.rfl

theorem lastPlace_unitExponent (hprecision : 0 < format.precision) {num den : ℕ} (hnum : num ≠ 0)
    (hden : den ≠ 0) (power : ℤ) :
    LastPlace format (num / den * 2 ^ power) (unitExponent format num den power) := by
  obtain ⟨guess, hguess⟩ : ∃ guess : ℤ,
      guess = power + Nat.log2 num - Nat.log2 den - format.precision := ⟨_, rfl⟩
  have hpower : (0 : ℚ) < 2 ^ power := by positivity
  obtain ⟨hlow, hhigh⟩ := quotient_bounds hnum hden
  have habove : (2 : ℚ) ^ (format.precision - 1) * 2 ^ guess ≤ num / den * 2 ^ power := by
    rw [two_pow_mul]
    refine le_of_eq_of_le ?_ (mul_le_mul_of_nonneg_right hlow.le hpower.le)
    rw [← zpow_add₀ two_ne_zero]
    congr 1
    omega
  have hbelow : (num / den * 2 ^ power : ℚ) < 2 ^ format.precision * 2 ^ (guess + 1) := by
    rw [two_pow_mul]
    refine lt_of_lt_of_eq (mul_lt_mul_of_pos_right hhigh hpower) ?_
    rw [← zpow_add₀ two_ne_zero]
    congr 1
    omega
  have hfits := shifted_div_lt_iff num hden format.precision power guess
  rw [unitExponent, ← hguess]
  dsimp only
  split
  case isTrue hshort => exact lastPlace_max habove (hfits.mp hshort)
  case isFalse hlong =>
    refine lastPlace_max ?_ hbelow
    have hpast := not_lt.mp (hfits.not.mp hlong)
    refine le_of_eq_of_le ?_ hpast
    rw [two_pow_mul, two_pow_mul]
    congr 1
    omega

/-! ## Rounding -/

/-- A significand of so many units; one that is a bit too long is half as many units of the next. -/
def carried (negative : Bool) (significand : ℕ) (place : ℤ) : BinaryFloat format :=
  if significand = 2 ^ format.precision then
    ofParts negative (2 ^ (format.precision - 1)) (place + 1)
  else ofParts negative significand place

theorem roundQuotient_eq (hprecision : 0 < format.precision) {num den significand : ℕ} {power : ℤ}
    (hden : den ≠ 0) (hx : num / den * 2 ^ power = x) (hnonzero : x ≠ 0)
    (hplace : LastPlace format x place) (hnearest : Nearest (x / 2 ^ place) significand)
    (negative : Bool) :
    roundQuotient negative num den power =
      (carried negative significand place : BinaryFloat format) := by
  have hnum : num ≠ 0 := by
    rintro rfl
    rw [Nat.cast_zero, zero_div, zero_mul] at hx
    exact hnonzero hx.symm
  have hunit : unitExponent format num den power = place :=
    LastPlace.unique hprecision (hx ▸ lastPlace_unitExponent hprecision hnum hden power) hplace
  have hsignificand : divRoundEven (shifted num den (power - place)).1
      (shifted num den (power - place)).2 = significand := by
    refine Nearest.unique (nearest_divRoundEven _ (shifted_ne_zero hden num _)) ?_
    rwa [shifted_eq, zpow_sub₀ two_ne_zero, ← mul_div_assoc, hx]
  rw [roundQuotient, if_neg hnum, hunit]
  dsimp only
  rw [hsignificand, carried]

theorem lastPlace_of_canonical {significand : ℕ}
    (hcanonical : format.Canonical significand place) :
    LastPlace format (significand * 2 ^ place) place := by
  obtain ⟨hshort, hmin, -, hlong⟩ := hcanonical
  have hunit : (0 : ℚ) < 2 ^ place := by positivity
  refine ⟨hmin, mul_lt_mul_of_pos_right (by exact_mod_cast hshort) hunit, ?_⟩
  exact hlong.imp_left fun hlong =>
    mul_le_mul_of_nonneg_right (by exact_mod_cast hlong) hunit.le

theorem roundQuotient_exact (hprecision : 0 < format.precision) {num den significand : ℕ}
    {power : ℤ} (hcanonical : format.Canonical significand place) (hpositive : significand ≠ 0)
    (hden : den ≠ 0) (hx : (num / den * 2 ^ power : ℚ) = significand * 2 ^ place)
    (negative : Bool) :
    roundQuotient negative num den power =
      finite negative significand place hcanonical := by
  have hunit : (2 : ℚ) ^ place ≠ 0 := by positivity
  have hnonzero : (significand * 2 ^ place : ℚ) ≠ 0 :=
    mul_ne_zero (by exact_mod_cast hpositive) hunit
  have hnearest : Nearest (significand * 2 ^ place / 2 ^ place) significand := by
    rw [mul_div_cancel_right₀ _ hunit]
    exact nearest_natCast significand
  rw [roundQuotient_eq hprecision hden hx hnonzero (lastPlace_of_canonical hcanonical) hnearest,
    carried, if_neg hcanonical.1.ne, ofParts, dif_pos hcanonical]

section Carried

variable {significand other : ℕ} {negative : Bool}

theorem carried_eq_finite_iff (hcanonical : format.Canonical other place) :
    carried negative significand place = finite negative other place hcanonical ↔
      significand = other := by
  rw [carried, ofParts, ofParts]
  constructor
  · split
    case isTrue hlong =>
      split
      · intro hsame
        have := (finite.inj hsame).2.2
        omega
      · nofun
    case isFalse =>
      split
      · exact fun hsame => (finite.inj hsame).2.1
      · nofun
  · rintro rfl
    rw [if_neg hcanonical.1.ne, dif_pos hcanonical]

theorem exists_carried_eq (hprecision : 0 < format.precision) (negative : Bool) (significand : ℕ)
    (place : ℤ) :
    ∃ m e, (carried negative significand place : BinaryFloat format) = ofParts negative m e ∧
      place ≤ e ∧ (m * 2 ^ e : ℚ) = significand * 2 ^ place := by
  by_cases hlong : significand = 2 ^ format.precision
  · refine ⟨2 ^ (format.precision - 1), place + 1, if_pos hlong, Int.le_add_one le_rfl, ?_⟩
    rw [hlong, Nat.cast_pow, Nat.cast_pow, Nat.cast_ofNat, two_pow_mul, two_pow_mul]
    congr 1
    omega
  · exact ⟨significand, place, if_neg hlong, le_rfl, rfl⟩

theorem toIntegral_ofParts (hplace : 0 ≤ place) (mode : IntegerRounding) :
    (ofParts negative significand place : BinaryFloat format).toIntegral mode =
      ofParts negative significand place := by
  rw [ofParts]
  split
  · exact if_pos hplace
  · rfl

theorem toIntegral_carried (hprecision : 0 < format.precision) (hplace : 0 ≤ place)
    (mode : IntegerRounding) :
    (carried negative significand place : BinaryFloat format).toIntegral mode =
      carried negative significand place := by
  obtain ⟨m, e, hcarried, hle, -⟩ := exists_carried_eq hprecision negative significand place
  rw [hcarried]
  exact toIntegral_ofParts (hplace.trans hle) mode

theorem toInt?_ofParts (hplace : 0 ≤ place)
    (hfinite : (ofParts negative significand place : BinaryFloat format).isFinite) :
    ∃ n, (ofParts negative significand place : BinaryFloat format).toInt? = some n := by
  rw [ofParts] at hfinite ⊢
  split at hfinite
  case isTrue hcanonical =>
    rw [dif_pos hcanonical, toInt?, shifted, if_neg (not_lt.mpr hplace)]
    exact ⟨_, if_pos (Nat.mod_one _)⟩
  case isFalse => cases hfinite

theorem toInt?_carried (hprecision : 0 < format.precision) (hplace : 0 ≤ place)
    (hfinite : (carried negative significand place : BinaryFloat format).isFinite) :
    ∃ n, (carried negative significand place : BinaryFloat format).toInt? = some n := by
  obtain ⟨m, e, hcarried, hle, -⟩ := exists_carried_eq hprecision negative significand place
  rw [hcarried] at hfinite ⊢
  exact toInt?_ofParts (hplace.trans hle) hfinite

end Carried

/-! ## Products and quotients -/

/-- A finite number of this sign and exactly this size. -/
def Sized (number : BinaryFloat format) (negative : Bool) (size : ℚ) : Prop :=
  ∃ significand place hcanonical, number = finite negative significand place hcanonical ∧
    (significand : ℚ) * 2 ^ place = size

theorem sized_ofParts {negative : Bool} {significand : ℕ}
    (hfinite : (ofParts negative significand place : BinaryFloat format).isFinite) :
    Sized (ofParts negative significand place : BinaryFloat format) negative
      (significand * 2 ^ place) := by
  by_cases hcanonical : format.Canonical significand place
  · exact ⟨significand, place, hcanonical, dif_pos hcanonical, rfl⟩
  · rw [ofParts, dif_neg hcanonical] at hfinite
    cases hfinite

theorem sized_carried (hprecision : 0 < format.precision) {negative : Bool} {significand : ℕ}
    (hfinite : (carried negative significand place : BinaryFloat format).isFinite) :
    Sized (carried negative significand place : BinaryFloat format) negative
      (significand * 2 ^ place) := by
  obtain ⟨m, e, hcarried, -, hsize⟩ := exists_carried_eq hprecision negative significand place
  rw [hcarried] at hfinite ⊢
  rw [← hsize]
  exact sized_ofParts hfinite

variable {a b : BinaryFloat format} {s t : Bool} {y : ℚ} {significand : ℕ}

theorem mul_eq (hprecision : 0 < format.precision) (ha : Sized a s x) (hb : Sized b t y)
    (hnonzero : x * y ≠ 0) (hplace : LastPlace format (x * y) place)
    (hnearest : Nearest (x * y / 2 ^ place) significand) :
    a.mul b = carried (s ^^ t) significand place := by
  obtain ⟨m, e, hm, rfl, rfl⟩ := ha
  obtain ⟨n, f, hn, rfl, rfl⟩ := hb
  refine roundQuotient_eq hprecision one_ne_zero ?_ hnonzero hplace hnearest _
  rw [Nat.cast_one, div_one, Nat.cast_mul, zpow_add₀ two_ne_zero, mul_mul_mul_comm]

theorem div_eq (hprecision : 0 < format.precision) (ha : Sized a s x) (hb : Sized b t y)
    (hnonzero : x / y ≠ 0) (hplace : LastPlace format (x / y) place)
    (hnearest : Nearest (x / y / 2 ^ place) significand) :
    a.div b = carried (s ^^ t) significand place := by
  obtain ⟨m, e, hm, rfl, rfl⟩ := ha
  obtain ⟨n, f, hn, rfl, rfl⟩ := hb
  have hn0 : n ≠ 0 := by
    rintro rfl
    rw [Nat.cast_zero, zero_mul, div_zero] at hnonzero
    exact hnonzero rfl
  rw [div, if_neg hn0]
  refine roundQuotient_eq hprecision hn0 ?_ hnonzero hplace hnearest _
  rw [zpow_sub₀ two_ne_zero, div_mul_div_comm]

theorem Sized.mul_exact (hprecision : 0 < format.precision) (ha : Sized a s x) (hb : Sized b t y)
    (hcanonical : format.Canonical significand place) (hpositive : significand ≠ 0)
    (hsize : x * y = significand * 2 ^ place) : Sized (a.mul b) (s ^^ t) (x * y) := by
  obtain ⟨m, e, hm, rfl, rfl⟩ := ha
  obtain ⟨n, f, hn, rfl, rfl⟩ := hb
  refine ⟨significand, place, hcanonical, ?_, hsize.symm⟩
  refine roundQuotient_exact hprecision hcanonical hpositive one_ne_zero ?_ _
  rw [← hsize, Nat.cast_one, div_one, Nat.cast_mul, zpow_add₀ two_ne_zero, mul_mul_mul_comm]

end ValuePipeline.BinaryFloat
