import Mathlib.Tactic.FieldSimp
import Mathlib.Tactic.Ring
import ValuePipeline.Proofs.Rounding
import ValuePipeline.Steps.Number

/-!
# Scaling up and back

To round to a number of digits after the point, a number is scaled up by a power of ten,
rounded to an integer, and scaled back.  The power of ten is exact, but both scalings round.
A number so large that it has no fractional digits comes back unchanged if the first
rounding is off by less than half of the power of ten, in units of the number's last place.
Otherwise it comes back as its neighbour.
-/

namespace ValuePipeline.BinaryFloat

/-! ## Whole numbers -/

theorem double_precision_pos : 0 < BinaryFormat.double.precision := by decide

theorem canonical_natCast {n : ℕ} (hpositive : n ≠ 0) (hfits : n < 2 ^ 53) :
    BinaryFormat.double.Canonical (n * 2 ^ (52 - Nat.log2 n)) (-(52 - Nat.log2 n : ℕ)) := by
  have hlog : Nat.log2 n < 53 := (Nat.log2_lt hpositive).mpr hfits
  have hsum : Nat.log2 n + (52 - Nat.log2 n) = 52 := by omega
  refine ⟨?_, ?_, ?_, .inl ?_⟩
  · calc n * 2 ^ (52 - Nat.log2 n) < 2 ^ (Nat.log2 n + 1) * 2 ^ (52 - Nat.log2 n) :=
          Nat.mul_lt_mul_of_pos_right Nat.lt_log2_self (Nat.two_pow_pos _)
      _ = 2 ^ 53 := by rw [← Nat.pow_add, Nat.add_right_comm, hsum]
  · change (-1074 : ℤ) ≤ _
    omega
  · change _ ≤ (971 : ℤ)
    omega
  · calc 2 ^ 52 = 2 ^ Nat.log2 n * 2 ^ (52 - Nat.log2 n) := by rw [← Nat.pow_add, hsum]
      _ ≤ n * 2 ^ (52 - Nat.log2 n) := Nat.mul_le_mul_right _ (Nat.log2_self_le hpositive)

theorem natCast_eq (n j : ℕ) : (n : ℚ) = (n * 2 ^ j : ℕ) * 2 ^ (-j : ℤ) := by
  rw [Nat.cast_mul, Nat.cast_pow, Nat.cast_ofNat, zpow_neg, zpow_natCast,
    mul_inv_cancel_right₀ (by positivity)]

variable {k l n : ℕ} {a b product base : BinaryFloat .double} {s t : Bool}

theorem sized_ofNat (hpositive : n ≠ 0) (hfits : n < 2 ^ 53) :
    Sized (ofNat n : BinaryFloat .double) false n := by
  have hcanonical := canonical_natCast hpositive hfits
  refine ⟨_, _, hcanonical, ?_, (natCast_eq n _).symm⟩
  refine roundQuotient_exact double_precision_pos hcanonical ?_ one_ne_zero ?_ false
  · exact Nat.mul_ne_zero hpositive (Nat.two_pow_pos _).ne'
  · rw [← natCast_eq, Nat.cast_one, div_one, zpow_zero, mul_one]

theorem Sized.mul_natCast (ha : Sized a s k) (hb : Sized b t l) (hpositive : k * l ≠ 0)
    (hfits : k * l < 2 ^ 53) : Sized (a.mul b) (s ^^ t) (k * l : ℕ) := by
  rw [Nat.cast_mul]
  refine ha.mul_exact double_precision_pos hb (canonical_natCast hpositive hfits) ?_ ?_
  · exact Nat.mul_ne_zero hpositive (Nat.two_pow_pos _).ne'
  · rw [← natCast_eq, Nat.cast_mul]

theorem sized_mulPower (hproduct : Sized product false k) (hbase : Sized base false l)
    (hk : k ≠ 0) (hl : l ≠ 0) (hfits : k * l ^ n < 2 ^ 53) :
    Sized (mulPower product base n) false (k * l ^ n : ℕ) := by
  induction n using Nat.strong_induction_on generalizing product base k l with
  | _ n ih =>
    have hsplit : k * l ^ n = k * l ^ (n % 2) * (l * l) ^ (n / 2) := by
      rw [Nat.mul_assoc, ← Nat.pow_two, ← Nat.pow_mul, ← Nat.pow_add, Nat.mod_add_div]
    have hk' : k * l ^ (n % 2) ≠ 0 := Nat.mul_ne_zero hk (pow_ne_zero _ hl)
    have hll : l * l ≠ 0 := Nat.mul_ne_zero hl hl
    have hnext : Sized (if n % 2 = 1 then product.mul base else product) false
        (k * l ^ (n % 2) : ℕ) := by
      rcases Nat.mod_two_eq_zero_or_one n with heven | hodd
      · rwa [heven, if_neg zero_ne_one, Nat.pow_zero, Nat.mul_one]
      · have hle : l ≤ l ^ n := Nat.le_self_pow (by omega) l
        rw [hodd, Nat.pow_one] at hk' ⊢
        rw [if_pos rfl]
        exact hproduct.mul_natCast hbase hk' ((Nat.mul_le_mul_left k hle).trans_lt hfits)
    rw [mulPower]
    split
    case isTrue hlast => rwa [hsplit, hlast, Nat.pow_zero, Nat.mul_one]
    case isFalse hmore =>
      rw [hsplit] at hfits ⊢
      have hsquare : l * l < 2 ^ 53 :=
        calc l * l ≤ (l * l) ^ (n / 2) := Nat.le_self_pow hmore _
          _ ≤ k * l ^ (n % 2) * (l * l) ^ (n / 2) :=
            Nat.le_mul_of_pos_left _ (Nat.pos_of_ne_zero hk')
          _ < 2 ^ 53 := hfits
      exact ih (n / 2) (Nat.div_lt_self (by omega) one_lt_two) hnext
        (hbase.mul_natCast hbase hll hsquare) hk' hll hfits

theorem sized_power (hpositive : l ≠ 0) (hfits : l ^ n < 2 ^ 53) (hbase : l < 2 ^ 53) :
    Sized ((ofNat l : BinaryFloat .double).power n) false (l ^ n : ℕ) := by
  rw [power, if_neg (by omega), Int.natAbs_natCast]
  have hone : Sized (one : BinaryFloat .double) false (1 : ℕ) :=
    sized_ofNat one_ne_zero (by decide)
  rw [← Nat.one_mul (l ^ n)] at hfits ⊢
  exact sized_mulPower hone (sized_ofNat hpositive hbase) one_ne_zero hpositive hfits

variable {digits m : ℕ}

theorem sized_scale (hdigits : digits ≤ 15) :
    Sized ((ofNat 10 : BinaryFloat .double).power digits) false (10 ^ digits : ℕ) := by
  refine sized_power (by decide) ?_ (by decide)
  calc 10 ^ digits ≤ 10 ^ 15 := Nat.pow_le_pow_right (by decide) hdigits
    _ < 2 ^ 53 := by decide

/-! ## The two roundings -/

structure Full (m : ℕ) : Prop where
  le : 2 ^ 52 ≤ m
  lt : m < 2 ^ 53

/-- How many binary digits of the scaled number have no place in a significand. -/
def excess (digits m : ℕ) : ℕ := Nat.log2 (m * 10 ^ digits) - 52

def scaledUp (digits m : ℕ) : ℕ := divRoundEven (m * 10 ^ digits) (2 ^ excess digits m)

def scaledBack (digits m : ℕ) : ℕ :=
  divRoundEven (scaledUp digits m * 2 ^ excess digits m) (10 ^ digits)

/-- What the first rounding is off by, in units of the last place of the number. -/
def scalingLoss (digits m : ℕ) : ℕ :=
  min (m * 10 ^ digits % 2 ^ excess digits m)
    (2 ^ excess digits m - m * 10 ^ digits % 2 ^ excess digits m)

theorem excess_bounds (digits : ℕ) (hm : Full m) :
    2 ^ 52 * 2 ^ excess digits m ≤ m * 10 ^ digits ∧
      m * 10 ^ digits < 2 ^ 53 * 2 ^ excess digits m := by
  have hle : 2 ^ 52 ≤ m * 10 ^ digits :=
    hm.le.trans (Nat.le_mul_of_pos_right m (Nat.pow_pos (by decide)))
  have hnonzero : m * 10 ^ digits ≠ 0 := by omega
  have hlog : 52 ≤ Nat.log2 (m * 10 ^ digits) := (Nat.le_log2 hnonzero).mpr hle
  rw [← Nat.pow_add, ← Nat.pow_add, excess, Nat.add_sub_cancel' hlog,
    (by omega : 53 + (Nat.log2 (m * 10 ^ digits) - 52) = Nat.log2 (m * 10 ^ digits) + 1)]
  exact ⟨Nat.log2_self_le hnonzero, Nat.lt_log2_self⟩

theorem unit_lt (digits : ℕ) (hm : Full m) : 2 ^ excess digits m < 2 * 10 ^ digits := by
  have hlow := (excess_bounds digits hm).1
  have hhigh : m * 10 ^ digits < 2 ^ 53 * 10 ^ digits :=
    Nat.mul_lt_mul_of_pos_right hm.lt (Nat.pow_pos (by decide))
  omega

theorem lt_unit (digits : ℕ) (hm : Full m) : 10 ^ digits < 2 * 2 ^ excess digits m := by
  have hhigh := (excess_bounds digits hm).2
  have hlow : 2 ^ 52 * 10 ^ digits ≤ m * 10 ^ digits := Nat.mul_le_mul_right _ hm.le
  omega

theorem le_excess (digits : ℕ) (hm : Full m) : digits ≤ excess digits m := by
  have hle : 2 ^ digits ≤ 10 ^ digits := Nat.pow_le_pow_left (by decide) digits
  have hlt := hle.trans_lt (lt_unit digits hm)
  rw [← Nat.pow_add_one', Nat.pow_lt_pow_iff_right one_lt_two] at hlt
  omega

theorem excess_le (hm : Full m) (hdigits : digits ≤ 15) : excess digits m ≤ 52 := by
  have hle : 10 ^ digits ≤ 10 ^ 15 := Nat.pow_le_pow_right (by decide) hdigits
  have hlt : 2 ^ excess digits m < 2 ^ 52 := (unit_lt digits hm).trans_le (by omega)
  exact ((Nat.pow_lt_pow_iff_right one_lt_two).mp hlt).le

theorem scaledUp_mul (digits m : ℕ) :
    scaledUp digits m * 2 ^ excess digits m + scalingLoss digits m = m * 10 ^ digits ∨
      scaledUp digits m * 2 ^ excess digits m = m * 10 ^ digits + scalingLoss digits m :=
  divRoundEven_mul _ (Nat.two_pow_pos _).ne'

theorem two_mul_scalingLoss_le (digits m : ℕ) : 2 * scalingLoss digits m ≤ 2 ^ excess digits m := by
  rw [scalingLoss]
  omega

theorem scalingLoss_lt (digits : ℕ) (hm : Full m) : scalingLoss digits m < 10 ^ digits := by
  have hloss := two_mul_scalingLoss_le digits m
  have hunit := unit_lt digits hm
  omega

theorem scaledUp_bounds (hm : Full m) (hdigits : digits ≤ 15) :
    2 ^ 52 * 10 ^ digits ≤ scaledUp digits m * 2 ^ excess digits m ∧
      scaledUp digits m * 2 ^ excess digits m < 2 ^ 53 * 10 ^ digits := by
  have hunit : (0 : ℚ) < (2 ^ excess digits m : ℕ) := by positivity
  constructor
  · -- The least full significand, scaled, is a multiple of the unit, so no rounding passes it.
    obtain ⟨k, hk⟩ : 2 ^ excess digits m ∣ 2 ^ 52 * 10 ^ digits :=
      (Nat.pow_dvd_pow 2 (excess_le hm hdigits)).mul_right _
    have hle : k * 2 ^ excess digits m ≤ m * 10 ^ digits := by
      rw [Nat.mul_comm, ← hk]
      exact Nat.mul_le_mul_right _ hm.le
    rw [hk, Nat.mul_comm]
    refine Nat.mul_le_mul_right _ ((nearest_divRoundEven _ (Nat.two_pow_pos _).ne').le_of_le ?_)
    rw [le_div_iff₀ hunit]
    exact_mod_cast hle
  · have hloss := scalingLoss_lt digits hm
    have hproduct : (m + 1) * 10 ^ digits ≤ 2 ^ 53 * 10 ^ digits := Nat.mul_le_mul_right _ hm.lt
    rw [Nat.add_one_mul] at hproduct
    rcases scaledUp_mul digits m with hup | hup <;> omega

theorem not_dvd_odd_mul (digits : ℕ) (hm : Full m) (hodd : k % 2 = 1) :
    ¬ 2 ^ (excess digits m + 1) ∣ k * 10 ^ digits := by
  intro hdvd
  have hten : k * 10 ^ digits = 2 ^ digits * (k * 5 ^ digits) := by
    rw [Nat.mul_left_comm, ← Nat.mul_pow]
  have htwo : 2 ^ (digits + 1) ∣ k * 10 ^ digits :=
    (Nat.pow_dvd_pow 2 (Nat.add_le_add_right (le_excess digits hm) 1)).trans hdvd
  rw [hten, Nat.pow_succ] at htwo
  have heven : 2 ∣ k * 5 ^ digits := Nat.dvd_of_mul_dvd_mul_left (Nat.two_pow_pos _) htwo
  have hleft : k * 5 ^ digits % 2 = 1 := by
    rw [Nat.mul_mod, hodd, Nat.pow_mod, Nat.one_pow]
  omega

theorem two_mul_scalingLoss_ne (digits : ℕ) (hm : Full m) :
    2 * scalingLoss digits m ≠ 10 ^ digits := by
  intro htie
  -- In a tie, twice the rounded product is an odd multiple of the power of ten.
  have hunit : 2 ^ (excess digits m + 1) ∣ 2 * (scaledUp digits m * 2 ^ excess digits m) :=
    ⟨scaledUp digits m, by ring⟩
  rcases scaledUp_mul digits m with hup | hup
  · refine not_dvd_odd_mul digits hm (k := 2 * m - 1) ?_ ?_
    · have := hm.le
      omega
    · rw [Nat.sub_mul, Nat.mul_assoc, Nat.one_mul]
      rwa [(by omega : 2 * (m * 10 ^ digits) - 10 ^ digits =
        2 * (scaledUp digits m * 2 ^ excess digits m))]
  · refine not_dvd_odd_mul digits hm (k := 2 * m + 1) (by omega) ?_
    rw [Nat.add_mul, Nat.mul_assoc, Nat.one_mul]
    rwa [(by omega : 2 * (m * 10 ^ digits) + 10 ^ digits =
      2 * (scaledUp digits m * 2 ^ excess digits m))]

theorem abs_scaledUp_sub (digits m : ℕ) :
    |(m : ℚ) - (scaledUp digits m * 2 ^ excess digits m : ℕ) / (10 ^ digits : ℕ)| =
      scalingLoss digits m / (10 ^ digits : ℕ) :=
  abs_sub_div_eq (Nat.pow_pos (by decide)).ne'
    ((scaledUp_mul digits m).symm.imp Eq.symm Eq.symm)

theorem nearest_scaledBack (digits m : ℕ) :
    Nearest ((scaledUp digits m * 2 ^ excess digits m : ℕ) / (10 ^ digits : ℕ))
      (scaledBack digits m) :=
  nearest_divRoundEven _ (Nat.pow_pos (by decide)).ne'

theorem scaledBack_eq_iff (hm : Full m) :
    scaledBack digits m = m ↔ 2 * scalingLoss digits m < 10 ^ digits := by
  have hten : (0 : ℚ) < (10 ^ digits : ℕ) := by positivity
  have hhalf : (scalingLoss digits m / (10 ^ digits : ℕ) : ℚ) < 1 / 2 ↔
      2 * scalingLoss digits m < 10 ^ digits := by
    rw [div_lt_div_iff₀ hten two_pos, one_mul, mul_comm]
    exact_mod_cast Iff.rfl
  have hnearest := nearest_scaledBack digits m
  rw [← hhalf]
  constructor
  · intro hsame
    rw [hsame] at hnearest
    have hclose := hnearest.close
    rw [abs_scaledUp_sub] at hclose
    refine hclose.lt_of_ne fun htie => two_mul_scalingLoss_ne digits hm ?_
    rw [div_eq_div_iff hten.ne' two_ne_zero, one_mul, mul_comm] at htie
    exact_mod_cast htie
  · intro hclose
    rw [← abs_scaledUp_sub] at hclose
    exact hnearest.unique (.of_lt hclose)

theorem scaledBack_bounds (digits : ℕ) (hm : Full m) :
    m ≤ scaledBack digits m + 1 ∧ scaledBack digits m ≤ m + 1 := by
  have hten : (0 : ℚ) < (10 ^ digits : ℕ) := by positivity
  have hoff : (scalingLoss digits m / (10 ^ digits : ℕ) : ℚ) < 1 := by
    rw [div_lt_one hten]
    exact_mod_cast scalingLoss_lt digits hm
  rw [← abs_scaledUp_sub] at hoff
  obtain ⟨hbelow, habove⟩ := abs_lt.mp hoff
  obtain ⟨hdown, hup⟩ := abs_le.mp (nearest_scaledBack digits m).close
  constructor
  · have : (m : ℚ) < scaledBack digits m + 2 := by linarith
    have : m < scaledBack digits m + 2 := by exact_mod_cast this
    omega
  · have : (scaledBack digits m : ℚ) < m + 2 := by linarith
    have : scaledBack digits m < m + 2 := by exact_mod_cast this
    omega

theorem scaledBack_full (hm : Full m) (hdigits : digits ≤ 15) :
    2 ^ 52 ≤ scaledBack digits m ∧ scaledBack digits m ≤ 2 ^ 53 := by
  obtain ⟨hlow, hhigh⟩ := scaledUp_bounds hm hdigits
  have hten : (0 : ℚ) < (10 ^ digits : ℕ) := by positivity
  constructor
  · refine (nearest_scaledBack digits m).le_of_le ((le_div_iff₀ hten).mpr ?_)
    exact_mod_cast hlow
  · refine (nearest_scaledBack digits m).ge_of_ge ((div_le_iff₀ hten).mpr ?_)
    exact_mod_cast hhigh.le

/-! ## Large numbers -/

/-- A number so large that it can have no digits after the point. -/
def Large : BinaryFloat .double → Prop
  | nan => False
  | infinite _ => True
  | finite _ m e _ => (2 ^ 52 : ℚ) ≤ m * 2 ^ e

/-- Scaled up and back, the number comes out as it was. -/
def ScalesBack (digits : ℕ) : BinaryFloat .double → Prop
  | nan | infinite _ => True
  | finite _ m _ _ => 2 * scalingLoss digits m < 10 ^ digits

instance (digits : ℕ) : DecidablePred (ScalesBack digits)
  | nan | infinite _ => inferInstanceAs (Decidable True)
  | finite _ m _ _ => inferInstanceAs (Decidable (2 * scalingLoss digits m < 10 ^ digits))

variable {e : ℤ} {negative : Bool}

theorem full_of_large (hcanonical : BinaryFormat.double.Canonical m e)
    (hlarge : (2 ^ 52 : ℚ) ≤ m * 2 ^ e) : Full m ∧ 0 ≤ e := by
  obtain ⟨hshort, -, -, hlong⟩ := hcanonical
  have he : 0 ≤ e := by
    by_contra hneg
    have hunit : (2 : ℚ) ^ e ≤ 2 ^ (-1 : ℤ) := zpow_le_zpow_right₀ one_le_two (by omega)
    have hsize : (m * 2 ^ e : ℚ) < 2 ^ 53 * 2 ^ (-1 : ℤ) :=
      mul_lt_mul (by exact_mod_cast hshort) hunit (by positivity) (by positivity)
    have hhalf : (2 : ℚ) ^ 53 * 2 ^ (-1 : ℤ) = 2 ^ 52 := by norm_num
    exact (hlarge.trans_lt (hsize.trans_eq hhalf)).false
  refine ⟨⟨hlong.resolve_right fun hleast => ?_, hshort⟩, he⟩
  rw [hleast] at he
  exact absurd he (by decide)

theorem full_quotient {num den : ℕ} {x : ℚ} {place : ℤ} (hlow : 2 ^ 52 * den ≤ num)
    (hhigh : num < 2 ^ 53 * den) (hplace : 0 ≤ place) (hx : x = num / den * 2 ^ place) :
    x ≠ 0 ∧ LastPlace .double x place ∧ Nearest (x / 2 ^ place) (divRoundEven num den) := by
  have hden : den ≠ 0 := by
    rintro rfl
    omega
  have hpos : (0 : ℚ) < den := by exact_mod_cast Nat.pos_of_ne_zero hden
  have hunit : (0 : ℚ) < 2 ^ place := by positivity
  have hlow' : (2 ^ 52 : ℚ) ≤ num / den := by
    rw [le_div_iff₀ hpos]
    exact_mod_cast hlow
  have hhigh' : (num / den : ℚ) < 2 ^ 53 := by
    rw [div_lt_iff₀ hpos]
    exact_mod_cast hhigh
  rw [hx]
  refine ⟨(mul_pos (lt_of_lt_of_le (by positivity) hlow') hunit).ne', ⟨?_, ?_, .inl ?_⟩, ?_⟩
  · exact le_trans (by decide) hplace
  · exact mul_lt_mul_of_pos_right hhigh' hunit
  · exact mul_le_mul_of_nonneg_right hlow' hunit.le
  · rw [mul_div_cancel_right₀ _ hunit.ne']
    exact nearest_divRoundEven num hden

theorem mul_scale_eq {hcanonical : BinaryFormat.double.Canonical m e} (hm : Full m) (he : 0 ≤ e)
    (hdigits : digits ≤ 15) :
    (finite negative m e hcanonical).mul ((ofNat 10).power digits) =
      carried negative (scaledUp digits m) (e + excess digits m) := by
  obtain ⟨hlow, hhigh⟩ := excess_bounds digits hm
  have hsize : (m * 2 ^ e * (10 ^ digits : ℕ) : ℚ) =
      (m * 10 ^ digits : ℕ) / (2 ^ excess digits m : ℕ) * 2 ^ (e + excess digits m) := by
    rw [zpow_add₀ two_ne_zero, zpow_natCast]
    push_cast
    field_simp
  obtain ⟨hnonzero, hplace, hnearest⟩ := full_quotient hlow hhigh (by omega) hsize
  have hnumber : Sized (finite negative m e hcanonical) negative (m * 2 ^ e) :=
    ⟨m, e, hcanonical, rfl, rfl⟩
  have hproduct := mul_eq double_precision_pos hnumber (sized_scale hdigits) hnonzero hplace
    hnearest
  rwa [Bool.xor_false] at hproduct

theorem div_scale_eq (hm : Full m) (he : 0 ≤ e) (hdigits : digits ≤ 15)
    (hfinite : (carried negative (scaledUp digits m)
      (e + excess digits m) : BinaryFloat .double).isFinite) :
    (carried negative (scaledUp digits m) (e + excess digits m)).div ((ofNat 10).power digits) =
      (carried negative (scaledBack digits m) e : BinaryFloat .double) := by
  obtain ⟨hlow, hhigh⟩ := scaledUp_bounds hm hdigits
  have hsize : (scaledUp digits m * 2 ^ (e + excess digits m) / (10 ^ digits : ℕ) : ℚ) =
      (scaledUp digits m * 2 ^ excess digits m : ℕ) / (10 ^ digits : ℕ) * 2 ^ e := by
    rw [zpow_add₀ two_ne_zero, zpow_natCast]
    push_cast
    field_simp
  obtain ⟨hnonzero, hplace, hnearest⟩ := full_quotient hlow hhigh he hsize
  have hquotient := div_eq double_precision_pos (sized_carried double_precision_pos hfinite)
    (sized_scale hdigits) hnonzero hplace hnearest
  rwa [Bool.xor_false] at hquotient

theorem roundDigits_finite {hcanonical : BinaryFormat.double.Canonical m e} (hm : Full m)
    (he : 0 ≤ e) (hdigits : digits ≤ 15) (mode : IntegerRounding) :
    roundDigits digits mode (finite negative m e hcanonical) =
      if ((finite negative m e hcanonical).mul ((ofNat 10).power digits)).isFinite then
        carried negative (scaledBack digits m) e
      else finite negative m e hcanonical := by
  rw [roundDigits, mul_scale_eq hm he hdigits, toIntegral_carried double_precision_pos (by omega)]
  refine if_ctx_congr Iff.rfl (fun hfinite => ?_) fun _ => rfl
  exact div_scale_eq hm he hdigits hfinite

theorem isFinite_infinite_mul (b : BinaryFloat .double) :
    ((infinite negative).mul b).isFinite = false := by
  cases b with
  | nan => rfl
  | infinite => rfl
  | finite _ n =>
      rw [mul]
      split <;> rfl

theorem toBits_full {n : ℕ} (hle : 2 ^ 52 ≤ n) (hcanonical : BinaryFormat.double.Canonical n e) :
    (finite negative n e hcanonical).toBits =
      negative.toNat * 2 ^ 63 + (e + 1074).toNat * 2 ^ 52 + n := by
  rw [← sub_neg_eq_add]
  exact if_neg (not_lt.mpr hle)

theorem toBits_carried {n : ℕ} (hle : 2 ^ 52 ≤ n) (hge : n ≤ 2 ^ 53) (hmin : 0 ≤ e)
    (hmax : e ≤ 971) :
    (carried negative n e : BinaryFloat .double).toBits =
      negative.toNat * 2 ^ 63 + (e + 1074).toNat * 2 ^ 52 + n := by
  have hleast : BinaryFormat.double.minExponent ≤ e := le_trans (by decide) hmin
  rw [carried, ofParts, ofParts]
  split
  case isFalse hshort =>
    have hcanonical : BinaryFormat.double.Canonical n e :=
      ⟨lt_of_le_of_ne hge hshort, hleast, hmax, .inl hle⟩
    rw [dif_pos hcanonical, toBits_full hle]
  case isTrue hlong =>
    rcases hmax.lt_or_eq with hless | rfl
    · have hcanonical : BinaryFormat.double.Canonical (2 ^ 52) (e + 1) :=
        ⟨by decide, by omega, hless, .inl le_rfl⟩
      refine (congrArg toBits (dif_pos hcanonical)).trans ((toBits_full le_rfl hcanonical).trans ?_)
      change n = 2 ^ 53 at hlong
      omega
    · rw [dif_neg (by decide), hlong]
      cases negative <;> rfl

/--
A large number keeps its value under rounding to digits as long as the two scalings cancel
or the first overflows.  Otherwise the next number above or below takes its place.
-/
theorem round_keeps_large_iff {number : BinaryFloat .double} (hlarge : number.Large) {digits : ℕ}
    (hdigits : digits ≤ maxRoundDigits) (rounding : Rounding) :
    let scaled := number.mul ((ofNat 10).power digits)
    ∃ step rounded, roundStep digits rounding = .ok step ∧
      step.apply number = .done (.ok rounded) ∧
      (scaled.isFinite → ∃ k, scaled.toInt? = some k) ∧
      (rounded = number ↔ (scaled.isFinite → number.ScalesBack digits)) ∧
      rounded.toBits ≤ number.toBits + 1 ∧ number.toBits ≤ rounded.toBits + 1 := by
  intro scaled
  refine ⟨_, _, if_neg (not_lt.mpr hdigits), rfl, ?_⟩
  by_cases hfinite : scaled.isFinite
  case neg =>
    have hsame : roundDigits digits rounding.mode number = number := if_neg hfinite
    rw [hsame]
    exact ⟨fun h => absurd h hfinite, iff_of_true rfl fun h => absurd h hfinite,
      Nat.le_succ _, Nat.le_succ _⟩
  case pos =>
    cases number with
    | nan => exact hlarge.elim
    | infinite => exact absurd hfinite (Bool.not_eq_true _ ▸ isFinite_infinite_mul _)
    | finite negative m e hcanonical =>
        obtain ⟨hm, he⟩ := full_of_large hcanonical hlarge
        obtain ⟨hdown, hup⟩ := scaledBack_bounds digits hm
        obtain ⟨hlow, hhigh⟩ := scaledBack_full hm hdigits
        have hscaled : scaled = carried negative (scaledUp digits m) (e + excess digits m) :=
          mul_scale_eq hm he hdigits
        rw [roundDigits_finite hm he hdigits, if_pos hfinite]
        refine ⟨fun h => ?_, ?_, ?_⟩
        · rw [hscaled] at h ⊢
          exact toInt?_carried double_precision_pos (by omega) h
        · rw [carried_eq_finite_iff, scaledBack_eq_iff hm]
          exact ⟨fun h _ => h, fun h => h hfinite⟩
        · rw [toBits_carried hlow hhigh he hcanonical.2.2.1, toBits_full hm.le]
          omega

theorem round_keeps_large_iff_two_pow :
    let number : BinaryFloat .double := finite false (2 ^ 52) 0 (by decide)
    number.Large ∧ 2 ≤ maxRoundDigits ∧ ∃ step, roundStep 2 .toEven = .ok step ∧
      step.apply number = .done (.ok number) := by
  intro number
  have hlarge : number.Large := by norm_num [number, Large]
  have hdigits : 2 ≤ maxRoundDigits := by decide
  obtain ⟨step, rounded, hstep, hrounded, -, hsame, -⟩ :=
    round_keeps_large_iff hlarge hdigits .toEven
  rw [hsame.mpr fun _ => by decide] at hrounded
  exact ⟨hlarge, hdigits, step, hstep, hrounded⟩

/-- The number before twice that power gives way to its neighbour. -/
theorem round_moves_large :
    let number : BinaryFloat .double := finite false (2 ^ 53 - 1) 0 (by decide)
    number.Large ∧ ∃ step rounded, roundStep 1 .toEven = .ok step ∧
      step.apply number = .done (.ok rounded) ∧
      rounded = finite false (2 ^ 53 - 2) 0 (by decide) ∧ rounded ≠ number := by
  intro number
  have hlarge : number.Large := by norm_num [number, Large]
  have hrounded : roundDigits 1 .nearestEven number = finite false (2 ^ 53 - 2) 0 (by decide) := by
    decide +kernel
  exact ⟨hlarge, _, _, rfl, rfl, hrounded, hrounded ▸ by decide⟩

end ValuePipeline.BinaryFloat
