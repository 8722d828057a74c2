import Mathlib
import Parley.Number.Binary64

namespace Parley.Binary64

theorem pow_toNat_div (b : ℚ) (q : ℤ) : b ^ q.toNat / b ^ (-q).toNat = b ^ q := by
  rcases le_total 0 q with h | h
  · obtain ⟨n, rfl⟩ := Int.eq_ofNat_of_zero_le h
    simp
  · obtain ⟨n, hn⟩ := Int.eq_ofNat_of_zero_le (neg_nonneg.mpr h)
    obtain rfl : q = -n := by omega
    simp

theorem pow_mul_zpow (n : Nat) (q : Int) : (2 : ℚ) ^ n * 2 ^ q = 2 ^ (n + q : ℤ) := by
  rw [zpow_add₀ two_ne_zero, zpow_natCast]

theorem two_zpow_eq (q : Int) : (2 : ℚ) ^ q = 2 * 2 ^ (q - 1) := by
  rw [zpow_sub_one₀ two_ne_zero]
  ring

theorem div_eq_quotient_add (num : Nat) {den : Nat} (h : 0 < den) :
    (num / den : ℚ) = (num / den : ℕ) + (num % den : ℕ) / den := by
  have hden : (den : ℚ) ≠ 0 := by positivity
  field_simp
  exact_mod_cast (Nat.div_add_mod num den).symm

theorem quotient_lt_iff {num den : Nat} (hd : 0 < den) (n : Nat) :
    num / den < n ↔ (num / den : ℚ) < n := by
  rw [Nat.div_lt_iff_lt_mul hd, div_lt_iff₀ (by exact_mod_cast hd)]
  norm_cast

/-- A value is rounded to what it is no further than a half from; at a half itself to what is
even. -/
theorem roundEven_eq {num den m : Nat} (hd : 0 < den) (hl : (m : ℚ) - 1 / 2 ≤ num / den)
    (hu : (num / den : ℚ) ≤ m + 1 / 2)
    (hodd : m % 2 = 1 → (m : ℚ) - 1 / 2 < num / den ∧ (num / den : ℚ) < m + 1 / 2) :
    roundEven num den = m := by
  have hden : (0 : ℚ) < den := by exact_mod_cast hd
  rw [div_eq_quotient_add num hd] at hl hu hodd
  simp only [roundEven]
  have hr : ((num % den : ℕ) : ℚ) / den < 1 := by
    rw [div_lt_one hden]
    exact_mod_cast Nat.mod_lt num hd
  have hr0 : (0 : ℚ) ≤ ((num % den : ℕ) : ℚ) / den := by positivity
  have hlt : 2 * (num % den) < den ↔ ((num % den : ℕ) : ℚ) / den < 1 / 2 := by
    rw [div_lt_div_iff₀ hden two_pos]
    norm_cast
    omega
  have hgt : den < 2 * (num % den) ↔ 1 / 2 < ((num % den : ℕ) : ℚ) / den := by
    rw [div_lt_div_iff₀ two_pos hden]
    norm_cast
    omega
  generalize num / den = d at *
  generalize ((num % den : ℕ) : ℚ) / den = f at *
  have hmd : m = d ∨ m = d + 1 := by
    have h1 : (m : ℚ) < d + 2 := by linarith
    have h2 : (d : ℚ) < m + 1 := by linarith
    norm_cast at h1 h2
    omega
  simp only [hlt, hgt]
  rcases hmd with rfl | rfl
  · split
    · rfl
    · have heven : m % 2 = 0 := by
        by_contra hm
        have := (hodd (by omega)).2
        linarith
      rw [if_neg (by linarith), heven, Nat.add_zero]
  · push_cast at hl hodd
    rw [if_neg (by linarith)]
    split
    · rfl
    · have hone : d % 2 = 1 := by
        by_contra hm
        have := (hodd (by omega)).1
        linarith
      rw [hone]

theorem roundEven_le {num den n : Nat} (hd : 0 < den) (h : (num / den : ℚ) < n) :
    roundEven num den ≤ n := by
  have := (quotient_lt_iff hd n).mpr h
  simp only [roundEven]
  split
  · omega
  · split <;> omega

theorem le_roundEven {num den n : Nat} (hd : 0 < den) (h : (n : ℚ) ≤ num / den) :
    n ≤ roundEven num den := by
  have : n ≤ num / den := by
    rw [Nat.le_div_iff_mul_le hd]
    rw [le_div_iff₀ (by exact_mod_cast hd)] at h
    exact_mod_cast h
  simp only [roundEven]
  split
  · omega
  · split <;> omega

theorem scaled_value (num den : Nat) (q : Int) :
    ((scaled num den q).1 : ℚ) / (scaled num den q).2 = num / den / 2 ^ q := by
  simp only [scaled, Nat.pow_eq, Nat.cast_mul, Nat.cast_pow, Nat.cast_ofNat]
  rw [← pow_toNat_div 2 q, div_div_div_eq]

theorem scaled_pos (num : Nat) {den : Nat} (h : 0 < den) (q : Int) : 0 < (scaled num den q).2 :=
  Nat.mul_pos h (Nat.pow_pos (by decide))

structure Fits (v : ℚ) (q : Int) : Prop where
  least : -1074 ≤ q
  below : v < 2 ^ 53 * 2 ^ q
  full : q = -1074 ∨ 2 ^ 52 * 2 ^ q ≤ v

theorem Fits.unique {v : ℚ} {q q' : Int} (h : Fits v q) (h' : Fits v q') : q = q' := by
  have key {p p' : Int} (hp : Fits v p) (hp' : Fits v p') : ¬ p < p' := by
    intro hlt
    have hl := hp.least
    rcases hp'.full with he | hf
    · omega
    · have hmono : (2 : ℚ) ^ p ≤ 2 ^ (p' - 1) := zpow_le_zpow_right₀ one_le_two (by omega)
      have hbelow := hp.below
      rw [two_zpow_eq p'] at hf
      linarith
  exact le_antisymm (not_lt.mp (key h' h)) (not_lt.mp (key h h'))

theorem log2_bounds {n : Nat} (h : n ≠ 0) :
    (2 : ℚ) ^ (n.log2 : ℤ) ≤ n ∧ (n : ℚ) < 2 ^ ((n.log2 : ℤ) + 1) := by
  have h1 := Nat.log2_self_le h
  have h2 := Nat.lt_log2_self (n := n)
  constructor
  · rw [zpow_natCast]
    exact_mod_cast h1
  · rw [← Nat.cast_succ, zpow_natCast]
    exact_mod_cast h2

/-- The lengths of two numbers tell the exponent of their quotient up to one. -/
theorem quotient_bounds {num den : Nat} (hn : 0 < num) (hd : 0 < den) :
    (2 : ℚ) ^ 51 * 2 ^ ((num.log2 : ℤ) - den.log2 - 52) < num / den ∧
      (num / den : ℚ) < 2 ^ 53 * 2 ^ ((num.log2 : ℤ) - den.log2 - 52) := by
  obtain ⟨hnl, hnu⟩ := log2_bounds hn.ne'
  obtain ⟨hdl, hdu⟩ := log2_bounds hd.ne'
  have hden : (0 : ℚ) < den := by exact_mod_cast hd
  set e : ℤ := (num.log2 : ℤ) - den.log2 - 52 with he
  constructor
  · rw [lt_div_iff₀ hden]
    calc (2 : ℚ) ^ 51 * 2 ^ e * den
        < 2 ^ 51 * 2 ^ e * 2 ^ ((den.log2 : ℤ) + 1) := by gcongr
      _ = 2 ^ (num.log2 : ℤ) := by
          rw [pow_mul_zpow, ← zpow_add₀ two_ne_zero]
          congr 1
          omega
      _ ≤ num := hnl
  · rw [div_lt_iff₀ hden]
    calc (num : ℚ) < 2 ^ ((num.log2 : ℤ) + 1) := hnu
      _ = 2 ^ 53 * 2 ^ e * 2 ^ (den.log2 : ℤ) := by
          rw [pow_mul_zpow, ← zpow_add₀ two_ne_zero]
          congr 1
          omega
      _ ≤ 2 ^ 53 * 2 ^ e * den := by gcongr

theorem fits_exponentOf {num den : Nat} (hn : 0 < num) (hd : 0 < den) :
    Fits (num / den) (exponentOf num den) := by
  obtain ⟨hlow, hhigh⟩ := quotient_bounds hn hd
  simp only [exponentOf]
  set e : ℤ := (num.log2 : ℤ) - den.log2 - 52
  have hsplit : (scaled num den e).1 / (scaled num den e).2 < Nat.pow 2 52 ↔
      (num / den : ℚ) < 2 ^ 52 * 2 ^ e := by
    rw [quotient_lt_iff (scaled_pos num hd e), scaled_value, div_lt_iff₀ (by positivity)]
    norm_num
  -- in both cases the quotient has 53 digits under the exponent before it is raised to the least
  obtain ⟨e', hmax, hbelow, hfull⟩ : ∃ e' : ℤ,
      (if (scaled num den e).1 / (scaled num den e).2 < Nat.pow 2 52 then e - 1 else e) = e' ∧
      (num / den : ℚ) < 2 ^ 53 * 2 ^ e' ∧ (2 : ℚ) ^ 52 * 2 ^ e' ≤ num / den := by
    split
    case isTrue h =>
      have hv := hsplit.mp h
      refine ⟨e - 1, rfl, ?_, ?_⟩
      · rw [two_zpow_eq] at hv
        linarith
      · rw [two_zpow_eq] at hlow
        linarith
    case isFalse h => exact ⟨e, rfl, hhigh, not_lt.mp (mt hsplit.mpr h)⟩
  rw [hmax]
  have hmono : (2 : ℚ) ^ e' ≤ 2 ^ max e' (-1074) :=
    zpow_le_zpow_right₀ one_le_two (le_max_left _ _)
  refine ⟨le_max_right _ _, by linarith, ?_⟩
  rcases le_total e' (-1074) with h | h
  · exact .inl (max_eq_right h)
  · exact .inr (by rwa [max_eq_left h])

theorem representable_finite {negative : Bool} {m : Nat} {q : Int} :
    (finite negative m q).Representable ↔
      m < 2 ^ 53 ∧ -1074 ≤ q ∧ q ≤ 971 ∧ (2 ^ 52 ≤ m ∨ q = -1074) := Iff.rfl

theorem representable_zero (negative : Bool) : (finite negative 0 (-1074)).Representable :=
  representable_finite.mpr ⟨by norm_num, le_refl _, by norm_num, .inr rfl⟩

/-- How far below `m * 2 ^ q` the values reach that round to it, in units of `2 ^ q`. Below a power
of two the next number is nearer. -/
def reach (m : Nat) (q : Int) : ℚ := if m = 2 ^ 52 ∧ -1074 < q then 1 / 4 else 1 / 2

theorem reach_le (m : Nat) (q : Int) : reach m q ≤ 1 / 2 := by
  unfold reach
  split <;> norm_num

/-- The values that round to `m * 2 ^ q`: up to half-way to its neighbours, and these points only if
`m` is even. -/
structure RoundsTo (v : ℚ) (m : Nat) (q : Int) : Prop where
  lower : (m - reach m q) * 2 ^ q ≤ v
  upper : v ≤ (m + 1 / 2) * 2 ^ q
  odd : m % 2 = 1 → (m - reach m q) * 2 ^ q < v ∧ v < (m + 1 / 2) * 2 ^ q

theorem roundEven_scaled {num den m : Nat} {q : Int} (hd : 0 < den)
    (h : RoundsTo (num / den) m q) : roundEven (scaled num den q).1 (scaled num den q).2 = m := by
  have hq : (0 : ℚ) < 2 ^ q := by positivity
  have hr := reach_le m q
  apply roundEven_eq (scaled_pos num hd q) <;> rw [scaled_value]
  · rw [le_div_iff₀ hq]
    have := h.lower
    nlinarith
  · rw [div_le_iff₀ hq]
    exact h.upper
  · intro hm
    obtain ⟨hl, hu⟩ := h.odd hm
    rw [lt_div_iff₀ hq, div_lt_iff₀ hq]
    exact ⟨by nlinarith, hu⟩

/-- Just below a power of two, values round up to it under the lower exponent. -/
theorem roundEven_carry {num den : Nat} {q : Int} (hd : 0 < den)
    (hl : (2 ^ 52 - 1 / 4 : ℚ) * 2 ^ q ≤ num / den) (hu : (num / den : ℚ) < 2 ^ 52 * 2 ^ q) :
    roundEven (scaled num den (q - 1)).1 (scaled num den (q - 1)).2 = 2 ^ 53 := by
  have hq : (0 : ℚ) < 2 ^ (q - 1) := by positivity
  rw [two_zpow_eq] at hl hu
  apply roundEven_eq (scaled_pos num hd _) <;> rw [scaled_value]
  · rw [le_div_iff₀ hq]
    push_cast
    linarith
  · rw [div_le_iff₀ hq]
    push_cast
    linarith
  · intro h
    norm_num at h

/-- A quotient in reach of a number is rounded to it. -/
theorem ofRatio_eq {num den m : Nat} {q : Int} (negative : Bool) (hn : 0 < num) (hd : 0 < den)
    (hrep : (finite negative m q).Representable) (h : RoundsTo (num / den) m q) :
    ofRatio negative num den = finite negative m q := by
  obtain ⟨hm, hleast, hgreatest, hfull⟩ := representable_finite.mp hrep
  have hq : (0 : ℚ) < 2 ^ q := by positivity
  have hm' : (m : ℚ) + 1 ≤ 2 ^ 53 := by exact_mod_cast hm
  have hbelow : (num / den : ℚ) < 2 ^ 53 * 2 ^ q := by
    have := h.upper
    nlinarith
  simp only [ofRatio, hn.ne', if_false]
  by_cases hf : q = -1074 ∨ (2 : ℚ) ^ 52 * 2 ^ q ≤ num / den
  · have hne : m ≠ Nat.pow 2 53 := by
      simp only [Nat.pow_eq]
      omega
    rw [(fits_exponentOf hn hd).unique ⟨hleast, hbelow, hf⟩, roundEven_scaled hd h]
    simp only [hne, not_lt.mpr hgreatest, if_false]
  · obtain ⟨hne, hlt⟩ := not_or.mp hf
    have hlt := not_le.mp hlt
    have hm52 : 2 ^ 52 ≤ m := hfull.resolve_right hne
    have hlower := h.lower
    -- only the number at the foot of its binade has values below that binade
    obtain rfl : m = 2 ^ 52 := by
      have hr := reach_le m q
      have : (m : ℚ) < 2 ^ 52 + 1 := by nlinarith
      norm_cast at this
      omega
    have hreach : reach (2 ^ 52) q = 1 / 4 := if_pos ⟨rfl, by omega⟩
    rw [hreach] at hlower
    push_cast at hlower
    have hfits : Fits (num / den : ℚ) (q - 1) := by
      rw [two_zpow_eq] at hlower hlt
      exact ⟨by omega, by linarith, .inr (by nlinarith)⟩
    rw [(fits_exponentOf hn hd).unique hfits, roundEven_carry hd hlower hlt]
    simp only [Nat.pow_eq, if_true, sub_add_cancel, not_lt.mpr hgreatest, if_false]

/-- Whatever is rounded, the result is a number of the format. -/
theorem representable_ofRatio (negative : Bool) (num : Nat) {den : Nat} (hd : 0 < den) :
    (ofRatio negative num den).Representable := by
  unfold ofRatio
  split
  case isTrue => exact representable_zero negative
  case isFalse hn =>
    have hfits := fits_exponentOf (Nat.pos_of_ne_zero hn) hd
    set q := exponentOf num den
    have hq : (0 : ℚ) < 2 ^ q := by positivity
    have hle : roundEven (scaled num den q).1 (scaled num den q).2 ≤ 2 ^ 53 := by
      apply roundEven_le (scaled_pos num hd q)
      rw [scaled_value, div_lt_iff₀ hq]
      exact_mod_cast hfits.below
    have hge (h : q ≠ -1074) :
        2 ^ 52 ≤ roundEven (scaled num den q).1 (scaled num den q).2 := by
      apply le_roundEven (scaled_pos num hd q)
      rw [scaled_value, le_div_iff₀ hq]
      exact_mod_cast hfits.full.resolve_left h
    have hleast := hfits.least
    simp only [Nat.pow_eq]
    split
    case isTrue hcarry =>
      dsimp only
      split
      case isTrue => trivial
      case isFalse hgreat =>
        exact representable_finite.mpr ⟨by norm_num, by omega, by omega, .inl le_rfl⟩
    case isFalse hcarry =>
      dsimp only
      split
      case isTrue => trivial
      case isFalse hgreat =>
        refine representable_finite.mpr ⟨by omega, hleast, by omega, ?_⟩
        by_cases h : q = -1074
        · exact .inr h
        · exact .inl (hge h)

end Parley.Binary64
