import Parley.Number.Shortest
import Parley.Proofs.Rounding

namespace Parley.Binary64

theorem pow_mul_pow_toNat {b : ℚ} (hb : b ≠ 0) (e : Int) :
    b ^ e * b ^ (-e).toNat = b ^ e.toNat := by
  rw [← pow_toNat_div, div_mul_cancel₀]
  exact pow_ne_zero _ hb

theorem compareDecimal_eq (n : Nat) (e : Int) (x : Nat) (q : Int) :
    compareDecimal n e x q = compare (n * 10 ^ e : ℚ) (x * 2 ^ q) := by
  have hc : (0 : ℚ) < 10 ^ (-e).toNat * 2 ^ (-q).toNat := by positivity
  have hcast : StrictMono (Nat.cast : ℕ → ℚ) := Nat.strictMono_cast
  rw [compareDecimal, ← cmp_eq_compare, ← cmp_eq_compare, ← hcast.cmp_map_eq,
    ← cmp_mul_pos_right hc (n * 10 ^ e)]
  congr 1
  · simp only [Nat.pow_eq, Nat.cast_mul, Nat.cast_pow, Nat.cast_ofNat,
      ← pow_mul_pow_toNat (b := 10) (by norm_num) e]
    ring
  · simp only [Nat.pow_eq, Nat.cast_mul, Nat.cast_pow, Nat.cast_ofNat,
      ← pow_mul_pow_toNat (b := 2) (by norm_num) q]
    ring

/-- The comparison with the ends of the interval is exact. -/
theorem readsBack_iff {m : Nat} (hm : 0 < m) (q : Int) (n : Nat) (e : Int) :
    readsBack m q n e = true ↔ RoundsTo (n * 10 ^ e) m q := by
  have hquarter : (2 : ℚ) ^ q = 4 * 2 ^ (q - 2) := by
    calc (2 : ℚ) ^ q = 2 ^ ((2 : ℕ) + (q - 2) : ℤ) := by congr 1; omega
      _ = 4 * 2 ^ (q - 2) := by rw [← pow_mul_zpow]; norm_num
  have hlow : (((if m = Nat.pow 2 52 ∧ -1074 < q then 4 * m - 1 else 4 * m - 2 : ℕ) : ℚ)) *
      2 ^ (q - 2) = (m - reach m q) * 2 ^ q := by
    rw [hquarter, reach]
    simp only [Nat.pow_eq]
    split
    · rw [Nat.cast_sub (by omega)]
      push_cast
      ring
    · rw [Nat.cast_sub (by omega)]
      push_cast
      ring
  have hhigh : ((4 * m + 2 : ℕ) : ℚ) * 2 ^ (q - 2) = (m + 1 / 2) * 2 ^ q := by
    rw [hquarter]
    push_cast
    ring
  simp only [readsBack, compareDecimal_eq, hlow, hhigh, Bool.and_eq_true, Bool.or_eq_true,
    beq_iff_eq, compare_gt_iff_gt, compare_lt_iff_lt, compare_eq_iff_eq]
  constructor
  · rintro ⟨hl, hu⟩
    refine ⟨?_, ?_, fun hodd => ⟨hl.resolve_right (by omega), hu.resolve_right (by omega)⟩⟩
    · rcases hl with h | h
      · exact h.le
      · exact h.1.ge
    · rcases hu with h | h
      · exact h.le
      · exact h.1.le
  · intro h
    rcases Nat.mod_two_eq_zero_or_one m with heven | hodd
    · exact ⟨h.lower.lt_or_eq.imp id (fun he => ⟨he.symm, heven⟩),
        h.upper.lt_or_eq.imp id (fun he => ⟨he, heven⟩)⟩
    · exact ⟨.inl (h.odd hodd).1, .inl (h.odd hodd).2⟩

theorem ratio_value (m : Nat) (q : Int) :
    ((ratio m q).1 : ℚ) / (ratio m q).2 = m * 2 ^ q := by
  simp only [ratio, Nat.pow_eq, Nat.cast_mul, Nat.cast_pow, Nat.cast_ofNat]
  rw [mul_div_assoc, pow_toNat_div]

theorem ratio_pos (m : Nat) (q : Int) : 0 < (ratio m q).2 := Nat.pow_pos (by decide)

theorem onGrid_readsBack {tie : Tie} {m : Nat} {q e : Int} {found : Nat × Int}
    (h : onGrid tie m q e = some found) : readsBack m q found.1 found.2 = true := by
  simp only [onGrid] at h
  split at h
  case h_1 hn hs =>
    obtain rfl := Option.some.inj h
    dsimp only
    split
    · exact hn
    · exact hs
  case h_2 hn hs =>
    obtain rfl := Option.some.inj h
    exact hn
  case h_3 hn hs =>
    obtain rfl := Option.some.inj h
    exact hs
  case h_4 => cases h

/-- What is nearer than the reach below is within the reach above as well. -/
theorem RoundsTo.of_near {v : ℚ} {m : Nat} {q : Int} (h : |v - m * 2 ^ q| < reach m q * 2 ^ q) :
    RoundsTo v m q := by
  have hq : (0 : ℚ) < 2 ^ q := by positivity
  have hr := reach_le m q
  obtain ⟨hl, hu⟩ := abs_lt.mp h
  have hlower : (m - reach m q) * 2 ^ q < v := by linarith
  have hupper : v < (m + 1 / 2) * 2 ^ q := by nlinarith
  exact ⟨hlower.le, hupper.le, fun _ => ⟨hlower, hupper⟩⟩

/-- Under seventeen digits the grid is finer than the numbers are apart. -/
theorem grid_lt {g : ℚ} {negative : Bool} {m : Nat} {q : Int}
    (hrep : (finite negative m q).Representable) (hg : g * 10 ^ 16 ≤ m * 2 ^ q) :
    g < 2 * (reach m q * 2 ^ q) := by
  have hq : (0 : ℚ) < 2 ^ q := by positivity
  unfold reach
  split
  case isTrue h =>
    rw [h.1] at hg
    push_cast at hg
    nlinarith
  case isFalse =>
    have hm : (m : ℚ) ≤ 2 ^ 53 := by exact_mod_cast (representable_finite.mp hrep).1.le
    nlinarith

/-- Under seventeen digits one of the two neighbours on the grid reads back. -/
theorem onGrid_isSome (tie : Tie) {negative : Bool} {m : Nat} {q e : Int} (hm : 0 < m)
    (hrep : (finite negative m q).Representable) (hg : (10 : ℚ) ^ e * 10 ^ 16 ≤ m * 2 ^ q) :
    (onGrid tie m q e).isSome := by
  have hpos : (0 : ℚ) < 10 ^ e := by positivity
  have hfine := grid_lt hrep hg
  have hden : 0 < (ratio m q).2 * Nat.pow 10 e.toNat :=
    Nat.mul_pos (ratio_pos m q) (Nat.pow_pos (by decide))
  have hvalue : (((ratio m q).1 * Nat.pow 10 (-e).toNat : ℕ) : ℚ) /
      ((ratio m q).2 * Nat.pow 10 e.toNat : ℕ) = m * 2 ^ q / 10 ^ e := by
    rw [← ratio_value, ← pow_toNat_div 10 e, div_div_div_eq]
    push_cast [Nat.pow_eq]
    rfl
  set num := (ratio m q).1 * Nat.pow 10 (-e).toNat with hnum
  set den := (ratio m q).2 * Nat.pow 10 e.toNat with hdenom
  -- the number lies between two neighbours on the grid
  have hbelow : ((num / den : ℕ) : ℚ) * 10 ^ e ≤ m * 2 ^ q := by
    rw [← le_div_iff₀ hpos, ← hvalue]
    exact Nat.cast_div_le
  have habove : m * 2 ^ q < ((num / den + 1 : ℕ) : ℚ) * 10 ^ e := by
    rw [← div_lt_iff₀ hpos, ← hvalue, ← quotient_lt_iff hden]
    omega
  have hread : readsBack m q (num / den) e = true ∨ readsBack m q (num / den + 1) e = true := by
    simp only [readsBack_iff hm]
    push_cast at habove ⊢
    rcases le_total ((m : ℚ) * 2 ^ q) (((num / den : ℕ) + 1 / 2 : ℚ) * 10 ^ e) with h | h
    · exact .inl (.of_near (abs_lt.mpr ⟨by linarith, by linarith⟩))
    · exact .inr (.of_near (abs_lt.mpr ⟨by linarith, by linarith⟩))
  simp only [onGrid, ← hnum, ← hdenom]
  split
  case h_4 hn hs => simp [hn, hs] at hread
  all_goals rfl

theorem length_toDigits_bounds {n : Nat} (h : 0 < n) :
    (10 : ℚ) ^ ((Nat.toDigits 10 n).length - 1 : Int) ≤ n ∧
      (n : ℚ) < 10 ^ ((Nat.toDigits 10 n).length : Int) := by
  obtain ⟨k, hk⟩ : ∃ k, (Nat.toDigits 10 n).length = k + 1 :=
    Nat.exists_eq_succ_of_ne_zero Nat.length_toDigits_pos.ne'
  have hupper : n < 10 ^ (k + 1) := (Nat.length_toDigits_le_iff (by decide) k.succ_pos).mp hk.le
  have hlower : 10 ^ k ≤ n := by
    rcases Nat.eq_zero_or_pos k with rfl | hpos
    · exact h
    · by_contra hlt
      have := (Nat.length_toDigits_le_iff (by decide) hpos).mpr (Nat.lt_of_not_le hlt)
      omega
  rw [hk]
  constructor
  · rw [Nat.cast_succ, add_sub_cancel_right, zpow_natCast]
    exact_mod_cast hlower
  · rw [zpow_natCast]
    exact_mod_cast hupper

theorem two_pow_1024_le : (2 : ℚ) ^ 1024 ≤ 10 ^ 310 := by
  have h : 2 ^ 1024 ≤ 10 ^ 310 := by decide +kernel
  exact_mod_cast h

theorem two_pow_1075_le : (2 : ℚ) ^ 1075 ≤ 10 ^ 331 := by
  have h : 2 ^ 1075 ≤ 10 ^ 331 := by decide +kernel
  exact_mod_cast h

/-- The count of digits before the point, or of zeros after it, finds the first digit. -/
theorem pow_wholeDigits_le {num den : Nat} (hd : 0 < den) (h : (2 ^ 1075 : ℚ)⁻¹ ≤ num / den) :
    (10 : ℚ) ^ (wholeDigits num den - 1) ≤ num / den := by
  have hden : (0 : ℚ) < den := by exact_mod_cast hd
  unfold wholeDigits
  split
  case isTrue hle =>
    calc (10 : ℚ) ^ (((Nat.toDigits 10 (num / den)).length : Int) - 1)
        ≤ (num / den : ℕ) := (length_toDigits_bounds (Nat.div_pos hle hd)).1
      _ ≤ num / den := Nat.cast_div_le
  case isFalse =>
    have hiff (j : Nat) : den ≤ num * Nat.pow 10 j ↔ (10 ^ j : ℚ)⁻¹ ≤ num / den := by
      rw [Nat.pow_eq, le_div_iff₀ hden, inv_mul_le_iff₀ (by positivity), mul_comm]
      norm_cast
    split
    case h_1 j hj =>
      have hfound := (List.find?_range_eq_some.mp hj).1
      rw [decide_eq_true_eq, hiff] at hfound
      rwa [sub_sub_cancel_left, zpow_neg, zpow_natCast]
    case h_2 hnone =>
      obtain ⟨j, hj, hlong⟩ : ∃ j < 400, (10 ^ j : ℚ)⁻¹ ≤ num / den :=
        ⟨331, by decide, (inv_anti₀ (by positivity) two_pow_1075_le).trans h⟩
      have hnot := List.find?_range_eq_none.mp hnone j hj
      rw [Bool.not_eq_true', decide_eq_false_iff_not, hiff] at hnot
      exact absurd hlong hnot

/-- Only values within the range of the format round to its numbers other than zero. -/
theorem RoundsTo.bounds {v : ℚ} {negative : Bool} {m : Nat} {q : Int} (h : RoundsTo v m q)
    (hm : 0 < m) (hrep : (finite negative m q).Representable) :
    (2 ^ 1075 : ℚ)⁻¹ ≤ v ∧ v < 2 ^ 1024 := by
  obtain ⟨hlt, hleast, hgreatest, -⟩ := representable_finite.mp hrep
  have hr := reach_le m q
  have hone : (1 : ℚ) ≤ m := by exact_mod_cast hm
  have hmant : (m : ℚ) + 1 ≤ 2 ^ 53 := by exact_mod_cast hlt
  have hq : (0 : ℚ) < 2 ^ q := by positivity
  constructor
  · calc (2 ^ 1075 : ℚ)⁻¹ = 1 / 2 * 2 ^ (-1074 : Int) := by
          rw [pow_succ', mul_inv, zpow_neg, one_div]
          rfl
      _ ≤ 1 / 2 * 2 ^ q := by gcongr; norm_num
      _ ≤ (m - reach m q) * 2 ^ q := by gcongr; linarith
      _ ≤ v := h.lower
  · calc v ≤ (m + 1 / 2) * 2 ^ q := h.upper
      _ < 2 ^ 53 * 2 ^ q := by gcongr; linarith
      _ ≤ 2 ^ 53 * 2 ^ (971 : Int) := by gcongr; norm_num
      _ = 2 ^ 1024 := by
          rw [pow_mul_zpow, ← zpow_natCast]
          norm_num

/-- Only a positive number of digits rounds to a number other than zero. -/
theorem RoundsTo.digits_pos {negative : Bool} {m n : Nat} {q e : Int}
    (h : RoundsTo (n * 10 ^ e) m q) (hm : 0 < m) (hrep : (finite negative m q).Representable) :
    0 < n := by
  rcases Nat.eq_zero_or_pos n with rfl | hpos
  · have hlow := (h.bounds hm hrep).1
    rw [Nat.cast_zero, zero_mul] at hlow
    exact absurd hlow (not_le.mpr (by positivity))
  · exact hpos

theorem RoundsTo.self (m : Nat) (q : Int) : RoundsTo (m * 2 ^ q) m q := by
  apply RoundsTo.of_near
  rw [sub_self, abs_zero]
  have : 0 < reach m q := by
    unfold reach
    split <;> norm_num
  positivity

/-- The digits found for a number round to it. -/
theorem shortest_roundsTo (tie : Tie) {negative : Bool} {m : Nat} {q : Int} (hm : 0 < m)
    (hrep : (finite negative m q).Representable) :
    RoundsTo ((shortest tie m q).1 * 10 ^ (shortest tie m q).2) m q := by
  have hr : 0 < (ratio m q).2 := ratio_pos m q
  have hwhole : (10 : ℚ) ^ (wholeDigits (ratio m q).1 (ratio m q).2 - 1) ≤ m * 2 ^ q := by
    rw [← ratio_value]
    apply pow_wholeDigits_le hr
    rw [ratio_value]
    exact ((RoundsTo.self m q).bounds hm hrep).1
  simp only [shortest]
  set k := wholeDigits (ratio m q).1 (ratio m q).2
  have hsome : ((List.range' 1 17).findSome? (fun (n : Nat) => onGrid tie m q (k - n))).isSome := by
    rw [List.findSome?_isSome_iff]
    refine ⟨17, by decide, onGrid_isSome tie hm hrep ?_⟩
    rw [← zpow_natCast, ← zpow_add₀ (by norm_num)]
    convert hwhole using 2
    push_cast
    ring
  obtain ⟨found, hfound⟩ := Option.isSome_iff_exists.mp hsome
  obtain ⟨n, -, hn⟩ := List.exists_of_findSome?_eq_some hfound
  rw [hfound, Option.getD_some]
  exact (readsBack_iff hm q _ _).mp (onGrid_readsBack hn)

theorem representable_ofDecimal (negative : Bool) (digits : Nat) (power : Int) :
    (ofDecimal negative digits power).Representable := by
  simp only [ofDecimal]
  split
  case isTrue => exact representable_zero negative
  case isFalse =>
    split
    case isTrue => trivial
    case isFalse => exact representable_ofRatio negative _ (Nat.pow_pos (by decide))

/-- Digits and a power of ten in reach of a number are read as that number. The bounds on the size
of a numeral cut off nothing. -/
theorem ofDecimal_eq (negative : Bool) {m n : Nat} {q e : Int} (hm : 0 < m)
    (hrep : (finite negative m q).Representable) (h : RoundsTo (n * 10 ^ e) m q) :
    ofDecimal negative n e = finite negative m q := by
  obtain ⟨hlow, hhigh⟩ := h.bounds hm hrep
  have he : (0 : ℚ) < 10 ^ e := by positivity
  have hn := h.digits_pos hm hrep
  obtain ⟨hl, hu⟩ := length_toDigits_bounds hn
  simp only [ofDecimal]
  set k := (Nat.toDigits 10 n).length
  have hleast : ¬ (k : Int) + e < -330 := by
    intro hlt
    have : (n : ℚ) * 10 ^ e < (2 ^ 1075 : ℚ)⁻¹ := by
      calc (n : ℚ) * 10 ^ e < 10 ^ (k : Int) * 10 ^ e := by gcongr
        _ = 10 ^ ((k : Int) + e) := (zpow_add₀ (by norm_num) _ _).symm
        _ ≤ 10 ^ (-331 : Int) := zpow_le_zpow_right₀ (by norm_num) (by omega)
        _ = (10 ^ 331 : ℚ)⁻¹ := by rw [zpow_neg]; rfl
        _ ≤ (2 ^ 1075 : ℚ)⁻¹ := inv_anti₀ (by positivity) two_pow_1075_le
    exact absurd hlow (not_le.mpr this)
  have hgreatest : ¬ 310 < (k : Int) + e := by
    intro hlt
    have : (2 ^ 1024 : ℚ) ≤ n * 10 ^ e := by
      calc (2 ^ 1024 : ℚ) ≤ 10 ^ 310 := two_pow_1024_le
        _ = 10 ^ (310 : Int) := rfl
        _ ≤ 10 ^ ((k : Int) - 1 + e) := zpow_le_zpow_right₀ (by norm_num) (by omega)
        _ = 10 ^ ((k : Int) - 1) * 10 ^ e := zpow_add₀ (by norm_num) _ _
        _ ≤ n * 10 ^ e := by gcongr
    exact absurd hhigh (not_lt.mpr this)
  have hvalue : ((n * 10 ^ e.toNat : ℕ) : ℚ) / (10 ^ (-e).toNat : ℕ) = n * 10 ^ e := by
    rw [← pow_toNat_div 10 e, ← mul_div_assoc]
    push_cast
    rfl
  simp only [hn.ne', hleast, hgreatest, decide_false, Bool.or_false, Bool.false_eq_true, if_false]
  have hten (k : Nat) : 0 < 10 ^ k := Nat.pow_pos (by decide)
  apply ofRatio_eq negative (Nat.mul_pos hn (hten _)) (hten _) hrep
  rwa [hvalue]

end Parley.Binary64
