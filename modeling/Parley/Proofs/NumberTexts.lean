import Mathlib
import Parley.Number.Numeral
import Parley.Proofs.ShortestDigits

namespace Parley

namespace Numeral

theorem exists_digitChar {c : Char} (h : c.isDigit) : ∃ d < 10, c = d.digitChar := by
  simp only [Char.isDigit, ge_iff_le, UInt32.le_iff_toNat_le, Bool.and_eq_true,
    decide_eq_true_eq] at h
  have hlow : 48 ≤ c.toNat := h.1
  have hhigh : c.toNat ≤ 57 := h.2
  refine ⟨c.toNat - 48, by omega, Char.toNat_inj.mp ?_⟩
  rw [Nat.toNat_digitChar_of_lt_ten (by omega)]
  omega

theorem ofDigits_eq (cs : List Char) : ofDigits cs = Nat.ofDigitChars 10 cs 0 := rfl

theorem natural?_eq_some {cs : List Char} {n : Nat} :
    natural? cs = some n ↔ (cs ≠ [] ∧ ∀ c ∈ cs, c.isDigit) ∧ Nat.ofDigitChars 10 cs 0 = n := by
  unfold natural?
  split
  case isTrue h => simp_all [ofDigits_eq]
  case isFalse h => simp_all

theorem isDigit_toDigits {c : Char} {n : Nat} (h : c ∈ Nat.toDigits 10 n) : c.isDigit :=
  Nat.isDigit_of_mem_toDigits (by decide) (by decide) h

theorem natural?_toDigits (n : Nat) : natural? (Nat.toDigits 10 n) = some n :=
  natural?_eq_some.mpr ⟨⟨Nat.toDigits_ne_nil, fun _ h => isDigit_toDigits h⟩,
    Nat.ofDigitChars_ten_toDigits⟩

theorem exists_toDigits_eq_cons {n : Nat} (h : 0 < n) :
    ∃ c cs, Nat.toDigits 10 n = c :: cs ∧ c ≠ '0' := by
  induction n using Nat.base_induction 10 (by decide) with
  | single d hd =>
    refine ⟨d.digitChar, [], Nat.toDigits_of_lt_base hd, ?_⟩
    rw [Ne, Nat.digitChar_eq_zero]
    omega
  | digit n d hd hn ih =>
    obtain ⟨c, cs, hcs, hc⟩ := ih hn
    exact ⟨c, cs ++ Nat.toDigits 10 d,
      by rw [← Nat.toDigits_append_toDigits (by decide) hn hd, hcs, List.cons_append], hc⟩

theorem ofDigitChars_pos {c : Char} (hc : c.isDigit) (hzero : c ≠ '0') (cs : List Char) :
    0 < Nat.ofDigitChars 10 (c :: cs) 0 := by
  obtain ⟨d, hd, rfl⟩ := exists_digitChar hc
  have : 0 < d := Nat.pos_of_ne_zero (by rintro rfl; exact hzero rfl)
  rw [Nat.ofDigitChars_cons_digitChar_of_lt_ten hd, Nat.ofDigitChars_eq_ofDigitChars_zero]
  positivity

/-- Digits that begin with no zero are those of their number. -/
theorem toDigits_ofDigitChars {c : Char} {cs : List Char} (hzero : c ≠ '0')
    (hdigits : ∀ x ∈ c :: cs, x.isDigit) :
    Nat.toDigits 10 (Nat.ofDigitChars 10 (c :: cs) 0) = c :: cs := by
  induction cs using List.reverseRecOn with
  | nil =>
    obtain ⟨d, hd, rfl⟩ := exists_digitChar (hdigits c List.mem_cons_self)
    rw [Nat.ofDigitChars_cons_digitChar_of_lt_ten hd, Nat.ofDigitChars_nil, mul_zero, zero_add]
    exact Nat.toDigits_of_lt_base hd
  | append_singleton cs last ih =>
    obtain ⟨d, hd, rfl⟩ := exists_digitChar (hdigits last (by simp))
    have hpos := ofDigitChars_pos (hdigits c List.mem_cons_self) hzero cs
    have hih := ih (fun x hx => hdigits x (List.mem_append_left [d.digitChar] hx))
    rw [← List.cons_append, Nat.ofDigitChars_append, Nat.ofDigitChars_cons_digitChar_of_lt_ten hd,
      Nat.ofDigitChars_nil, ← Nat.toDigits_append_toDigits (by decide) hpos hd, hih,
      Nat.toDigits_of_lt_base hd]

def signed (negative : Bool) (cs : List Char) : List Char := (if negative then ['-'] else []) ++ cs

theorem splitSign_signed (negative : Bool) {c : Char} (hc : c.isDigit) (cs : List Char) :
    splitSign (signed negative (c :: cs)) = (negative, c :: cs) := by
  cases negative with
  | true => rfl
  | false =>
    unfold splitSign
    split <;> simp_all [signed]

theorem splitSign_signed_toDigits (negative : Bool) (n : Nat) :
    splitSign (signed negative (Nat.toDigits 10 n)) = (negative, Nat.toDigits 10 n) := by
  obtain ⟨c, cs, h⟩ := List.exists_cons_of_ne_nil (Nat.toDigits_ne_nil (n := n) (b := 10))
  rw [h]
  exact splitSign_signed negative (isDigit_toDigits (h ▸ List.mem_cons_self)) cs

theorem toList_toString_nat (n : Nat) :
    (toString (n : Int)).toList = signed false (Nat.toDigits 10 n) := by
  simp [Int.toString_eq_repr, Int.repr_eq_if, signed]

theorem toList_toString_neg {n : Nat} (h : 0 < n) :
    (toString (-(n : Int))).toList = signed true (Nat.toDigits 10 n) := by
  have : ¬ n = 0 := h.ne'
  simp [Int.toString_eq_repr, Int.repr_eq_if, signed, this]

theorem exists_toList_toString (n : Int) :
    ∃ (negative : Bool) (k : Nat), n = (if negative then -(k : Int) else k) ∧
      (toString n).toList = signed negative (Nat.toDigits 10 k) := by
  rcases le_or_gt 0 n with h | h
  · obtain ⟨k, rfl⟩ := Int.eq_ofNat_of_zero_le h
    exact ⟨false, k, rfl, toList_toString_nat k⟩
  · obtain ⟨k, hk⟩ := Int.eq_ofNat_of_zero_le (a := -n) (by omega)
    obtain rfl : n = -k := by omega
    exact ⟨true, k, rfl, toList_toString_neg (by omega)⟩

/-- Reading a whole number is reading its digits and seeing that it is in range. -/
theorem int64?_eq {text : String} {negative : Bool} {cs : List Char}
    (h : splitSign text.toList = (negative, cs)) :
    int64? text = (natural? cs).bind (fun n =>
      if negative then if n ≤ signedBound then some (-(n : Int)) else none
      else if n < signedBound then some (n : Int) else none) := by
  simp only [int64?, h]
  rfl

theorem int64?_bounds {text : String} {n : Int} (h : int64? text = some n) :
    -signedBound ≤ n ∧ n < signedBound := by
  rcases hs : splitSign text.toList with ⟨negative, cs⟩
  rw [int64?_eq hs, Option.bind_eq_some_iff] at h
  obtain ⟨k, -, hk⟩ := h
  have hpos : 0 < signedBound := by decide
  cases negative with
  | false =>
    simp only [Bool.false_eq_true, if_false, Option.ite_none_right_eq_some] at hk
    obtain ⟨hlt, ⟨⟩⟩ := hk
    omega
  | true =>
    simp only [if_true, Option.ite_none_right_eq_some] at hk
    obtain ⟨hle, ⟨⟩⟩ := hk
    omega

/-- The text of a whole number of 64 bits reads back. -/
theorem int64?_toString {n : Int} (hl : -signedBound ≤ n) (hu : n < signedBound) :
    int64? (toString n) = some n := by
  obtain ⟨negative, k, hn, htext⟩ := exists_toList_toString n
  have hs := splitSign_signed_toDigits negative k
  rw [← htext] at hs
  rw [int64?_eq hs, natural?_toDigits, hn]
  cases negative with
  | false => exact if_pos (by simp at hn; omega)
  | true => exact if_pos (by simp at hn; omega)

/-- A numeral whose digits begin with no zero is the text of its number. -/
theorem toString_int64? {text : String} {negative : Bool} {c : Char} {cs : List Char} {n : Int}
    (htext : text.toList = signed negative (c :: cs)) (hc : c.isDigit) (hzero : c ≠ '0')
    (h : int64? text = some n) : toString n = text := by
  have hs := splitSign_signed negative hc cs
  rw [← htext] at hs
  rw [int64?_eq hs, Option.bind_eq_some_iff] at h
  obtain ⟨k, hk, hn⟩ := h
  obtain ⟨⟨-, hdigits⟩, rfl⟩ := natural?_eq_some.mp hk
  have hcs := toDigits_ofDigitChars hzero hdigits
  rw [← String.toList_inj, htext]
  cases negative with
  | false =>
    simp only [Bool.false_eq_true, if_false, Option.ite_none_right_eq_some] at hn
    rw [← Option.some.inj hn.2, toList_toString_nat, hcs]
  | true =>
    simp only [if_true, Option.ite_none_right_eq_some] at hn
    rw [← Option.some.inj hn.2, toList_toString_neg (ofDigitChars_pos hc hzero cs), hcs]

theorem span_isDigit {ds : List Char} (rest : List Char) (hds : ∀ c ∈ ds, c.isDigit)
    (hrest : ∀ c ∈ rest.head?, ¬ c.isDigit) : (ds ++ rest).span Char.isDigit = (ds, rest) := by
  rw [List.span_eq_takeWhile_dropWhile, List.takeWhile_append_of_pos hds,
    List.dropWhile_append_of_pos hds]
  cases rest with
  | nil => simp
  | cons c rest =>
    have hc : ¬ c.isDigit := hrest c rfl
    simp [hc]

theorem decimal?_whole (negative : Bool) {ds : List Char} (hne : ds ≠ [])
    (hds : ∀ c ∈ ds, c.isDigit) :
    decimal? negative ds = some (.ofDecimal negative (Nat.ofDigitChars 10 ds 0) 0) := by
  have hspan := span_isDigit [] hds (by simp)
  rw [List.append_nil] at hspan
  simp only [decimal?, hspan, exponent?, Option.bind_eq_bind, Option.bind_some,
    List.isEmpty_eq_false_iff.mpr hne]
  simp [ofDigits_eq]

theorem decimal?_point (negative : Bool) {whole fraction : List Char} (hne : whole ≠ [])
    (hw : ∀ c ∈ whole, c.isDigit) (hf : ∀ c ∈ fraction, c.isDigit) :
    decimal? negative (whole ++ '.' :: fraction) = some
      (.ofDecimal negative (Nat.ofDigitChars 10 (whole ++ fraction) 0) (-fraction.length)) := by
  have hspan := span_isDigit ('.' :: fraction) hw (by simp)
  have hspan' := span_isDigit [] hf (by simp)
  rw [List.append_nil] at hspan'
  simp only [decimal?, hspan, hspan', exponent?, Option.bind_eq_bind, Option.bind_some,
    List.isEmpty_eq_false_iff.mpr hne]
  simp [ofDigits_eq]

theorem isDigit_zeros {k : Nat} : ∀ c ∈ Binary64.zeros k, c.isDigit := by
  intro c hc
  rw [List.eq_of_mem_replicate hc]
  rfl

/-- Digits laid out around a point read as their number times a power of ten, wherever it is. -/
theorem decimal?_positional (negative : Bool) {ds : List Char} (hne : ds ≠ [])
    (hds : ∀ c ∈ ds, c.isDigit) (point : Int) :
    ∃ n e, decimal? negative (Binary64.positional ds point false) = some (.ofDecimal negative n e) ∧
      (n * 10 ^ e : ℚ) = Nat.ofDigitChars 10 ds 0 * 10 ^ (point - ds.length) := by
  unfold Binary64.positional
  split
  case isTrue h =>
    obtain ⟨k, hk⟩ := Int.eq_ofNat_of_zero_le (sub_nonneg.mpr h)
    have hall : ∀ c ∈ ds ++ Binary64.zeros k, c.isDigit := by
      intro c hc
      exact (List.mem_append.mp hc).elim (hds c) (isDigit_zeros c)
    refine ⟨_, _, by simpa [hk] using decimal?_whole negative (by simp [hne]) hall, ?_⟩
    rw [Nat.ofDigitChars_append, Binary64.zeros, Nat.ofDigitChars_replicate_zero, hk]
    push_cast
    rw [zpow_natCast]
    ring
  case isFalse h =>
    split
    case isTrue hpos =>
      obtain ⟨k, rfl⟩ := Int.eq_ofNat_of_zero_le hpos.le
      refine ⟨_, _, decimal?_point negative ?_ (fun c hc => hds c (List.mem_of_mem_take hc))
        (fun c hc => hds c (List.mem_of_mem_drop hc)), ?_⟩
      · simp [hne]
        omega
      · rw [Int.toNat_natCast, List.take_append_drop, List.length_drop]
        congr 2
        omega
    case isFalse hneg =>
      obtain ⟨k, hk⟩ := Int.eq_ofNat_of_zero_le (neg_nonneg.mpr (not_lt.mp hneg))
      have hall : ∀ c ∈ Binary64.zeros k ++ ds, c.isDigit := by
        intro c hc
        exact (List.mem_append.mp hc).elim (isDigit_zeros c) (hds c)
      have hvalue : Nat.ofDigitChars 10 (['0'] ++ (Binary64.zeros k ++ ds)) 0 =
          Nat.ofDigitChars 10 ds 0 := by
        rw [Nat.ofDigitChars_append, Nat.ofDigitChars_append, Binary64.zeros,
          Nat.ofDigitChars_replicate_zero]
        rfl
      have hread := decimal?_point negative (List.cons_ne_nil '0' []) (by simp) hall
      rw [hvalue] at hread
      refine ⟨_, _, by simpa [hk] using hread, ?_⟩
      congr 2
      simp [Binary64.zeros]
      omega

theorem binary64?_eq {text : String} {negative : Bool} {c : Char} {cs : List Char}
    (hs : splitSign text.toList = (negative, c :: cs)) (hc : c.isDigit) :
    binary64? text = decimal? negative (c :: cs) := by
  have hlower : c.toLower ≠ 'i' ∧ c.toLower ≠ 'n' := by
    obtain ⟨d, hd, rfl⟩ := exists_digitChar hc
    interval_cases d <;> decide
  simp [binary64?, hs, hlower]

/-- What reads as a number is one of the format. -/
theorem representable_of_binary64? {text : String} {x : Binary64} (h : binary64? text = some x) :
    x.Representable := by
  simp only [binary64?] at h
  split at h
  · obtain rfl := Option.some.inj h
    trivial
  · split at h
    · obtain rfl := Option.some.inj h
      trivial
    · simp only [decimal?, Option.bind_eq_bind, Option.bind_eq_some_iff] at h
      obtain ⟨e, -, he⟩ := h
      rw [Option.ite_none_left_eq_some] at he
      obtain rfl := Option.some.inj he.2
      exact Binary64.representable_ofDecimal _ _ _

end Numeral

namespace Binary64

/-- Digits without the zeros at their end. -/
theorem exists_significant {n : Nat} (h : 0 < n) :
    ∃ c cs z, (Nat.toDigits 10 n).rdropWhile (· == '0') = c :: cs ∧
      Nat.toDigits 10 n = c :: cs ++ zeros z ∧ c ≠ '0' := by
  obtain ⟨c, cs, hcs, hc⟩ := Numeral.exists_toDigits_eq_cons h
  have hsplit := List.rdropWhile_append_rtakeWhile (p := (· == '0')) (l := Nat.toDigits 10 n)
  have hzeros : (Nat.toDigits 10 n).rtakeWhile (· == '0') =
      zeros ((Nat.toDigits 10 n).rtakeWhile (· == '0')).length := by
    rw [zeros, List.eq_replicate_iff]
    exact ⟨rfl, fun x hx => by simpa using List.mem_rtakeWhile_imp hx⟩
  rw [hzeros] at hsplit
  generalize ((Nat.toDigits 10 n).rtakeWhile (· == '0')).length = z at hsplit
  cases hd : (Nat.toDigits 10 n).rdropWhile (· == '0') with
  | nil =>
    have hall := List.rdropWhile_eq_nil_iff.mp hd c (by rw [hcs]; exact List.mem_cons_self)
    exact absurd (beq_iff_eq.mp hall) hc
  | cons c' cs' =>
    rw [hd] at hsplit
    refine ⟨c', cs', z, rfl, hsplit.symm, ?_⟩
    rw [hcs, List.cons_append, List.cons.injEq] at hsplit
    exact hsplit.1 ▸ hc

/-- The text of a number other than zero: digits that round to it, of which the first is not zero,
with the point somewhere among them or zeros. -/
theorem exists_text_plain {negative : Bool} {m : Nat} {q : Int} (hm : 0 < m)
    (hrep : (finite negative m q).Representable) :
    ∃ c cs point, c ≠ '0' ∧ (∀ x ∈ c :: cs, x.isDigit) ∧
      ((finite negative m q).text .plain).toList =
        Numeral.signed negative (positional (c :: cs) point false) ∧
      RoundsTo (Nat.ofDigitChars 10 (c :: cs) 0 * 10 ^ (point - (c :: cs).length)) m q := by
  have hround := shortest_roundsTo .up hm hrep
  rcases hs : shortest .up m q with ⟨n, e⟩
  rw [hs] at hround
  have hn := hround.digits_pos hm hrep
  obtain ⟨c, cs, z, hdigits, hall, hc⟩ := exists_significant hn
  refine ⟨c, cs, e + (Nat.toDigits 10 n).length, hc, fun x hx => ?_, ?_, ?_⟩
  · exact Numeral.isDigit_toDigits (hall ▸ List.mem_append_left _ hx)
  · have hmagnitude : magnitude .plain m q =
        positional (c :: cs) (e + (Nat.toDigits 10 n).length) false := by
      rw [← hdigits, magnitude, if_neg hm.ne', show Layout.plain.tie = .up from rfl, hs]
      rfl
    rw [text, String.toList_ofList, hmagnitude]
    rfl
  · have hvalue : n = 10 ^ z * Nat.ofDigitChars 10 (c :: cs) 0 := by
      rw [← Nat.ofDigitChars_ten_toDigits (n := n), hall, Nat.ofDigitChars_append, zeros,
        Nat.ofDigitChars_replicate_zero]
    rw [hall, List.length_append, zeros, List.length_replicate]
    convert hround using 1
    push_cast [hvalue]
    rw [show e + ((c :: cs).length + z) - (c :: cs).length = z + e by ring,
      zpow_add₀ (by norm_num), zpow_natCast]
    ring

theorem positional_of_pos {point : Int} (h : 0 < point) (c : Char) (cs : List Char) :
    ∃ ds, positional (c :: cs) point false = c :: ds := by
  obtain ⟨k, hk⟩ := Nat.exists_eq_succ_of_ne_zero (n := point.toNat) (by omega)
  unfold positional
  split
  · exact ⟨_, rfl⟩
  · rw [hk]
    exact ⟨_, rfl⟩

theorem positional_of_nonpos {point : Int} (h : point ≤ 0) (c : Char) (cs : List Char) :
    ∃ ds, positional (c :: cs) point false = '0' :: '.' :: ds := by
  unfold positional
  rw [if_neg (by rw [List.length_cons]; omega), if_neg (by omega)]
  exact ⟨_, rfl⟩

theorem exists_positional_eq_cons {c : Char} (hc : c.isDigit) (cs : List Char) (point : Int) :
    ∃ d ds, d.isDigit ∧ positional (c :: cs) point false = d :: ds := by
  rcases lt_or_ge 0 point with h | h
  · obtain ⟨ds, hds⟩ := positional_of_pos h c cs
    exact ⟨c, ds, hc, hds⟩
  · obtain ⟨ds, hds⟩ := positional_of_nonpos h c cs
    exact ⟨'0', '.' :: ds, rfl, hds⟩

theorem exponent_of_zero {negative : Bool} {q : Int} (h : (finite negative 0 q).Representable) :
    q = -1074 := by
  obtain ⟨-, -, -, h⟩ := representable_finite.mp h
  omega

/-- The text of a finite number begins with a digit, after the sign. -/
theorem exists_toList_text {negative : Bool} {m : Nat} {q : Int}
    (h : (finite negative m q).Representable) :
    ∃ d ds, d.isDigit ∧
      ((finite negative m q).text .plain).toList = Numeral.signed negative (d :: ds) := by
  rcases Nat.eq_zero_or_pos m with rfl | hm
  · exact ⟨'0', [], rfl, String.toList_ofList⟩
  · obtain ⟨c, cs, point, -, hdigits, htext, -⟩ := exists_text_plain hm h
    obtain ⟨d, ds, hd, hds⟩ :=
      exists_positional_eq_cons (hdigits c List.mem_cons_self) cs point
    exact ⟨d, ds, hd, hds ▸ htext⟩

/-- The text of a number reads back. -/
theorem binary64?_text {x : Binary64} (hx : x.Representable) :
    Numeral.binary64? (x.text .plain) = some x := by
  cases x with
  | nan => decide +kernel
  | infinite negative => cases negative <;> decide +kernel
  | finite negative m q =>
    rcases Nat.eq_zero_or_pos m with rfl | hm
    · obtain rfl := exponent_of_zero hx
      cases negative <;> decide +kernel
    · obtain ⟨c, cs, point, hc, hdigits, htext, hround⟩ := exists_text_plain hm hx
      obtain ⟨n, e, hdecimal, hvalue⟩ :=
        Numeral.decimal?_positional negative (List.cons_ne_nil c cs) hdigits point
      rw [← hvalue] at hround
      obtain ⟨d, ds, hd, hds⟩ := exists_positional_eq_cons (hdigits c List.mem_cons_self) cs point
      have hs := Numeral.splitSign_signed negative hd ds
      rw [← hds, ← htext] at hs
      rw [hds] at hs hdecimal
      rw [Numeral.binary64?_eq hs hd, hdecimal, ofDecimal_eq negative hm hx hround]

/-- Where the text of a number reads as a whole number, it is also the text of that one. Only minus
zero loses its sign. -/
theorem toString_of_int64?_text {x : Binary64} (hx : x.Representable)
    (hzero : x ≠ finite true 0 (-1074)) {n : Int} (h : Numeral.int64? (x.text .plain) = some n) :
    toString n = x.text .plain := by
  cases x with
  | nan =>
    have hnone : Numeral.int64? (nan.text .plain) = none := by decide +kernel
    exact nomatch hnone.symm.trans h
  | infinite negative =>
    have hnone : Numeral.int64? ((infinite negative).text .plain) = none := by
      cases negative <;> decide +kernel
    exact nomatch hnone.symm.trans h
  | finite negative m q =>
    rcases Nat.eq_zero_or_pos m with rfl | hm
    · obtain rfl := exponent_of_zero hx
      cases negative with
      | false =>
        have hread : Numeral.int64? ((finite false 0 (-1074)).text .plain) = some 0 := by
          decide +kernel
        obtain rfl := Option.some.inj (hread.symm.trans h)
        decide +kernel
      | true => contradiction
    · obtain ⟨c, cs, point, hc, hdigits, htext, -⟩ := exists_text_plain hm hx
      have hdigit := hdigits c List.mem_cons_self
      rcases lt_or_ge 0 point with hpos | hpos
      · obtain ⟨ds, hds⟩ := positional_of_pos hpos c cs
        rw [hds] at htext
        exact Numeral.toString_int64? htext hdigit hc h
      · -- a point stands among the digits, so this is no whole number
        obtain ⟨ds, hds⟩ := positional_of_nonpos hpos c cs
        rw [hds] at htext
        have hs := Numeral.splitSign_signed negative (c := '0') rfl ('.' :: ds)
        rw [← htext] at hs
        rw [Numeral.int64?_eq hs, Option.bind_eq_some_iff] at h
        obtain ⟨k, hk, -⟩ := h
        exact absurd ((Numeral.natural?_eq_some.mp hk).1.2 '.' (by simp)) (by decide)

end Binary64

end Parley
