/-
# Floating-point numbers read again

A floating-point number is written in its shortest decimal form, with a point or with an exponent,
and the reader makes one significand and one power of ten of that text (`written`).  Where zeros
stand between the digits and the point they become digits of the significand, which is the only
difference from the shortest form.  What is read is a number of the same sign, which is at most
five units in the last place away, and the number itself where neither the significand nor the
power has to be rounded (`reread_near`, `reread_eq_self`).
-/
import LinkWatch.Proofs.Json.ReadBack
import LinkWatch.Proofs.Json.Scaling

namespace LinkWatch

open Decimal (digitCount inUnits)

/-! ## Zeros among the digits -/

namespace Decimal

lemma ofDigits_replicate (high k : ℕ) :
    ofDigits high (List.replicate k '0') = high * tenPow k := by
  induction k generalizing high with
  | zero => exact (Nat.mul_one high).symm
  | succ k ih =>
    have hzero : '0'.toNat - '0'.toNat = 0 := Nat.sub_self _
    have hpow : tenPow (k + 1) = tenPow k * 10 := Nat.pow_succ 10 k
    rw [List.replicate_succ, ofDigits_cons, ih, hzero, hpow]
    ring

end Decimal

namespace Json

lemma isDigit_replicate (k : ℕ) : ∀ x ∈ List.replicate k '0', x.isDigit = true := by
  intro x hx
  rw [List.eq_of_mem_replicate hx]
  rfl

/-- The first digits of a number, and zeros after them, can stand before a point. -/
lemma WholeDigits.take_append {ds : List Char} (h : WholeDigits ds) {k n : ℕ} (hk : 0 < k)
    (hzero : ds = ['0'] → n = 0) : WholeDigits (ds.take k ++ List.replicate n '0') := by
  obtain ⟨d, ds', rfl⟩ := List.exists_cons_of_ne_nil h.ne_nil
  obtain ⟨k, rfl⟩ := Nat.exists_eq_succ_of_ne_zero hk.ne'
  rw [List.take_succ_cons, List.cons_append]
  refine ⟨List.cons_ne_nil _ _, fun x hx => ?_, fun hhead => ?_⟩
  · rw [← List.cons_append, List.mem_append, ← List.take_succ_cons] at hx
    rcases hx with hx | hx
    · exact h.isDigit x (List.mem_of_mem_take hx)
    · exact isDigit_replicate n x hx
  · have hall := h.zero hhead
    rw [hzero hall]
    rw [List.cons.injEq] at hall
    rw [hall.1, hall.2]
    simp

/-! ## The two layouts -/

namespace Numeral

/-- Digits with a point after the first `whole` of them. -/
def pointed (negative : Bool) (ds : List Char) (whole : ℤ) : Numeral :=
  if whole ≤ 0 then ⟨negative, ['0'], some (List.replicate (-whole).toNat '0' ++ ds), none⟩
  else
    ⟨negative, ds.take whole.toNat ++ List.replicate (whole.toNat - ds.length) '0',
      some (if ds.length ≤ whole.toNat then ['0'] else ds.drop whole.toNat), none⟩

/-- Digits with a point after the first of them, and an exponent. -/
def scientific (negative : Bool) (ds : List Char) (exponent : ℤ) : Numeral :=
  ⟨negative, ds.take 1, if ds.length ≤ 1 then none else some (ds.drop 1),
    some (decide (exponent < 0), Nat.toDigits 10 exponent.natAbs)⟩

variable {negative : Bool} {ds : List Char} {whole exponent : ℤ}

lemma chars_pointed :
    (pointed negative ds whole).chars =
      (if negative then ['-'] else []) ++ Binary64.withPoint ds whole := by
  unfold pointed Binary64.withPoint
  split
  · simp [chars, plainChars, fractionChars, exponentChars]
  · have hlength : whole.toNat - (ds.take whole.toNat).length = whole.toNat - ds.length := by
      rw [List.length_take]
      omega
    simp only [chars, plainChars, fractionChars, exponentChars, Option.map_some, Option.getD_some,
      Option.map_none, Option.getD_none, List.append_nil, List.append_assoc, hlength,
      List.drop_eq_nil_iff]

lemma chars_scientific :
    (scientific negative ds exponent).chars =
      (if negative then ['-'] else []) ++ Binary64.withExponent ds exponent := by
  unfold scientific Binary64.withExponent
  split <;> simp [chars, plainChars, fractionChars, exponentChars]

lemma proper_pointed (h : WholeDigits ds) (hzero : ds = ['0'] → whole = 1) :
    (pointed negative ds whole).Proper := by
  unfold pointed
  split
  · refine ⟨⟨List.cons_ne_nil _ _, by simp, fun _ => rfl⟩, fun f hf => ?_, by simp⟩
    obtain rfl := Option.some.inj hf
    refine ⟨List.append_ne_nil_of_right_ne_nil _ h.ne_nil, fun x hx => ?_⟩
    exact (List.mem_append.mp hx).elim (isDigit_replicate _ x) (h.isDigit x)
  · refine ⟨h.take_append (by omega) fun hds => ?_, fun f hf => ?_, by simp⟩
    · rw [hzero hds, hds]
      rfl
    · obtain rfl := Option.some.inj hf
      split
      · simp
      · refine ⟨by rw [Ne, List.drop_eq_nil_iff]; omega, fun x hx => ?_⟩
        exact h.isDigit x (List.mem_of_mem_drop hx)

lemma proper_scientific (h : WholeDigits ds) : (scientific negative ds exponent).Proper := by
  have hexponent := wholeDigits_toDigits exponent.natAbs
  refine ⟨?_, fun f hf => ?_, fun e he => ?_⟩
  · have hfirst := h.take_append (k := 1) (n := 0) Nat.one_pos fun _ => rfl
    rwa [List.replicate_zero, List.append_nil] at hfirst
  · simp only [scientific, Option.mem_def] at hf
    split at hf
    · contradiction
    · obtain rfl := Option.some.inj hf
      refine ⟨by rw [Ne, List.drop_eq_nil_iff]; omega, fun x hx => ?_⟩
      exact h.isDigit x (List.mem_of_mem_drop hx)
  · obtain rfl := Option.some.inj he
    exact ⟨hexponent.ne_nil, hexponent.isDigit⟩

lemma digits_pointed :
    Decimal.ofDigits 0 ((pointed negative ds whole).whole ++ (pointed negative ds whole).decimals) =
      if ds.length ≤ whole then Decimal.ofDigits 0 ds * tenPow (whole.toNat - ds.length + 1)
      else Decimal.ofDigits 0 ds := by
  unfold pointed
  split
  next hwhole =>
    have hzero : Decimal.ofDigits 0 ['0'] = 0 := rfl
    simp only [decimals, Option.getD_some, Decimal.ofDigits_append, hzero,
      Decimal.ofDigits_replicate, Nat.zero_mul]
    split
    next hle =>
      have hnil : ds = [] := List.length_eq_zero_iff.mp (by omega)
      rw [hnil, Decimal.ofDigits_nil, Nat.zero_mul]
    next => rfl
  next hwhole =>
    simp only [decimals, Option.getD_some]
    by_cases hle : ds.length ≤ whole.toNat
    · have hle' : (ds.length : ℤ) ≤ whole := by omega
      rw [if_pos hle, if_pos hle', List.take_of_length_le hle, List.append_assoc,
        Decimal.ofDigits_append, ← List.replicate_one, ← List.replicate_add,
        Decimal.ofDigits_replicate]
    · have hlt : ¬ ((ds.length : ℤ) ≤ whole) := by omega
      rw [if_neg hle, if_neg hlt, Nat.sub_eq_zero_of_le (by omega), List.replicate_zero,
        List.append_nil, List.take_append_drop]

lemma power_pointed (hne : ds ≠ []) :
    (pointed negative ds whole).exponentValue - (pointed negative ds whole).decimals.length =
      if ds.length ≤ whole then -1 else whole - ds.length := by
  have hlength : 0 < ds.length := List.length_pos_iff.mpr hne
  unfold pointed
  split
  · simp only [exponentValue, decimals, Option.getD_some, List.length_append, List.length_replicate]
    split <;> omega
  · simp only [exponentValue, decimals, Option.getD_some]
    split
    · rw [if_pos (by omega)]
      rfl
    · rw [if_neg (by omega), List.length_drop]
      omega

lemma digits_scientific :
    (scientific negative ds exponent).whole ++ (scientific negative ds exponent).decimals = ds := by
  simp only [scientific, decimals]
  split
  next h => rw [Option.getD_none, List.append_nil, List.take_of_length_le h]
  next h => rw [Option.getD_some, List.take_append_drop]

lemma power_scientific (hne : ds ≠ []) :
    (scientific negative ds exponent).exponentValue -
      (scientific negative ds exponent).decimals.length = exponent - (ds.length - 1) := by
  have hlength : 0 < ds.length := List.length_pos_iff.mpr hne
  have hdecimals : (scientific negative ds exponent).decimals.length = ds.length - 1 := by
    simp only [scientific, decimals]
    split
    next h => rw [Option.getD_none, List.length_nil, Nat.sub_eq_zero_of_le h]
    next h => rw [Option.getD_some, List.length_drop]
  have hvalue : (scientific negative ds exponent).exponentValue = exponent := by
    rcases lt_or_ge exponent 0 with h | h
    · simp only [scientific, exponentValue, h, decide_true, Decimal.ofDigits_toDigits]
      omega
    · simp only [scientific, exponentValue, not_lt.mpr h, decide_false, Decimal.ofDigits_toDigits]
      omega
  rw [hvalue, hdecimals]
  omega

/-- A numeral with a point or an exponent is read as its significand, scaled by its power of ten. -/
lemma value?_of_real {n : Numeral} {s : ℕ} {e : ℤ}
    (hreal : ¬ (n.fraction = none ∧ n.exponent = none))
    (hs : Decimal.ofDigits 0 (n.whole ++ n.decimals) = s) (hle : s ≤ maxWord)
    (he : n.exponentValue - n.decimals.length = e) :
    n.value? = (scale? s e).map fun y => .real (signed n.negative y) := by
  subst hs he
  obtain ⟨hwhole, hdecimals⟩ := gather_decimals hle
  unfold decimals at hdecimals ⊢
  simp only [value?, hwhole, Nat.sub_self, and_true]
  rw [if_neg hreal]
  simp only [real?, hdecimals, Nat.cast_zero, add_zero, bind]
  cases scale? (Decimal.ofDigits 0 (n.whole ++ n.fraction.getD []))
    (n.exponentValue - (n.fraction.getD []).length) <;> rfl

end Numeral

end Json

/-! ## The text of a number -/

namespace Binary64

open Json (Numeral scale? signed)

/-- The significand and the power of ten of the text of a number. -/
def written (x : Binary64) : ℕ × ℤ :=
  let (digits, grid) := x.shortest
  if 0 ≤ grid ∧ grid + digitCount digits ≤ 16 then (digits * tenPow (grid.toNat + 1), -1)
  else (digits, grid)

/-- The number that is read from the text of a number. -/
def reread (x : Binary64) : Binary64 :=
  signed x.negative ((scale? x.written.1 x.written.2).getD x)

/-- The numeral that is the text of a number. -/
def numeral (x : Binary64) : Numeral :=
  let text := Nat.toDigits 10 x.shortest.1
  let leading : ℤ := x.shortest.2 + text.length - 1
  if -5 ≤ leading ∧ leading < 16 then .pointed x.negative text (leading + 1)
  else .scientific x.negative text leading

variable (x : Binary64)

lemma chars_numeral : x.numeral.chars = x.chars := by
  simp only [numeral, chars]
  split
  · exact Numeral.chars_pointed
  · exact Numeral.chars_scientific

variable {x}

/-- Only the text of a zero begins with a zero digit. -/
lemma shortest_eq_of_zero (h : x.shortest.1 = 0) : x.isZero = true ∧ x.shortest = (0, 0) := by
  have hzero : x.isZero = true := by
    by_contra hx
    obtain ⟨d, g, hshortest, hd, -⟩ := x.exists_shortest_eq (Bool.eq_false_iff.mpr hx)
    rw [hshortest] at h
    exact hd h
  exact ⟨hzero, by rw [shortest, if_pos hzero]⟩

variable (x)

lemma proper_numeral : x.numeral.Proper := by
  have htext := Json.wholeDigits_toDigits x.shortest.1
  simp only [numeral]
  split
  · refine Numeral.proper_pointed htext fun hzero => ?_
    have hvalue := congrArg (Decimal.ofDigits 0) hzero
    rw [Decimal.ofDigits_toDigits] at hvalue
    rw [(shortest_eq_of_zero hvalue).2]
    rfl
  · exact Numeral.proper_scientific htext

/-- The significand and the power of ten are what the text says. -/
lemma numeral_eq_written :
    Decimal.ofDigits 0 (x.numeral.whole ++ x.numeral.decimals) = x.written.1 ∧
    x.numeral.exponentValue - x.numeral.decimals.length = x.written.2 := by
  have hne : Nat.toDigits 10 x.shortest.1 ≠ [] := Nat.toDigits_ne_nil
  have hcount : digitCount x.shortest.1 = (Nat.toDigits 10 x.shortest.1).length := rfl
  unfold numeral written
  generalize x.shortest = shortest at *
  obtain ⟨d, g⟩ := shortest
  simp only at hne hcount ⊢
  rw [hcount]
  split
  next h =>
    rw [Numeral.digits_pointed, Numeral.power_pointed hne, Decimal.ofDigits_toDigits]
    by_cases hg : 0 ≤ g
    · have hsub : (g + (Nat.toDigits 10 d).length - 1 + 1).toNat - (Nat.toDigits 10 d).length =
          g.toNat := by omega
      rw [if_pos (by omega), if_pos (by omega), if_pos (by omega), hsub]
      exact ⟨rfl, rfl⟩
    · rw [if_neg (by omega), if_neg (by omega), if_neg (by omega)]
      exact ⟨rfl, by omega⟩
  next h =>
    rw [Numeral.digits_scientific, Numeral.power_scientific hne, Decimal.ofDigits_toDigits]
    rw [if_neg (by omega)]
    exact ⟨rfl, by omega⟩

lemma numeral_real : ¬ (x.numeral.fraction = none ∧ x.numeral.exponent = none) := by
  simp only [numeral]
  split
  · unfold Numeral.pointed
    split <;> simp
  · simp [Numeral.scientific]

lemma numeral_negative : x.numeral.negative = x.negative := by
  simp only [numeral]
  split
  · unfold Numeral.pointed
    split <;> rfl
  · rfl

/-! ## The number that is read -/

/-- Of the two decimals of seventeen digits that are rounded to the largest number, the text has the
smaller one; the other one is too large when it is scaled. -/
lemma shortest_ne_of_overflow (hx : x.isZero = false) : x.shortest ≠ (17976931348623158, 292) := by
  intro heq
  obtain ⟨d, g, hshortest, -, -, -, -, hreceives⟩ := exists_shortest_eq hx
  obtain ⟨rfl, rfl⟩ := Prod.mk.inj (hshortest.symm.trans heq)
  have hvalue : ((17976931348623158 * tenPow 292 * unitsPerOne : ℕ) / (1 : ℕ) : ℚ) =
      inUnits 17976931348623158 292 := by
    rw [Nat.cast_one, div_one, Nat.cast_mul, Nat.cast_mul]
    exact (Json.inUnits_natCast 17976931348623158 292).symm
  have hnearest := hreceives.nearest? Nat.one_pos hvalue
  -- both numbers of this magnitude are written with the digit below
  have hlargest : ∀ negative, ∀ y ∈ nearest? negative
      (17976931348623158 * tenPow 292 * unitsPerOne) 1, y.shortest ≠ (17976931348623158, 292) := by
    decide +kernel
  exact hlargest x.negative x hnearest heq

/-- The text of a number gives a significand and a power of ten that need no rounding. -/
def Exact (x : Binary64) : Prop := x.written.1 < twoPow 53 ∧ x.written.2.natAbs ≤ 22

instance (x : Binary64) : Decidable x.Exact :=
  inferInstanceAs (Decidable (x.written.1 < twoPow 53 ∧ x.written.2.natAbs ≤ 22))

/-- Zeros between the digits and the point do not change the value. -/
lemma inUnits_mul_tenPow (d n : ℕ) : inUnits (d * tenPow (n + 1)) (-1) = inUnits d n := by
  rw [inUnits, inUnits, Nat.cast_mul, Decimal.cast_tenPow, zpow_natCast, zpow_neg_one, pow_succ]
  generalize (unitsPerOne : ℚ) = unit
  ring

/-- The text of a number other than zero stands for a decimal that is rounded to the number. -/
lemma written_spec (hx : x.isZero = false) :
    x.Receives (inUnits x.written.1 x.written.2) ∧ x.written.1 ≠ 0 ∧ x.written.1 ≤ tenPow 17 ∧
      -324 ≤ x.written.2 ∧ x.written.2 ≤ 308 ∧
      ¬ (x.written.1 = 17976931348623158 ∧ x.written.2 = 292) := by
  obtain ⟨d, g, hshortest, hd, hle, hlow, hhigh, hreceives⟩ := exists_shortest_eq hx
  have hne := shortest_ne_of_overflow x hx
  unfold written
  rw [hshortest] at hne ⊢
  simp only
  split
  next h =>
    obtain ⟨n, rfl⟩ := Int.eq_ofNat_of_zero_le h.1
    rw [Int.toNat_natCast, inUnits_mul_tenPow]
    refine ⟨hreceives, Nat.mul_ne_zero hd (Nat.ne_of_gt (Nat.pow_pos (by decide))), ?_, by omega,
      by omega, by omega⟩
    calc d * tenPow (n + 1) ≤ tenPow (digitCount d) * tenPow (n + 1) :=
          Nat.mul_le_mul_right _ (Decimal.lt_tenPow_digitCount d).le
      _ = tenPow (digitCount d + (n + 1)) := (Json.tenPow_add _ _).symm
      _ ≤ tenPow 17 := Json.tenPow_le_tenPow (by omega)
  next h => exact ⟨hreceives, hd, hle, hlow, hhigh, fun h => hne (Prod.ext h.1 h.2)⟩

/-- The text of a zero stands for zero. -/
lemma receives_zero (hx : x.isZero = true) : x.Receives (inUnits 0 (-1)) := by
  have hunits : x.units = 0 := by
    rw [units, beq_iff_eq.mp hx, Nat.zero_mul]
  refine ⟨0, 1, Nat.one_pos, ?_, nearest?_eq_some_self Nat.one_pos ?_⟩
  · rw [inUnits, Nat.cast_zero, zero_div, zero_mul, zero_mul]
  · rw [hunits]
    simpa using x.margin_pos

lemma written_of_isZero (hx : x.isZero = true) : x.written = (0, -1) := by
  have hcount : digitCount 0 = 1 := rfl
  simp [written, shortest, hx, hcount]

lemma signed_negative {y : Binary64} {negative : Bool} (hy : y.negative = false) :
    (signed negative y).negative = negative := by
  cases negative <;> simp [signed, neg, hy]

lemma signed_units (negative : Bool) (y : Binary64) : (signed negative y).units = y.units := by
  cases negative <;> rfl

/-- The significand and the power of ten of a text are scaled to a number, which is near, and which
is the number itself where no rounding is needed. -/
lemma exists_scale?_written :
    ∃ y, scale? x.written.1 x.written.2 = some y ∧ y.negative = false ∧
      |(y.units : ℚ) - x.units| ≤ 5 * twoPow x.exponent ∧
      (x.Exact → signed x.negative y = x) := by
  cases hx : x.isZero with
  | true =>
    rw [x.written_of_isZero hx]
    obtain ⟨y, hy, hsign, hself⟩ := Json.exists_scale?_exact (x.receives_zero hx) (s := 0) (e := -1)
      (twoPow_pos 53) (by decide)
    refine ⟨y, hy, hsign, ?_, fun _ => hself⟩
    rw [← signed_units x.negative y, hself, sub_self, abs_zero]
    exact mul_nonneg (by norm_num) (Nat.cast_nonneg _)
  | false =>
    obtain ⟨hreceives, hne, hle, hlow, hhigh, hoverflow⟩ := x.written_spec hx
    obtain ⟨y, hy, hsign, hnear⟩ :=
      Json.exists_scale?_near hreceives hne hle hlow hhigh hoverflow
    refine ⟨y, hy, hsign, hnear, fun hexact => ?_⟩
    obtain ⟨z, hz, -, hself⟩ := Json.exists_scale?_exact hreceives hexact.1 hexact.2
    rw [hy] at hz
    rwa [← Option.some.inj hz] at hself

/-- **What is read from the text of a number is the number with that sign that the text is scaled
to.** -/
theorem readAs_reread : Json.Number.ReadAs (.real x) (.real x.reread) := by
  intro rest p hrest
  obtain ⟨y, hy, -⟩ := x.exists_scale?_written
  obtain ⟨hdigits, hpower⟩ := x.numeral_eq_written
  have hle : x.written.1 ≤ maxWord := by
    cases hx : x.isZero with
    | true =>
      rw [x.written_of_isZero hx]
      decide
    | false => exact Nat.le_trans (x.written_spec hx).2.2.1 (by decide)
  have hvalue := Numeral.value?_of_real x.numeral_real hdigits hle hpower
  rw [hy, x.numeral_negative] at hvalue
  rw [Json.Number.chars, ← chars_numeral, reread, hy]
  exact Json.readNumber_chars x.proper_numeral hvalue hrest

/-- **It has the same sign and is at most five units in the last place away.** -/
theorem reread_near :
    x.reread.negative = x.negative ∧ x.reread.units ≤ x.units + 5 * twoPow x.exponent ∧
      x.units ≤ x.reread.units + 5 * twoPow x.exponent := by
  obtain ⟨y, hy, hsign, hnear, -⟩ := x.exists_scale?_written
  rw [reread, hy, Option.getD_some, signed_units]
  obtain ⟨hlow, hhigh⟩ := abs_le.mp hnear
  refine ⟨signed_negative hsign, ?_, ?_⟩
  · have h : (y.units : ℚ) ≤ x.units + 5 * twoPow x.exponent := by linarith
    exact_mod_cast h
  · have h : (x.units : ℚ) ≤ y.units + 5 * twoPow x.exponent := by linarith
    exact_mod_cast h

/-- **It is the number itself where nothing is rounded on the way.** -/
theorem reread_eq_self (h : x.Exact) : x.reread = x := by
  obtain ⟨y, hy, -, -, hself⟩ := x.exists_scale?_written
  rw [reread, hy]
  exact hself h

end Binary64

end LinkWatch
