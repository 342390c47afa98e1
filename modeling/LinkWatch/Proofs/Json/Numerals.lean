/-
# Numerals read back

A numeral is split into just the digits that it was written with (`readNumeral_chars`).  Its digits
are kept exactly as long as they make a number of 64 bits, and so a whole number that is written in
decimal digits is read as itself.
-/
import LinkWatch.Proofs.Json.Moves
import Mathlib.Algebra.Group.Int.Defs
import Mathlib.Data.List.Basic

namespace LinkWatch

/-! ## Digits -/

namespace Decimal

lemma ofDigits_nil (high : ℕ) : ofDigits high [] = high := by
  exact rfl

lemma ofDigits_cons (high : ℕ) (d : Char) (ds : List Char) :
    ofDigits high (d :: ds) = ofDigits (10 * high + (d.toNat - '0'.toNat)) ds := by
  exact rfl

lemma ofDigits_append (high : ℕ) (ds es : List Char) :
    ofDigits high (ds ++ es) = ofDigits (ofDigits high ds) es := by
  induction ds generalizing high with
  | nil => rfl
  | cons d ds ih => rw [List.cons_append, ofDigits_cons, ofDigits_cons, ih]

lemma ofDigits_eq (high : ℕ) (ds : List Char) : ofDigits high ds = Nat.ofDigitChars 10 ds high := by
  induction ds generalizing high with
  | nil => exact Nat.ofDigitChars_nil.symm
  | cons d ds ih => rw [ofDigits_cons, ih, Nat.ofDigitChars_cons]

lemma le_ofDigits (high : ℕ) (ds : List Char) : high ≤ ofDigits high ds := by
  induction ds generalizing high with
  | nil => exact Nat.le_refl _
  | cons d ds ih =>
    have := ih (10 * high + (d.toNat - '0'.toNat))
    rw [ofDigits_cons]
    omega

lemma ofDigits_toDigits (n : ℕ) : ofDigits 0 (Nat.toDigits 10 n) = n := by
  rw [ofDigits_eq, Nat.ofDigitChars_ten_toDigits]

end Decimal

namespace Json

/-- Decimal digits that may stand before the point: at least one, and a zero only alone. -/
structure WholeDigits (ds : List Char) : Prop where
  ne_nil : ds ≠ []
  isDigit : ∀ x ∈ ds, x.isDigit = true
  zero : ds.head? = some '0' → ds = ['0']

lemma wholeDigits_toDigits (n : ℕ) : WholeDigits (Nat.toDigits 10 n) := by
  refine ⟨Nat.toDigits_ne_nil,
    fun x hx => Nat.isDigit_of_mem_toDigits (by decide) (Nat.le_refl _) hx, ?_⟩
  -- by the leading digits, which are those of a smaller number
  induction n using Nat.strongRecOn with
  | ind n ih =>
    rcases Nat.lt_or_ge n 10 with hn | hn
    · rw [Nat.toDigits_of_lt_base hn]
      intro h
      exact congrArg (fun c => [c]) (Option.some.inj h)
    · rw [Nat.toDigits_of_base_le (by decide) hn,
        List.head?_append_of_ne_nil _ Nat.toDigits_ne_nil]
      intro h
      have hzero := congrArg (Decimal.ofDigits 0) (ih (n / 10) (by omega) h)
      rw [Decimal.ofDigits_toDigits] at hzero
      have : Decimal.ofDigits 0 ['0'] = 0 := rfl
      omega

/-- Digits are gathered completely when their number fits into 64 bits. -/
lemma gather_eq {s : ℕ} {ds : List Char} (h : Decimal.ofDigits s ds ≤ maxWord) :
    gather s ds = (Decimal.ofDigits s ds, ds.length) := by
  induction ds generalizing s with
  | nil => rfl
  | cons d ds ih =>
    have hd : 10 * s + digitValue d ≤ maxWord := Nat.le_trans (Decimal.le_ofDigits _ ds) h
    have hrest : gather (10 * s + digitValue d) ds =
        (Decimal.ofDigits s (d :: ds), ds.length) := ih h
    simp only [gather, if_pos hd, hrest, List.length_cons]

/-! ## Splitting a numeral -/

/-- Whether a character may come next in a numeral that has begun. -/
def continuesNumeral (c : Char) : Bool := c.isDigit || c = '.' || c = 'e' || c = 'E'

/-- A numeral is at its end: no character comes next that would belong to it. -/
def Closed (rest : List Char) : Prop := ∀ x ∈ rest.head?, continuesNumeral x = false

lemma closed_nil : Closed [] := by simp [Closed]

lemma closed_cons {x : Char} (h : continuesNumeral x = false) (rest : List Char) :
    Closed (x :: rest) := by
  simpa [Closed] using h

variable {rest ds : List Char} {p : Position}

lemma readDigits_append (atEnd : Cause) (hne : ds ≠ []) (hds : ∀ x ∈ ds, x.isDigit = true)
    (hrest : ∀ x ∈ rest.head?, x.isDigit = false) :
    readDigits atEnd ⟨ds ++ rest, p⟩ = .ok (ds, ⟨rest, p.past ds⟩) := by
  have hdigits : Cursor.digits ⟨ds ++ rest, p⟩ = ds := by
    rw [Cursor.digits, List.takeWhile_append_of_pos hds]
    cases rest with
    | nil => simp
    | cons y ys => simp [hrest y (by simp)]
  have hskip : Cursor.skipDigits ⟨ds ++ rest, p⟩ = ⟨rest, p.past ds⟩ :=
    Cursor.dropWhile_append hds hrest
  obtain ⟨d, ds', rfl⟩ := List.exists_cons_of_ne_nil hne
  rw [List.cons_append] at hdigits hskip ⊢
  simp only [readDigits, hds d List.mem_cons_self, if_true, hdigits, hskip]

lemma readWhole_append (atEnd : Cause) (h : WholeDigits ds)
    (hrest : ∀ x ∈ rest.head?, x.isDigit = false) :
    readWhole atEnd ⟨ds ++ rest, p⟩ = .ok (ds, ⟨rest, p.past ds⟩) := by
  by_cases hz : ds.head? = some '0'
  · rw [h.zero hz]
    cases rest with
    | nil => rfl
    | cons y ys => simp [readWhole, hrest y (by simp)]
  · have hhead : (ds ++ rest).head? ≠ some '0' := by
      rwa [List.head?_append_of_ne_nil _ h.ne_nil]
    rw [readWhole, if_neg hhead, readDigits_append atEnd h.ne_nil h.isDigit hrest]

namespace Numeral

/-- A numeral that can be written without an exponent. -/
structure Plain (n : Numeral) : Prop where
  whole : WholeDigits n.whole
  fraction : ∀ f ∈ n.fraction, f ≠ [] ∧ ∀ x ∈ f, x.isDigit = true
  exponent : n.exponent = none

/-- A numeral that can be written. -/
structure Proper (n : Numeral) : Prop where
  whole : WholeDigits n.whole
  fraction : ∀ f ∈ n.fraction, f ≠ [] ∧ ∀ x ∈ f, x.isDigit = true
  exponent : ∀ e ∈ n.exponent, e.2 ≠ [] ∧ ∀ x ∈ e.2, x.isDigit = true

/-- The digits after the point, if there are any. -/
def decimals (n : Numeral) : List Char := n.fraction.getD []

/-- The point and the digits after it, if there is a point. -/
def fractionChars (n : Numeral) : List Char := (n.fraction.map ('.' :: ·)).getD []

/-- The exponent with its sign, if there is one. -/
def exponentChars (n : Numeral) : List Char :=
  (n.exponent.map fun (negative, ds) => 'e' :: (if negative then '-' else '+') :: ds).getD []

/-- How a numeral is written without an exponent. -/
def plainChars (n : Numeral) : List Char :=
  (if n.negative then ['-'] else []) ++ n.whole ++ n.fractionChars

/-- How a numeral is written. -/
def chars (n : Numeral) : List Char := n.plainChars ++ n.exponentChars

variable {n : Numeral}

lemma Plain.proper (h : n.Plain) : n.Proper := ⟨h.whole, h.fraction, by simp [h.exponent]⟩

lemma Plain.chars_eq (h : n.Plain) : n.chars = n.plainChars := by
  simp [chars, exponentChars, h.exponent]

/-- A numeral begins with a minus sign or a digit. -/
lemma Plain.exists_cons (h : n.Plain) :
    ∃ x xs, n.plainChars = x :: xs ∧ (x = '-' ∨ x.isDigit = true) := by
  obtain ⟨d, ds, hd⟩ := List.exists_cons_of_ne_nil h.whole.ne_nil
  have hdigit : d.isDigit = true := h.whole.isDigit d (hd ▸ List.mem_cons_self)
  rw [plainChars, hd]
  cases n.negative with
  | false => exact ⟨d, _, rfl, .inr hdigit⟩
  | true => exact ⟨'-', _, rfl, .inl rfl⟩

/-- Where the exponent begins, or the numeral is at its end, neither a digit nor a point comes. -/
lemma head_exponentChars (n : Numeral) (hrest : Closed rest) :
    ∀ x ∈ (n.exponentChars ++ rest).head?, x.isDigit = false ∧ x ≠ '.' := by
  cases he : n.exponent with
  | none =>
    intro x hx
    have hx' := hrest x (by simpa [exponentChars, he] using hx)
    simp_all [continuesNumeral]
  | some e =>
    intro x hx
    obtain rfl : 'e' = x := by simpa [exponentChars, he] using hx
    decide

lemma readFraction_fractionChars (atEnd : Cause) (h : n.Proper)
    (hrest : ∀ x ∈ rest.head?, x.isDigit = false ∧ x ≠ '.') :
    readFraction atEnd ⟨n.fractionChars ++ rest, p⟩ =
      .ok (n.fraction, ⟨rest, p.past n.fractionChars⟩) := by
  cases hf : n.fraction with
  | none =>
    have hpoint : rest.head? ≠ some '.' := fun hp => (hrest '.' hp).2 rfl
    simp [readFraction, fractionChars, hf, hpoint]
  | some f =>
    obtain ⟨hne, hdigits⟩ := h.fraction f hf
    simp [readFraction, fractionChars, hf,
      readDigits_append atEnd hne hdigits fun x hx => (hrest x hx).1, bind, Except.bind]

lemma readExponent_of_closed (atEnd : Cause) (hrest : Closed rest) :
    readExponent atEnd ⟨rest, p⟩ = .ok (none, ⟨rest, p⟩) := by
  have he : rest.head? ≠ some 'e' := fun h => by simpa [continuesNumeral] using hrest 'e' h
  have hE : rest.head? ≠ some 'E' := fun h => by simpa [continuesNumeral] using hrest 'E' h
  rw [readExponent, if_neg (by simp [he, hE])]

lemma readExponent_exponentChars (atEnd : Cause) (h : n.Proper) (hrest : Closed rest) :
    readExponent atEnd ⟨n.exponentChars ++ rest, p⟩ =
      .ok (n.exponent, ⟨rest, p.past n.exponentChars⟩) := by
  cases he : n.exponent with
  | none =>
    rw [exponentChars, he]
    exact readExponent_of_closed atEnd hrest
  | some e =>
    obtain ⟨negative, ds⟩ := e
    obtain ⟨hne, hdigits⟩ := h.exponent _ he
    have hstop : ∀ x ∈ rest.head?, x.isDigit = false := fun x hx => by
      have := hrest x hx
      simp_all [continuesNumeral]
    have hread : ∀ q, readDigits atEnd ⟨ds ++ rest, q⟩ = .ok (ds, ⟨rest, q.past ds⟩) :=
      fun _ => readDigits_append atEnd hne hdigits hstop
    cases negative <;> simp [readExponent, exponentChars, he, hread, bind, Except.bind]

/-- **A numeral is split into its digits.** -/
lemma readNumeral_chars (atEnd : Cause) (h : n.Proper) (hrest : Closed rest) :
    readNumeral atEnd ⟨n.chars ++ rest, p⟩ = .ok (n, ⟨rest, p.past n.chars⟩) := by
  have hhead := n.head_exponentChars hrest
  have hstop : ∀ x ∈ (n.fractionChars ++ (n.exponentChars ++ rest)).head?, x.isDigit = false := by
    cases hf : n.fraction with
    | none =>
      intro x hx
      exact (hhead x (by simpa [fractionChars, hf] using hx)).1
    | some f => simp [fractionChars, hf]
  have hminus : (n.whole ++ (n.fractionChars ++ (n.exponentChars ++ rest))).head? ≠ some '-' := by
    rw [List.head?_append_of_ne_nil _ h.whole.ne_nil]
    intro hm
    exact absurd (h.whole.isDigit '-' (List.mem_of_head? hm)) (by decide)
  have hwhole := fun p => readWhole_append (p := p) atEnd h.whole hstop
  have hfraction := fun p => readFraction_fractionChars (p := p) atEnd h hhead
  have hexponent := fun p => readExponent_exponentChars (p := p) atEnd h hrest
  rw [chars, plainChars, List.append_assoc, List.append_assoc, List.append_assoc]
  cases hneg : n.negative with
  | false =>
    rw [if_neg Bool.false_ne_true, List.nil_append]
    simp only [readNumeral, hminus, decide_false, if_false, hwhole, hfraction, hexponent, bind,
      Except.bind, ← hneg, Position.past_append, Position.past_nil]
  | true =>
    simp [readNumeral, hwhole, hfraction, hexponent, bind, Except.bind, ← hneg]

/-- The digits before the point and those after it are gathered completely when their number fits
into 64 bits. -/
lemma gather_decimals (h : Decimal.ofDigits 0 (n.whole ++ n.decimals) ≤ maxWord) :
    gather 0 n.whole = (Decimal.ofDigits 0 n.whole, n.whole.length) ∧
    gather (Decimal.ofDigits 0 n.whole) n.decimals =
      (Decimal.ofDigits 0 (n.whole ++ n.decimals), n.decimals.length) := by
  rw [Decimal.ofDigits_append] at h ⊢
  exact ⟨gather_eq (Nat.le_trans (Decimal.le_ofDigits _ _) h), gather_eq h⟩

end Numeral

/-- A numeral is read as its value. -/
lemma readNumber_chars {n : Numeral} {x : Number} (h : n.Proper) (hx : n.value? = some x)
    (hrest : Closed rest) :
    readNumber ⟨n.chars ++ rest, p⟩ = .ok (x, ⟨rest, p.past n.chars⟩) := by
  rw [readNumber, n.readNumeral_chars .endInValue h hrest]
  simp [bind, Except.bind, hx]

/-- So is one without an exponent. -/
lemma readNumber_plainChars {n : Numeral} {x : Number} (h : n.Plain) (hx : n.value? = some x)
    (hrest : Closed rest) :
    readNumber ⟨n.plainChars ++ rest, p⟩ = .ok (x, ⟨rest, p.past n.plainChars⟩) := by
  rw [← h.chars_eq]
  exact readNumber_chars h.proper hx hrest

/-! ## Whole numbers -/

/-- How a whole number is written. -/
def Numeral.ofInt (z : ℤ) : Numeral := ⟨z < 0, Nat.toDigits 10 z.natAbs, none, none⟩

/-- A whole number that fits into 64 bits, with a sign or without one. -/
def Number.Whole (n : Number) : Prop :=
  ∃ z : ℤ, n = .integer z ∧ -2 ^ 63 ≤ z ∧ z < 2 ^ 64

lemma value?_ofInt {z : ℤ} (hlow : -2 ^ 63 ≤ z) (hhigh : z < 2 ^ 64) :
    (Numeral.ofInt z).value? = some (.integer z) := by
  have hn : Decimal.ofDigits 0 (Nat.toDigits 10 z.natAbs) = z.natAbs :=
    Decimal.ofDigits_toDigits _
  have hfits : Decimal.ofDigits 0 (Nat.toDigits 10 z.natAbs) ≤ maxWord := by
    rw [hn, maxWord]
    omega
  have hgather := gather_eq hfits
  rw [hn] at hgather
  simp only [Numeral.value?, Numeral.ofInt, hgather, Nat.sub_self, and_self, if_true]
  by_cases hz : z < 0
  · have hpos : 0 < z.natAbs ∧ z.natAbs ≤ maxSigned + 1 := by
      rw [maxSigned]
      omega
    simp only [hz, decide_true, Bool.not_true, Bool.false_eq_true, if_false, if_pos hpos]
    congr 2
    omega
  · simp only [hz, decide_false, Bool.not_false, if_true]
    congr 2
    omega

/-- **A whole number that fits into 64 bits is read as itself.** -/
lemma Number.Whole.readNumber_chars {n : Number} (h : n.Whole) (hrest : Closed rest) :
    readNumber ⟨n.chars ++ rest, p⟩ = .ok (n, ⟨rest, p.past n.chars⟩) := by
  obtain ⟨z, rfl, hlow, hhigh⟩ := h
  have hchars : intChars z = (Numeral.ofInt z).plainChars := by
    simp [intChars, Numeral.plainChars, Numeral.ofInt, Numeral.fractionChars]
  rw [Number.chars, hchars]
  exact readNumber_plainChars ⟨wholeDigits_toDigits _, by simp [Numeral.ofInt], rfl⟩
    (value?_ofInt hlow hhigh) hrest

end Json

end LinkWatch
