/-
# What the reader passes

When a part of the reader succeeds, it has passed just the characters of what it reads: a mark with
the blanks before it, a word, a string up to its closing quote, or a numeral.  Each statement is of
the form "the rest before is these characters and the rest after", so that they can be put one after
the other.
-/
import LinkWatch.Proofs.Json.ReadBack
import LinkWatch.Proofs.Json.Grammar
import Mathlib.Data.List.TakeWhile

namespace LinkWatch.Json

variable {c c' : Cursor}

/-! ## Moves -/

namespace Cursor

lemma rest_eq_cons_next {x : Char} {xs : List Char} (h : c.rest = x :: xs) :
    c.rest = x :: c.next.rest := by
  rw [next, h]

lemma rest_eq_dropWhile (f : Char → Bool) (c : Cursor) :
    c.rest = c.rest.takeWhile f ++ (c.dropWhile f).rest :=
  List.takeWhile_append_dropWhile.symm

/-- Blanks are passed up to something else. -/
lemma exists_gap (c : Cursor) :
    ∃ g, Gap g ∧ c.rest = g ++ c.skipGap.rest ∧ Solid c.skipGap.rest := by
  refine ⟨c.rest.takeWhile isGap, fun _ hx => List.mem_takeWhile_imp hx,
    rest_eq_dropWhile isGap c, fun x hx => ?_⟩
  have hhead := List.head?_dropWhile_not isGap c.rest
  rw [show (c.rest.dropWhile isGap).head? = some x from hx] at hhead
  exact hhead

lemma skipGap_rest_of_solid (h : Solid c.rest) : c.skipGap.rest = c.rest := by
  obtain ⟨cs, p⟩ := c
  rw [skipGap_of_solid h]

lemma nextItem?_some {first : Bool} (h : nextItem? first c = .ok (some c')) :
    ∃ g k, Gap g ∧ Gap k ∧ Solid c'.rest ∧ c.rest = g ++ separator first k ++ c'.rest := by
  obtain ⟨g, hg, hrest, hsolid⟩ := c.exists_gap
  simp only [nextItem?] at h
  split at h
  · cases h
  next x xs hx =>
    split at h
    · cases h
    split at h
    next hfirst =>
      obtain rfl : c.skipGap = c' := Option.some.inj (Except.ok.inj h)
      exact ⟨g, [], hg, gap_nil, hsolid, by simpa [separator, hfirst] using hrest⟩
    next hfirst =>
      split at h
      next hcomma =>
        obtain ⟨k, hk, hrest', hsolid'⟩ := c.skipGap.next.exists_gap
        split at h
        · cases h
        split at h
        · cases h
        obtain rfl : c.skipGap.next.skipGap = c' := Option.some.inj (Except.ok.inj h)
        refine ⟨g, k, hg, hk, hsolid', ?_⟩
        rw [hrest, rest_eq_cons_next hx, hcomma, hrest']
        simp [separator, hfirst]
      · cases h

lemma nextName?_some {first : Bool} (h : nextName? first c = .ok (some c')) :
    ∃ g k, Gap g ∧ Gap k ∧ c.rest = g ++ separator first k ++ '"' :: c'.rest := by
  obtain ⟨g, hg, hrest, -⟩ := c.exists_gap
  simp only [nextName?] at h
  split at h
  · cases h
  next x xs hx =>
    split at h
    · cases h
    split at h
    next hfirst =>
      split at h
      next hquote =>
        obtain rfl : c.skipGap.next = c' := Option.some.inj (Except.ok.inj h)
        refine ⟨g, [], hg, gap_nil, ?_⟩
        rw [hrest, rest_eq_cons_next hx, hquote]
        simp [separator, hfirst]
      · cases h
    next hfirst =>
      split at h
      next hcomma =>
        obtain ⟨k, hk, hrest', -⟩ := c.skipGap.next.exists_gap
        split at h
        · cases h
        next y ys hy =>
          split at h
          next hquote =>
            obtain rfl : c.skipGap.next.skipGap.next = c' := Option.some.inj (Except.ok.inj h)
            refine ⟨g, k, hg, hk, ?_⟩
            rw [hrest, rest_eq_cons_next hx, hcomma, hrest', rest_eq_cons_next hy, hquote]
            simp [separator, hfirst]
          · split at h <;> cases h
      · cases h

lemma skipColon_ok (h : skipColon c = .ok c') : ∃ g, Gap g ∧ c.rest = g ++ ':' :: c'.rest := by
  obtain ⟨g, hg, hrest, -⟩ := c.exists_gap
  simp only [skipColon] at h
  split at h
  · cases h
  next x xs hx =>
    split at h
    next hcolon =>
      cases h
      exact ⟨g, hg, by rw [hrest, rest_eq_cons_next hx, hcolon]⟩
    · cases h

lemma closeList_ok (h : closeList c = .ok c') : ∃ g, Gap g ∧ c.rest = g ++ ']' :: c'.rest := by
  obtain ⟨g, hg, hrest, -⟩ := c.exists_gap
  simp only [closeList] at h
  split at h
  · cases h
  next x xs hx =>
    split at h
    next hclose =>
      cases h
      exact ⟨g, hg, by rw [hrest, rest_eq_cons_next hx, hclose]⟩
    · split at h <;> cases h

lemma closeObject_ok (h : closeObject c = .ok c') : ∃ g, Gap g ∧ c.rest = g ++ '}' :: c'.rest := by
  obtain ⟨g, hg, hrest, -⟩ := c.exists_gap
  simp only [closeObject] at h
  split at h
  · cases h
  next x xs hx =>
    split at h
    next hclose =>
      cases h
      exact ⟨g, hg, by rw [hrest, rest_eq_cons_next hx, hclose]⟩
    · cases h

lemma finish_ok (h : finish c = .ok ()) : Gap c.rest := by
  obtain ⟨g, hg, hrest, -⟩ := c.exists_gap
  simp only [finish] at h
  split at h
  next hend =>
    rw [hend, List.append_nil] at hrest
    rwa [hrest]
  · cases h

end Cursor

open Cursor

/-! ## Words and strings -/

lemma skipWord_ok {letters : List Char} (h : skipWord letters c = .ok c') :
    c.rest = letters ++ c'.rest := by
  induction letters generalizing c with
  | nil =>
    cases h
    rfl
  | cons letter more ih =>
    simp only [skipWord] at h
    split at h
    · cases h
    next x xs hx =>
      split at h
      next hletter => rw [rest_eq_cons_next hx, ih h, hletter, List.cons_append]
      · cases h

/-- Only a hexadecimal digit has a value, and it takes one byte. -/
lemma hexDigit_of_hexValue? {x : Char} {d : ℕ} (h : hexValue? x = some d) :
    HexDigit d x ∧ x.utf8Size = 1 := by
  have hall : ∀ n < 128, ∀ d ∈ hexValue? (Char.ofNat n),
      ("0123456789abcdef".toList[d]? = some (Char.ofNat n) ∨
        "0123456789ABCDEF".toList[d]? = some (Char.ofNat n)) ∧ (Char.ofNat n).utf8Size = 1 := by
    decide
  have hsmall : x.toNat < 128 := by
    have hle : ∀ {y : Char}, x ≤ y → y.toNat < 128 → x.toNat < 128 := fun hxy hy =>
      Nat.lt_of_le_of_lt (UInt32.le_iff_toNat_le.mp (Char.le_def.mp hxy)) hy
    unfold hexValue? at h
    split at h
    next hdigit =>
      simp only [Char.isDigit, Bool.and_eq_true, decide_eq_true_eq] at hdigit
      exact hle (y := '9') hdigit.2 (by decide)
    split at h
    next hsmall => exact hle hsmall.2 (by decide)
    split at h
    next hcapital => exact hle hcapital.2 (by decide)
    · cases h
  have hx := hall x.toNat hsmall d
  rw [Char.ofNat_toNat] at hx
  exact hx h

lemma byteSize_of_hexNumber? {high n : ℕ} {cs : List Char} (h : hexNumber? high cs = some n) :
    Text.byteSize cs = cs.length := by
  induction cs generalizing high with
  | nil => rfl
  | cons x cs ih =>
    obtain ⟨d, hd, hn⟩ := Option.bind_eq_some_iff.mp h
    rw [Text.byteSize_cons, (hexDigit_of_hexValue? hd).2, ih hn, List.length_cons, Nat.add_comm]

lemma hexText_of_hexNumber? {n : ℕ} {four : List Char} (hlen : four.length = 4)
    (h : hexNumber? 0 four = some n) : HexText n four := by
  obtain ⟨w, x, y, z, rfl⟩ := List.length_eq_four.mp hlen
  simp only [hexNumber?, Option.bind_eq_some_iff, Nat.mul_zero, Nat.zero_add,
    Option.some.injEq] at h
  obtain ⟨a, ha, b, hb, c, hc, d, hd, rfl⟩ := h
  exact .digits (hexDigit_of_hexValue? ha).1 (hexDigit_of_hexValue? hb).1
    (hexDigit_of_hexValue? hc).1 (hexDigit_of_hexValue? hd).1

lemma readHex_ok {n : ℕ} (h : readHex c = .ok (n, c')) :
    ∃ four, HexText n four ∧ c.rest = four ++ c'.rest := by
  simp only [readHex] at h
  split at h
  · cases h
  next hbytes =>
    split at h
    next m hm =>
      cases h
      have hlen : (c.rest.take 4).length ≤ 4 := List.length_take_le _ _
      have hsize := byteSize_of_hexNumber? hm
      exact ⟨c.rest.take 4, hexText_of_hexNumber? (by omega) hm,
        (List.take_append_drop 4 c.rest).symm⟩
    · cases h

lemma skipInPair_ok {x : Char} (h : skipInPair x c = .ok c') : c.rest = x :: c'.rest := by
  simp only [skipInPair] at h
  split at h
  · cases h
  next y ys hy =>
    split at h
    next hyx =>
      cases h
      rw [rest_eq_cons_next hy, hyx]
    · cases h

/-- One bind of the reader that succeeds. -/
lemma exists_of_bind_eq_ok {α β : Type} {x : Except Error α} {f : α → Except Error β} {b : β}
    (h : x.bind f = .ok b) : ∃ a, x = .ok a ∧ f a = .ok b := by
  cases x with
  | error e => cases h
  | ok a => exact ⟨a, rfl, h⟩

/-- The characters are parts of a string. -/
def Parts (cs : List Char) : Prop :=
  ∃ parts : List (List Char), (∀ part ∈ parts, StringPart part) ∧ cs = parts.flatten

lemma parts_nil : Parts [] := ⟨[], by simp, rfl⟩

lemma StringPart.parts {part : List Char} (h : StringPart part) : Parts part :=
  ⟨[part], by simpa using h, by simp⟩

lemma Parts.append {cs ds : List Char} (hcs : Parts cs) (hds : Parts ds) : Parts (cs ++ ds) := by
  obtain ⟨parts, hparts, rfl⟩ := hcs
  obtain ⟨more, hmore, rfl⟩ := hds
  refine ⟨parts ++ more, fun part hpart => ?_, List.flatten_append.symm⟩
  exact (List.mem_append.mp hpart).elim (hparts part) (hmore part)

lemma readUnicodeEscape_ok {y : Char} (h : readUnicodeEscape c = .ok (y, c')) :
    ∃ cs, Parts ('\\' :: 'u' :: cs) ∧ c.rest = cs ++ c'.rest := by
  obtain ⟨⟨n, c₁⟩, hn, h⟩ := exists_of_bind_eq_ok h
  obtain ⟨four, hfour, hrest⟩ := readHex_ok hn
  have hfirst : Parts ('\\' :: 'u' :: four) := (StringPart.unicode hfour).parts
  dsimp only at h
  split at h
  · cases h
  split at h
  · obtain ⟨c₂, h₂, h⟩ := exists_of_bind_eq_ok h
    obtain ⟨c₃, h₃, h⟩ := exists_of_bind_eq_ok h
    obtain ⟨⟨m, c₄⟩, hm, h⟩ := exists_of_bind_eq_ok h
    obtain ⟨low, hlow, hrest'⟩ := readHex_ok hm
    dsimp only at h
    split at h
    · obtain ⟨-, rfl⟩ := Prod.mk.inj (Except.ok.inj h)
      refine ⟨four ++ '\\' :: 'u' :: low, hfirst.append (StringPart.unicode hlow).parts, ?_⟩
      rw [hrest, skipInPair_ok h₂, skipInPair_ok h₃, hrest']
      simp
    · cases h
  · cases h
    exact ⟨four, hfirst, hrest⟩

lemma mem_shortEscapes {x y : Char} (h : shortEscape? x = some y) : (x, y) ∈ shortEscapes := by
  unfold shortEscape? at h
  split at h
  next hself =>
    cases h
    rcases hself with rfl | rfl | rfl <;> simp [shortEscapes]
  iterate 5
    split at h
    next hx =>
      cases h
      simp [hx, shortEscapes]
  cases h

lemma readEscape_ok {y : Char} (h : readEscape c = .ok (y, c')) :
    ∃ cs, Parts ('\\' :: cs) ∧ c.rest = cs ++ c'.rest := by
  simp only [readEscape] at h
  split at h
  · cases h
  next x xs hx =>
    split at h
    next hu =>
      obtain ⟨cs, hcs, hrest⟩ := readUnicodeEscape_ok h
      exact ⟨'u' :: cs, hcs, by rw [rest_eq_cons_next hx, hu, hrest, List.cons_append]⟩
    split at h
    next y' hy =>
      cases h
      exact ⟨[x], (StringPart.short (mem_shortEscapes hy)).parts, rest_eq_cons_next hx⟩
    · cases h

/-- The rest of a string is parts of it up to a quote. -/
lemma readChars_ok {fuel : ℕ} {done : List Char} {s : String}
    (h : readChars fuel done c = .ok (s, c')) :
    ∃ cs, Parts cs ∧ c.rest = cs ++ '"' :: c'.rest := by
  induction fuel generalizing done c with
  | zero => cases h
  | succ fuel ih =>
    simp only [readChars] at h
    split at h
    · cases h
    next x xs hx =>
      split at h
      next hquote =>
        cases h
        exact ⟨[], parts_nil, by rw [rest_eq_cons_next hx, hquote, List.nil_append]⟩
      next hquote =>
      split at h
      next hslash =>
        obtain ⟨⟨y, c₁⟩, hy, h⟩ := exists_of_bind_eq_ok h
        obtain ⟨escape, hescape, hrest⟩ := readEscape_ok hy
        obtain ⟨cs, hcs, hrest'⟩ := ih h
        refine ⟨'\\' :: escape ++ cs, hescape.append hcs, ?_⟩
        rw [rest_eq_cons_next hx, hslash, hrest, hrest']
        simp
      next hslash =>
      split at h
      · cases h
      next hcontrol =>
        obtain ⟨cs, hcs, hrest⟩ := ih h
        have hx' : StringPart [x] := .literal ⟨hquote, hslash, Nat.not_lt.mp hcontrol⟩
        exact ⟨x :: cs, hx'.parts.append hcs, by rw [rest_eq_cons_next hx, hrest, List.cons_append]⟩

/-- A string is passed up to its closing quote. -/
lemma readString_ok {s : String} (h : readString c = .ok (s, c')) :
    ∃ cs, StringText ('"' :: cs) ∧ c.rest = cs ++ c'.rest := by
  obtain ⟨cs, ⟨parts, hparts, rfl⟩, hrest⟩ := readChars_ok h
  exact ⟨parts.flatten ++ ['"'], ⟨parts, hparts, rfl⟩, by rw [hrest]; simp⟩

/-! ## Numerals -/

lemma readDigits_ok {atEnd : Cause} {ds : List Char} (h : readDigits atEnd c = .ok (ds, c')) :
    Digits ds ∧ c.rest = ds ++ c'.rest := by
  simp only [readDigits] at h
  split at h
  · cases h
  next x xs hx =>
    split at h
    next hdigit =>
      cases h
      refine ⟨⟨?_, fun y hy => List.mem_takeWhile_imp hy⟩, rest_eq_dropWhile Char.isDigit c⟩
      simp [digits, hx, hdigit]
    · cases h

lemma readWhole_ok {atEnd : Cause} {ds : List Char} (h : readWhole atEnd c = .ok (ds, c')) :
    WholeDigits ds ∧ c.rest = ds ++ c'.rest := by
  have hzero : WholeDigits ['0'] := ⟨by simp, by simp, by simp⟩
  simp only [readWhole] at h
  split at h
  next hhead =>
    obtain ⟨xs, hx⟩ := List.head?_eq_some_iff.mp hhead
    split at h
    · cases h
      exact ⟨hzero, rest_eq_cons_next hx⟩
    · split at h
      · cases h
      · cases h
        exact ⟨hzero, rest_eq_cons_next hx⟩
  next hhead =>
    obtain ⟨⟨hne, hdigits⟩, hrest⟩ := readDigits_ok h
    refine ⟨⟨hne, hdigits, fun hz => absurd ?_ hhead⟩, hrest⟩
    rw [hrest, List.head?_append_of_ne_nil _ hne, hz]

lemma readFraction_ok {atEnd : Cause} {f : Option (List Char)}
    (h : readFraction atEnd c = .ok (f, c')) :
    ∃ cs, FractionText cs ∧ c.rest = cs ++ c'.rest := by
  simp only [readFraction] at h
  split at h
  next hhead =>
    obtain ⟨xs, hx⟩ := List.head?_eq_some_iff.mp hhead
    obtain ⟨⟨ds, c₁⟩, hds, h⟩ := exists_of_bind_eq_ok h
    cases h
    obtain ⟨hdigits, hrest⟩ := readDigits_ok hds
    exact ⟨'.' :: ds, .digits hdigits, by rw [rest_eq_cons_next hx, hrest, List.cons_append]⟩
  · cases h
    exact ⟨[], .absent, rfl⟩

lemma readExponent_ok {atEnd : Cause} {e : Option (Bool × List Char)}
    (h : readExponent atEnd c = .ok (e, c')) :
    ∃ cs, ExponentText cs ∧ c.rest = cs ++ c'.rest := by
  simp only [readExponent] at h
  split at h
  next hhead =>
    obtain ⟨x, hx, hmark⟩ : ∃ x, c.rest.head? = some x ∧ (x = 'e' ∨ x = 'E') :=
      hhead.elim (fun hx => ⟨_, hx, .inl rfl⟩) fun hx => ⟨_, hx, .inr rfl⟩
    obtain ⟨xs, hx⟩ := List.head?_eq_some_iff.mp hx
    obtain ⟨⟨ds, c₁⟩, hds, h⟩ := exists_of_bind_eq_ok h
    cases h
    obtain ⟨hdigits, hrest⟩ := readDigits_ok hds
    obtain ⟨sign, hsign, hnext⟩ : ∃ sign, (sign = [] ∨ sign = ['+'] ∨ sign = ['-']) ∧
        c.next.rest = sign ++ (ds ++ c₁.rest) := by
      split at hrest
      next hsign =>
        rcases hsign with hminus | hplus
        · obtain ⟨ys, hy⟩ := List.head?_eq_some_iff.mp hminus
          exact ⟨['-'], .inr (.inr rfl), by rw [rest_eq_cons_next hy, hrest, List.singleton_append]⟩
        · obtain ⟨ys, hy⟩ := List.head?_eq_some_iff.mp hplus
          exact ⟨['+'], .inr (.inl rfl), by rw [rest_eq_cons_next hy, hrest, List.singleton_append]⟩
      · exact ⟨[], .inl rfl, hrest⟩
    exact ⟨x :: (sign ++ ds), .digits hmark hsign hdigits, by
      rw [rest_eq_cons_next hx, hnext]
      simp⟩
  · cases h
    exact ⟨[], .absent, rfl⟩

/-- A numeral is passed. -/
lemma readNumeral_ok {atEnd : Cause} {n : Numeral} (h : readNumeral atEnd c = .ok (n, c')) :
    ∃ cs, NumeralText cs ∧ c.rest = cs ++ c'.rest := by
  obtain ⟨⟨whole, c₁⟩, hw, h⟩ := exists_of_bind_eq_ok h
  obtain ⟨⟨fraction, c₂⟩, hf, h⟩ := exists_of_bind_eq_ok h
  obtain ⟨⟨exponent, c₃⟩, he, h⟩ := exists_of_bind_eq_ok h
  cases h
  obtain ⟨hwhole, hrest₁⟩ := readWhole_ok hw
  obtain ⟨fs, hfraction, hrest₂⟩ := readFraction_ok hf
  obtain ⟨es, hexponent, hrest₃⟩ := readExponent_ok he
  obtain ⟨sign, hsign, hrest⟩ : ∃ sign, (sign = [] ∨ sign = ['-']) ∧
      c.rest = sign ++ (whole ++ c₁.rest) := by
    split at hrest₁
    next hs =>
      obtain ⟨ys, hy⟩ := List.head?_eq_some_iff.mp hs
      exact ⟨['-'], .inr rfl, by rw [rest_eq_cons_next hy, hrest₁, List.singleton_append]⟩
    · exact ⟨[], .inl rfl, hrest₁⟩
  refine ⟨sign ++ (whole ++ (fs ++ es)), .parts hsign hwhole hfraction hexponent, ?_⟩
  rw [hrest, hrest₂, hrest₃]
  simp

lemma gather_le {s : ℕ} (ds : List Char) (h : s ≤ maxWord) : (gather s ds).1 ≤ maxWord := by
  induction ds generalizing s with
  | nil => exact h
  | cons d ds ih =>
    simp only [gather]
    split
    next hfits => exact ih hfits
    · exact h

/-- A number that the reader can make: a whole number of 64 bits, or a floating-point number. -/
def Number.Readable (n : Number) : Prop := n.Whole ∨ ∃ x, n = .real x

lemma Numeral.readable_of_value? {n : Numeral} {x : Number} (h : n.value? = some x) :
    x.Readable := by
  have hle := gather_le (s := 0) n.whole (Nat.zero_le _)
  have hreal : ∀ {y : Option Binary64}, y.map Number.real = some x → x.Readable := by
    intro y hy
    obtain ⟨z, -, rfl⟩ := Option.map_eq_some_iff.mp hy
    exact .inr ⟨z, rfl⟩
  simp only [Numeral.value?] at h
  rw [maxWord] at hle
  split at h
  · split at h
    · cases h
      exact .inl ⟨_, rfl, by omega, by omega⟩
    split at h
    next hfits =>
      cases h
      rw [maxSigned] at hfits
      exact .inl ⟨_, rfl, by omega, by omega⟩
    · exact hreal h
  · exact hreal h

/-- A numeral is passed, and the number is one of those that the reader makes. -/
lemma readNumber_ok {x : Number} (h : readNumber c = .ok (x, c')) :
    (∃ cs, NumeralText cs ∧ c.rest = cs ++ c'.rest) ∧ x.Readable := by
  obtain ⟨⟨n, c₁⟩, hn, h⟩ := exists_of_bind_eq_ok h
  dsimp only at h
  split at h
  next hx =>
    cases h
    exact ⟨readNumeral_ok hn, n.readable_of_value? hx⟩
  · cases h

end LinkWatch.Json
