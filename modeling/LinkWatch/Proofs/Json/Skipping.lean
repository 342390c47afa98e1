/-
# Values that are skipped

A value that nobody asked for is skipped, whatever it is: any text of a value is passed up to its
end, provided that what follows does not belong to a numeral at the end of it.  The brackets that
are open are kept in a list, so that nesting costs no depth; every step passes a character at least,
and the length of the text is enough of them (`ValueText.skipNested_eq`).

The name before such a value is read, so it has to spell a string (`StringSpelled.readString_eq`).
-/
import LinkWatch.Json.Skip
import LinkWatch.Proofs.Json.Grammar
import LinkWatch.Proofs.Json.ReadBack

namespace LinkWatch.Json

variable {p : Position} {rest : List Char}

/-! ## Numeric escapes -/

lemma HexDigit.hexValue?_eq {n : ℕ} {c : Char} (h : HexDigit n c) : hexValue? c = some n := by
  have hsmall : ∀ n, (hn : n < 16) → hexValue? ("0123456789abcdef".toList[n]) = some n := by
    decide
  have hcapital : ∀ n, (hn : n < 16) → hexValue? ("0123456789ABCDEF".toList[n]) = some n := by
    decide
  rcases h with h | h
  · obtain ⟨hn, rfl⟩ := List.getElem?_eq_some_iff.mp h
    exact hsmall n hn
  · obtain ⟨hn, rfl⟩ := List.getElem?_eq_some_iff.mp h
    exact hcapital n hn

lemma HexText.readHex_eq {n : ℕ} {four : List Char} (h : HexText n four) :
    readHex ⟨four ++ rest, p⟩ = .ok (n, ⟨rest, p.past four⟩) := by
  cases h with
  | digits hw hx hy hz =>
    refine readHex_append rfl ?_
    simp only [hexNumber?, hw.hexValue?_eq, hx.hexValue?_eq, hy.hexValue?_eq, hz.hexValue?_eq,
      Option.bind_some, Nat.mul_zero, Nat.zero_add]

/-- Whatever stands for a character after a backslash is known to the reader. -/
lemma shortEscape?_of_mem {e c : Char} (h : (e, c) ∈ shortEscapes) : shortEscape? e = some c := by
  have hall : ∀ x ∈ shortEscapes, shortEscape? x.1 = some x.2 := by decide
  exact hall _ h

lemma ne_u_of_mem {e c : Char} (h : (e, c) ∈ shortEscapes) : e ≠ 'u' := by
  have hall : ∀ x ∈ shortEscapes, x.1 ≠ 'u' := by decide
  exact hall _ h

/-! ## Names -/

/-- The number of a character is no half of a surrogate pair. -/
lemma isSurrogate_toNat (c : Char) :
    isLowSurrogate c.toNat = false ∧ isHighSurrogate c.toNat = false := by
  have hvalid : c.toNat < 0xd800 ∨ 0xdfff < c.toNat ∧ c.toNat < 0x110000 := c.valid
  constructor
  · simp [isLowSurrogate]
    omega
  · simp [isHighSurrogate]
    omega

/-- A spelling of a character is read as the character. -/
lemma CharSpelled.escaped {c : Char} {cs : List Char} (h : CharSpelled c cs) : Escaped c cs := by
  cases h with
  | literal h => exact .plain h.ne_quote h.ne_backslash (Nat.not_lt.mpr h.not_control)
  | short h =>
    refine .escape ?_
    intro rest p
    simp [readEscape, ne_u_of_mem h, shortEscape?_of_mem h]
  | unicode h =>
    refine .escape ?_
    intro rest p
    obtain ⟨hlow, hhigh⟩ := isSurrogate_toNat c
    simp [readEscape, readUnicodeEscape, h.readHex_eq, bind, Except.bind, hlow, hhigh,
      Char.ofNat_toNat]
  | @pair m n high low hm hn value hhigh hlow =>
    refine .escape ?_
    intro rest p
    have hfirst : isLowSurrogate (0xd800 + m) = false ∧ isHighSurrogate (0xd800 + m) = true := by
      simp [isLowSurrogate, isHighSurrogate]
      omega
    have hsecond : isLowSurrogate (0xdc00 + n) = true := by
      simp [isLowSurrogate]
      omega
    have hchar : Char.ofNat (0x10000 + m * 0x400 + n) = c := by
      rw [← Char.ofNat_toNat c, value]
      congr 1
      omega
    simp [readEscape, readUnicodeEscape, hhigh.readHex_eq, hlow.readHex_eq, bind, Except.bind,
      hfirst, hsecond, skipInPair, hchar]

/-- **A spelling of a string is read as the string.** -/
lemma StringSpelled.exists_readString_eq {s : String} {cs : List Char} (h : StringSpelled s cs) :
    ∃ ds, cs = '"' :: ds ∧ ∀ rest p,
      readString ⟨ds ++ rest, p⟩ = .ok (s, ⟨rest, p.past ds⟩) := by
  obtain ⟨parts, hparts, rfl⟩ := h
  refine ⟨parts.flatten ++ ['"'], rfl, ?_⟩
  intro rest p
  rw [List.append_assoc, List.singleton_append,
    readString_flatten (hparts.imp fun _ _ hc => hc.escaped)]

/-- The same characters do not spell two strings. -/
lemma StringSpelled.injective {s t : String} {cs : List Char} (hs : StringSpelled s cs)
    (ht : StringSpelled t cs) : s = t := by
  obtain ⟨ds, rfl, hreads⟩ := hs.exists_readString_eq
  obtain ⟨_, ⟨rfl, rfl⟩, hreadt⟩ := ht.exists_readString_eq
  have hboth := (hreads [] ⟨1, 0⟩).symm.trans (hreadt [] ⟨1, 0⟩)
  exact congrArg Prod.fst (Except.ok.inj hboth)

/-! ## Strings -/

/-- One part of a string is passed. -/
lemma StringPart.skipChars_eq {part : List Char} (h : StringPart part) (fuel : ℕ) :
    skipChars (fuel + 1) ⟨part ++ rest, p⟩ = skipChars fuel ⟨rest, p.past part⟩ := by
  cases h with
  | literal h =>
    have hcontrol := Nat.not_lt.mpr h.not_control
    simp [skipChars, h.ne_quote, h.ne_backslash, hcontrol]
  | short h => simp [skipChars, ne_u_of_mem h, shortEscape?_of_mem h]
  | unicode h => simp [skipChars, h.readHex_eq, bind, Except.bind]

lemma StringPart.length_pos {part : List Char} (h : StringPart part) : 0 < part.length := by
  cases h <;> exact Nat.succ_pos _

lemma skipChars_flatten {parts : List (List Char)} (h : ∀ part ∈ parts, StringPart part) {fuel : ℕ}
    (hf : parts.flatten.length < fuel) :
    skipChars fuel ⟨parts.flatten ++ '"' :: rest, p⟩ =
      .ok ⟨rest, p.past (parts.flatten ++ ['"'])⟩ := by
  induction parts generalizing fuel p with
  | nil =>
    obtain ⟨f, rfl⟩ : ∃ f, fuel = f + 1 := ⟨fuel - 1, by simp at hf; omega⟩
    simp [skipChars]
  | cons part parts ih =>
    obtain ⟨f, rfl⟩ : ∃ f, fuel = f + 1 := ⟨fuel - 1, by omega⟩
    have hpart := h part List.mem_cons_self
    have hpos := hpart.length_pos
    rw [List.flatten_cons, List.length_append] at hf
    rw [List.flatten_cons, List.append_assoc, hpart.skipChars_eq,
      ih (fun q hq => h q (List.mem_cons_of_mem _ hq)) (by omega)]
    simp

/-- A string is passed, whatever its numeric escapes are. -/
lemma StringText.exists_skipString_eq {cs : List Char} (h : StringText cs) :
    ∃ ds, cs = '"' :: ds ∧ ∀ rest p, skipString ⟨ds ++ rest, p⟩ = .ok ⟨rest, p.past ds⟩ := by
  obtain ⟨parts, hparts, rfl⟩ := h
  refine ⟨parts.flatten ++ ['"'], rfl, ?_⟩
  intro rest p
  rw [List.append_assoc, List.singleton_append, skipString,
    skipChars_flatten hparts (by rw [List.length_append]; omega)]

/-! ## Numerals -/

lemma Closed.not_digit (h : Closed rest) : ∀ x ∈ rest.head?, x.isDigit = false := by
  intro x hx
  have hcontinues := h x hx
  simp only [continuesNumeral, Bool.or_eq_false_iff] at hcontinues
  exact hcontinues.1.1.1

/-- Where a numeral is at its end, or its exponent begins, neither a digit nor a point comes. -/
lemma ExponentText.head {cs : List Char} (h : ExponentText cs) (hrest : Closed rest) :
    ∀ x ∈ (cs ++ rest).head?, x.isDigit = false ∧ x ≠ '.' := by
  intro x hx
  cases h with
  | absent =>
    refine ⟨hrest.not_digit x hx, ?_⟩
    rintro rfl
    exact absurd (hrest '.' hx) (by decide)
  | digits he =>
    obtain rfl := Option.some.inj hx
    rcases he with rfl | rfl <;> decide

/-- So comes no digit where a fraction may begin. -/
lemma FractionText.head {cs : List Char} (h : FractionText cs)
    (hrest : ∀ x ∈ rest.head?, x.isDigit = false) :
    ∀ x ∈ (cs ++ rest).head?, x.isDigit = false := by
  cases h with
  | absent => exact hrest
  | digits => simp

/-- A fraction is passed, if neither a digit nor a point comes after it. -/
lemma FractionText.exists_readFraction_eq {cs : List Char} (h : FractionText cs) (atEnd : Cause)
    (hdigit : ∀ x ∈ rest.head?, x.isDigit = false) (hpoint : rest.head? ≠ some '.') :
    ∃ f, readFraction atEnd ⟨cs ++ rest, p⟩ = .ok (f, ⟨rest, p.past cs⟩) := by
  cases h with
  | absent => exact ⟨none, by simp [readFraction, hpoint]⟩
  | @digits ds h =>
    have hread : ∀ q, readDigits atEnd ⟨ds ++ rest, q⟩ = .ok (ds, ⟨rest, q.past ds⟩) :=
      fun _ => readDigits_append atEnd h.1 h.2 hdigit
    exact ⟨some ds, by simp [readFraction, hread, bind, Except.bind]⟩

/-- An exponent is passed. -/
lemma ExponentText.exists_readExponent_eq {cs : List Char} (h : ExponentText cs) (atEnd : Cause)
    (hrest : Closed rest) :
    ∃ e, readExponent atEnd ⟨cs ++ rest, p⟩ = .ok (e, ⟨rest, p.past cs⟩) := by
  cases h with
  | absent => exact ⟨none, Numeral.readExponent_of_closed atEnd hrest⟩
  | @digits e sign ds he hsign h =>
    have hread : ∀ q, readDigits atEnd ⟨ds ++ rest, q⟩ = .ok (ds, ⟨rest, q.past ds⟩) :=
      fun _ => readDigits_append atEnd h.1 h.2 hrest.not_digit
    -- where there is no sign none is taken
    have hhead : ∀ x, (ds ++ rest).head? = some x → x.isDigit = true := by
      rw [List.head?_append_of_ne_nil _ h.1]
      exact fun x hx => h.2 x (List.mem_of_head? hx)
    have hminus : (ds ++ rest).head? ≠ some '-' := fun hm => absurd (hhead _ hm) (by decide)
    have hplus : (ds ++ rest).head? ≠ some '+' := fun hm => absurd (hhead _ hm) (by decide)
    rcases hsign with rfl | rfl | rfl
    · refine ⟨some (false, ds), ?_⟩
      simp only [readExponent, List.nil_append, List.cons_append, List.head?_cons,
        Option.some.injEq, he, if_true, Cursor.next_cons, hminus, hplus, decide_false, or_self,
        if_false, hread, bind, Except.bind, Position.past_cons]
    · exact ⟨some (false, ds), by simp [readExponent, he, hread, bind, Except.bind]⟩
    · exact ⟨some (true, ds), by simp [readExponent, he, hread, bind, Except.bind]⟩

/-- **A numeral is passed**, whatever its size, if what follows does not belong to it. -/
lemma NumeralText.exists_readNumeral_eq {cs : List Char} (h : NumeralText cs) (atEnd : Cause)
    (hrest : Closed rest) :
    ∃ n, readNumeral atEnd ⟨cs ++ rest, p⟩ = .ok (n, ⟨rest, p.past cs⟩) := by
  cases h with
  | @parts sign whole fraction exponent hsign hwhole hfraction hexponent =>
    have hhead := hexponent.head hrest
    have hdigit : ∀ x ∈ (exponent ++ rest).head?, x.isDigit = false := fun x hx => (hhead x hx).1
    have hpoint : (exponent ++ rest).head? ≠ some '.' := fun hp => (hhead '.' hp).2 rfl
    have hread : ∀ q, readWhole atEnd ⟨whole ++ (fraction ++ (exponent ++ rest)), q⟩ =
        .ok (whole, ⟨fraction ++ (exponent ++ rest), q.past whole⟩) :=
      fun _ => readWhole_append atEnd hwhole (hfraction.head hdigit)
    have hminus : (whole ++ (fraction ++ (exponent ++ rest))).head? ≠ some '-' := by
      rw [List.head?_append_of_ne_nil _ hwhole.ne_nil]
      intro hm
      exact absurd (hwhole.isDigit '-' (List.mem_of_head? hm)) (by decide)
    obtain ⟨f, hf⟩ := hfraction.exists_readFraction_eq (p := (p.past sign).past whole) atEnd hdigit
      hpoint
    obtain ⟨e, he⟩ := hexponent.exists_readExponent_eq
      (p := ((p.past sign).past whole).past fraction) atEnd hrest
    simp only [List.append_assoc]
    rcases hsign with rfl | rfl
    · refine ⟨⟨false, whole, f, e⟩, ?_⟩
      rw [Position.past_nil] at hf he
      simp only [readNumeral, List.nil_append, hminus, decide_false, if_false, hread, hf, he, bind,
        Except.bind, Position.past_append]
    · refine ⟨⟨true, whole, f, e⟩, ?_⟩
      simp only [Position.past_cons, Position.past_nil] at hf he
      simp [readNumeral, hread, hf, he, bind, Except.bind]

lemma NumeralText.exists_cons {cs : List Char} (h : NumeralText cs) :
    ∃ x xs, cs = x :: xs ∧ (x = '-' ∨ x.isDigit = true) := by
  cases h with
  | @parts sign whole fraction exponent hsign hwhole =>
    rcases hsign with rfl | rfl
    · obtain ⟨d, ds, rfl⟩ := List.exists_cons_of_ne_nil hwhole.ne_nil
      exact ⟨d, _, rfl, .inr (hwhole.isDigit d List.mem_cons_self)⟩
    · exact ⟨'-', _, rfl, .inl rfl⟩

/-! ## Values -/

lemma ValueText.exists_cons {cs : List Char} (h : ValueText cs) :
    ∃ x xs, cs = x :: xs ∧ Opens x := by
  cases h with
  | number h =>
    obtain ⟨x, xs, rfl, hhead⟩ := h.exists_cons
    exact ⟨x, xs, rfl, opens_of_number hhead⟩
  | string h =>
    obtain ⟨ds, rfl, -⟩ := h.exists_skipString_eq
    exact ⟨_, ds, rfl, rfl, by decide⟩
  | _ => exact ⟨_, _, rfl, rfl, by decide⟩

lemma ItemsText.closed {cs : List Char} (h : ItemsText false cs) (rest : List Char) :
    Closed (cs ++ rest) := by
  cases h with
  | close _ hg =>
    rw [List.append_assoc]
    exact closed_of_gap hg (closed_cons rfl _)
  | item _ hg =>
    simp only [List.append_assoc]
    exact closed_of_gap hg (closed_cons rfl _)

lemma MembersText.closed {cs : List Char} (h : MembersText false cs) (rest : List Char) :
    Closed (cs ++ rest) := by
  cases h with
  | close _ hg =>
    rw [List.append_assoc]
    exact closed_of_gap hg (closed_cons rfl _)
  | member _ hg =>
    simp only [List.append_assoc]
    exact closed_of_gap hg (closed_cons rfl _)

/-- The name and the colon of a member are passed, with blanks before each of them. -/
lemma StringText.skipName_eq {g k name : List Char} (h : StringText name) (hg : Gap g) (hk : Gap k)
    (rest : List Char) (p : Position) :
    skipName ⟨g ++ (name ++ (k ++ ':' :: rest)), p⟩ =
      .ok ⟨rest, p.past (g ++ name ++ (k ++ [':']))⟩ := by
  obtain ⟨ds, rfl, hskip⟩ := h.exists_skipString_eq
  rw [List.cons_append, skipName, Cursor.skipGap_append hg (solid_cons rfl _)]
  simp [hskip, bind, Except.bind, Cursor.skipColon_append hk]

section Steps

variable {enclosing : List Bracket} {fuel : ℕ} {g cs : List Char}

lemma skipNested_append (hg : Gap g) (hcs : Solid cs) :
    skipNested (fuel + 1) enclosing ⟨g ++ cs, p⟩ =
      skipNested (fuel + 1) enclosing ⟨cs, p.past g⟩ := by
  rw [skipNested, skipNested, Cursor.skipGap_append hg hcs, Cursor.skipGap_of_solid hcs]

lemma skipNested_number {x : Char} (hx : x = '-' ∨ x.isDigit = true) :
    skipNested (fuel + 1) enclosing ⟨x :: cs, p⟩ =
      (readNumeral .invalidNumber ⟨x :: cs, p⟩).bind fun (_, c) => skipRest fuel enclosing c := by
  obtain ⟨hn, ht, hf⟩ := ne_word_of_number hx
  rw [skipNested, Cursor.skipGap_of_solid (solid_cons (opens_of_number hx).isGap _)]
  simp only [hn, ht, hf, hx, if_true, if_false]
  rfl

lemma skipNested_string :
    skipNested (fuel + 1) enclosing ⟨'"' :: cs, p⟩ =
      (skipString ⟨cs, p.after '"'⟩).bind (skipRest fuel enclosing) := by
  rw [skipNested, Cursor.skipGap_of_solid (solid_cons rfl _)]
  rfl

lemma skipNested_list_close (hg : Gap g) :
    skipNested (fuel + 1) enclosing ⟨'[' :: (g ++ ']' :: cs), p⟩ =
      skipRest fuel enclosing ⟨cs, p.past ('[' :: (g ++ [']']))⟩ := by
  rw [skipNested, Cursor.skipGap_of_solid (solid_cons rfl _)]
  simp [Cursor.skipGap_append hg (solid_cons (x := ']') rfl _)]

lemma skipNested_list_item {x : Char} (hg : Gap g) (hx : Opens x) :
    skipNested (fuel + 1) enclosing ⟨'[' :: (g ++ x :: cs), p⟩ =
      skipNested fuel (.list :: enclosing) ⟨x :: cs, p.past ('[' :: g)⟩ := by
  rw [skipNested, Cursor.skipGap_of_solid (solid_cons rfl _)]
  simp [Cursor.skipGap_append hg (solid_cons hx.isGap _), hx.ne_bracket]

lemma skipNested_object_close (hg : Gap g) :
    skipNested (fuel + 1) enclosing ⟨'{' :: (g ++ '}' :: cs), p⟩ =
      skipRest fuel enclosing ⟨cs, p.past ('{' :: (g ++ ['}']))⟩ := by
  rw [skipNested, Cursor.skipGap_of_solid (solid_cons rfl _)]
  simp [Cursor.skipGap_append hg (solid_cons (x := '}') rfl _)]

lemma skipNested_object_member {name k : List Char} (hg : Gap g) (hname : StringText name)
    (hk : Gap k) :
    skipNested (fuel + 1) enclosing ⟨'{' :: (g ++ (name ++ (k ++ ':' :: cs))), p⟩ =
      skipNested fuel (.object :: enclosing) ⟨cs, p.past ('{' :: (g ++ name ++ (k ++ [':'])))⟩ := by
  have hskip := hname.skipName_eq gap_nil hk cs ((p.after '{').past g)
  obtain ⟨ds, rfl, -⟩ := hname.exists_skipString_eq
  rw [List.nil_append, List.cons_append] at hskip
  rw [skipNested, Cursor.skipGap_of_solid (solid_cons rfl _)]
  simp [Cursor.skipGap_append hg (solid_cons (x := '"') rfl _), hskip, bind, Except.bind]

lemma skipRest_list_close (hg : Gap g) :
    skipRest (fuel + 1) (.list :: enclosing) ⟨g ++ ']' :: cs, p⟩ =
      skipRest fuel enclosing ⟨cs, p.past (g ++ [']'])⟩ := by
  rw [skipRest, Cursor.skipGap_append hg (solid_cons rfl _)]
  simp

lemma skipRest_list_item (hg : Gap g) :
    skipRest (fuel + 1) (.list :: enclosing) ⟨g ++ ',' :: cs, p⟩ =
      skipNested fuel (.list :: enclosing) ⟨cs, p.past (g ++ [','])⟩ := by
  rw [skipRest, Cursor.skipGap_append hg (solid_cons rfl _)]
  simp

lemma skipRest_object_close (hg : Gap g) :
    skipRest (fuel + 1) (.object :: enclosing) ⟨g ++ '}' :: cs, p⟩ =
      skipRest fuel enclosing ⟨cs, p.past (g ++ ['}'])⟩ := by
  rw [skipRest, Cursor.skipGap_append hg (solid_cons rfl _)]
  simp

lemma skipRest_object_member {h name k : List Char} (hg : Gap g) (hh : Gap h)
    (hname : StringText name) (hk : Gap k) :
    skipRest (fuel + 1) (.object :: enclosing) ⟨g ++ ',' :: (h ++ (name ++ (k ++ ':' :: cs))), p⟩ =
      skipNested fuel (.object :: enclosing)
        ⟨cs, p.past (g ++ ',' :: (h ++ name ++ (k ++ [':'])))⟩ := by
  have hskip := hname.skipName_eq hh hk cs ((p.past g).after ',')
  rw [skipRest, Cursor.skipGap_append hg (solid_cons rfl _)]
  simp [hskip, bind, Except.bind]

end Steps

mutual

/-- **A text of a value is skipped** with no more steps than it has characters. -/
lemma ValueText.skipNested_eq {cs g : List Char} {fuel : ℕ} (enclosing : List Bracket)
    (rest : List Char) (p : Position) (left : ℕ) : ValueText cs → Gap g → Closed rest →
      cs.length + left ≤ fuel →
      ∃ f, left ≤ f ∧ skipNested fuel enclosing ⟨g ++ (cs ++ rest), p⟩ =
        skipRest f enclosing ⟨rest, p.past (g ++ cs)⟩
  | .null, hg, _, hf | .true, hg, _, hf | .false, hg, _, hf => by
    rw [List.length_cons] at hf
    obtain ⟨f, rfl⟩ : ∃ f, fuel = f + 1 := ⟨fuel - 1, by omega⟩
    refine ⟨f, by omega, ?_⟩
    rw [List.cons_append, skipNested_append hg (solid_cons rfl _), Position.past_append]
    rfl
  | .number h, hg, hrest, hf => by
    obtain ⟨n, hread⟩ := h.exists_readNumeral_eq (p := p.past g) .invalidNumber hrest
    obtain ⟨x, xs, rfl, hhead⟩ := h.exists_cons
    rw [List.length_cons] at hf
    obtain ⟨f, rfl⟩ : ∃ f, fuel = f + 1 := ⟨fuel - 1, by omega⟩
    refine ⟨f, by omega, ?_⟩
    rw [List.cons_append] at hread ⊢
    rw [skipNested_append hg (solid_cons (opens_of_number hhead).isGap _), skipNested_number hhead,
      hread, Position.past_append]
    rfl
  | .string h, hg, _, hf => by
    obtain ⟨ds, rfl, hskip⟩ := h.exists_skipString_eq
    rw [List.length_cons] at hf
    obtain ⟨f, rfl⟩ : ∃ f, fuel = f + 1 := ⟨fuel - 1, by omega⟩
    refine ⟨f, by omega, ?_⟩
    rw [List.cons_append, skipNested_append hg (solid_cons rfl _), skipNested_string, hskip,
      Position.past_append]
    rfl
  | .list (.close _ hg'), hg, _, hf => by
    rw [List.length_cons] at hf
    obtain ⟨f, rfl⟩ : ∃ f, fuel = f + 1 := ⟨fuel - 1, by omega⟩
    refine ⟨f, by omega, ?_⟩
    rw [List.cons_append, List.append_assoc, List.singleton_append,
      skipNested_append hg (solid_cons rfl _), skipNested_list_close hg', Position.past_append]
  | .list (@ItemsText.item _ g' h cs ds hg' hh head tail), hg, _, hf => by
    simp only [List.length_cons, List.length_append] at hf
    obtain ⟨f, rfl⟩ : ∃ f, fuel = f + 1 := ⟨fuel - 1, by omega⟩
    -- the first item is skipped inside the list, and then the others
    obtain ⟨f', hf', hvalue⟩ := head.skipNested_eq (.list :: enclosing) (ds ++ rest)
      (p.past (g ++ '[' :: g')) (ds.length + left) gap_nil (tail.closed rest)
      (by omega : _ ≤ f)
    obtain ⟨f'', hf'', hitems⟩ := tail.skipRest_eq enclosing rest
      ((p.past (g ++ '[' :: g')).past ([] ++ cs)) left rfl hf'
    obtain ⟨x, xs, rfl, hx⟩ := head.exists_cons
    refine ⟨f'', hf'', ?_⟩
    simp only [separator, if_true, List.append_nil, List.nil_append, List.cons_append,
      List.append_assoc] at hvalue hitems ⊢
    rw [skipNested_append hg (solid_cons rfl _), skipNested_list_item hg' hx,
      ← Position.past_append, hvalue, hitems]
    simp
  | .object (.close _ hg'), hg, _, hf => by
    rw [List.length_cons] at hf
    obtain ⟨f, rfl⟩ : ∃ f, fuel = f + 1 := ⟨fuel - 1, by omega⟩
    refine ⟨f, by omega, ?_⟩
    rw [List.cons_append, List.append_assoc, List.singleton_append,
      skipNested_append hg (solid_cons rfl _), skipNested_object_close hg', Position.past_append]
  | .object (@MembersText.member _ g' h name k l cs ds hg' hh hname hk hl head tail), hg, _,
    hf => by
    simp only [List.length_cons, List.length_append] at hf
    obtain ⟨f, rfl⟩ : ∃ f, fuel = f + 1 := ⟨fuel - 1, by omega⟩
    obtain ⟨f', hf', hvalue⟩ := head.skipNested_eq (.object :: enclosing) (ds ++ rest)
      (p.past (g ++ '{' :: (g' ++ name ++ (k ++ [':'])))) (ds.length + left) hl (tail.closed rest)
      (by omega : _ ≤ f)
    obtain ⟨f'', hf'', hmembers⟩ := tail.skipRest_eq enclosing rest
      ((p.past (g ++ '{' :: (g' ++ name ++ (k ++ [':'])))).past (l ++ cs)) left rfl hf'
    refine ⟨f'', hf'', ?_⟩
    simp only [separator, if_true, List.append_nil, List.cons_append, List.append_assoc]
      at hvalue hmembers ⊢
    rw [skipNested_append hg (solid_cons rfl _), skipNested_object_member hg' hname hk,
      ← Position.past_append, List.append_assoc g', hvalue, hmembers]
    simp

/-- What is left of a list is skipped. -/
lemma ItemsText.skipRest_eq {first : Bool} {cs : List Char} {fuel : ℕ} (enclosing : List Bracket)
    (rest : List Char) (p : Position) (left : ℕ) : ItemsText first cs → first = false →
      cs.length + left ≤ fuel →
      ∃ f, left ≤ f ∧ skipRest fuel (.list :: enclosing) ⟨cs ++ rest, p⟩ =
        skipRest f enclosing ⟨rest, p.past cs⟩
  | .close _ hg, _, hf => by
    rw [List.length_append, List.length_singleton] at hf
    obtain ⟨f, rfl⟩ : ∃ f, fuel = f + 1 := ⟨fuel - 1, by omega⟩
    refine ⟨f, by omega, ?_⟩
    rw [List.append_assoc, List.singleton_append, skipRest_list_close hg]
  | @ItemsText.item _ g h cs ds hg hh head tail, hfirst, hf => by
    subst hfirst
    simp only [separator, Bool.false_eq_true, if_false, List.length_append, List.length_cons] at hf
    obtain ⟨f, rfl⟩ : ∃ f, fuel = f + 1 := ⟨fuel - 1, by omega⟩
    obtain ⟨f', hf', hvalue⟩ := head.skipNested_eq (.list :: enclosing) (ds ++ rest)
      (p.past (g ++ [','])) (ds.length + left) hh (tail.closed rest) (by omega : _ ≤ f)
    obtain ⟨f'', hf'', hitems⟩ := tail.skipRest_eq enclosing rest
      ((p.past (g ++ [','])).past (h ++ cs)) left rfl hf'
    refine ⟨f'', hf'', ?_⟩
    simp only [separator, Bool.false_eq_true, if_false, List.append_assoc, List.cons_append]
    rw [skipRest_list_item hg, hvalue, hitems]
    simp

/-- What is left of an object is skipped. -/
lemma MembersText.skipRest_eq {first : Bool} {cs : List Char} {fuel : ℕ} (enclosing : List Bracket)
    (rest : List Char) (p : Position) (left : ℕ) : MembersText first cs → first = false →
      cs.length + left ≤ fuel →
      ∃ f, left ≤ f ∧ skipRest fuel (.object :: enclosing) ⟨cs ++ rest, p⟩ =
        skipRest f enclosing ⟨rest, p.past cs⟩
  | .close _ hg, _, hf => by
    rw [List.length_append, List.length_singleton] at hf
    obtain ⟨f, rfl⟩ : ∃ f, fuel = f + 1 := ⟨fuel - 1, by omega⟩
    refine ⟨f, by omega, ?_⟩
    rw [List.append_assoc, List.singleton_append, skipRest_object_close hg]
  | @MembersText.member _ g h name k l cs ds hg hh hname hk hl head tail, hfirst, hf => by
    subst hfirst
    simp only [separator, Bool.false_eq_true, if_false, List.length_append, List.length_cons] at hf
    obtain ⟨f, rfl⟩ : ∃ f, fuel = f + 1 := ⟨fuel - 1, by omega⟩
    obtain ⟨f', hf', hvalue⟩ := head.skipNested_eq (.object :: enclosing) (ds ++ rest)
      (p.past (g ++ ',' :: (h ++ name ++ (k ++ [':'])))) (ds.length + left) hl (tail.closed rest)
      (by omega : _ ≤ f)
    obtain ⟨f'', hf'', hmembers⟩ := tail.skipRest_eq enclosing rest
      ((p.past (g ++ ',' :: (h ++ name ++ (k ++ [':'])))).past (l ++ cs)) left rfl hf'
    refine ⟨f'', hf'', ?_⟩
    simp only [separator, Bool.false_eq_true, if_false, List.append_assoc, List.cons_append]
      at hvalue hmembers ⊢
    rw [skipRest_object_member hg hh hname hk, List.append_assoc h, hvalue, hmembers]
    simp

end

/-- **Any text of a value is skipped**, with blanks before it. -/
theorem ValueText.skipValue_eq {cs g rest : List Char} {p : Position} (h : ValueText cs)
    (hg : Gap g) (hrest : Closed rest) :
    skipValue ⟨g ++ (cs ++ rest), p⟩ = .ok ⟨rest, p.past (g ++ cs)⟩ := by
  obtain ⟨f, -, hskip⟩ := h.skipNested_eq [] rest p 0 hg hrest
    (by simp only [List.length_append]; omega : _ ≤ 2 * (g ++ (cs ++ rest)).length + 2)
  rw [skipValue, hskip, skipRest_nil]

end LinkWatch.Json
