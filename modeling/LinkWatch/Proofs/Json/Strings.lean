/-
# Strings read back

A string is written between quotes, with its quotes, backslashes and controls escaped.  Reading
undoes each escape and leaves every other character as it is, so that a written string is read
as itself.
-/
import LinkWatch.Proofs.Json.Moves
import Mathlib.Data.List.Forall2

namespace LinkWatch.Json

variable {p : Position} {rest : List Char}

/-! ## Numeric escapes -/

lemma hexValue?_hexDigit {n : ℕ} (h : n < 16) : hexValue? (hexDigit n) = some n := by
  revert n
  decide

/-- Four digits are read as the number that they stand for. -/
lemma readHex_append {four : List Char} {n : ℕ} (hlen : four.length = 4)
    (hn : hexNumber? 0 four = some n) :
    readHex ⟨four ++ rest, p⟩ = .ok (n, ⟨rest, p.past four⟩) := by
  have htake : (four ++ rest).take 4 = four := by rw [← hlen, List.take_left]
  have hdrop : (four ++ rest).drop 4 = rest := by rw [← hlen, List.drop_left]
  have hbytes : ¬ Text.byteSize four < 4 := by
    have := Text.length_le_byteSize four
    omega
  simp only [readHex, htake, hdrop, if_neg hbytes, hn, Position.past]

/-- The digits of the numeric escape of a control character. -/
def controlDigits (n : ℕ) : List Char := ['0', '0', hexDigit (n / 16), hexDigit (n % 16)]

lemma hexNumber?_controlDigits {n : ℕ} (h : n < 0x20) :
    hexNumber? 0 (controlDigits n) = some n := by
  have hzero : hexValue? '0' = some 0 := rfl
  have hhigh : hexValue? (hexDigit (n / 16)) = some (n / 16) := hexValue?_hexDigit (by omega)
  have hlow : hexValue? (hexDigit (n % 16)) = some (n % 16) := hexValue?_hexDigit (by omega)
  simp only [controlDigits, hexNumber?, hzero, hhigh, hlow, Option.bind_some]
  congr 1
  omega

/-- The number of a control character is no half of a pair, so it gives back the character. -/
lemma readUnicodeEscape_controlDigits {c : Char} (h : c.toNat < 0x20) :
    readUnicodeEscape ⟨controlDigits c.toNat ++ rest, p⟩ =
      .ok (c, ⟨rest, p.past (controlDigits c.toNat)⟩) := by
  have hlow : isLowSurrogate c.toNat = false := by simp [isLowSurrogate]; omega
  have hhigh : isHighSurrogate c.toNat = false := by simp [isHighSurrogate]; omega
  rw [readUnicodeEscape, readHex_append rfl (hexNumber?_controlDigits h)]
  simp [bind, Except.bind, hlow, hhigh, Char.ofNat_toNat]

/-! ## One character -/

/-- How a character can be written: as it is, or after a backslash in a form that is read as the
character. -/
inductive Escaped (c : Char) : List Char → Prop
  | plain (hquote : c ≠ '"') (hslash : c ≠ '\\') (hcontrol : ¬ c.toNat < 0x20) : Escaped c [c]
  | escape {es : List Char}
      (read : ∀ rest p, readEscape ⟨es ++ rest, p⟩ = .ok (c, ⟨rest, p.past es⟩)) :
      Escaped c ('\\' :: es)

lemma escaped_escapedChar (c : Char) : Escaped c (escapedChar c) := by
  unfold escapedChar
  split
  next h => subst h; exact .escape fun _ _ => rfl
  split
  next h => subst h; exact .escape fun _ _ => rfl
  split
  next h => subst h; exact .escape fun _ _ => rfl
  split
  next h => subst h; exact .escape fun _ _ => rfl
  split
  next h => subst h; exact .escape fun _ _ => rfl
  split
  next h => subst h; exact .escape fun _ _ => rfl
  split
  next h => subst h; exact .escape fun _ _ => rfl
  split
  next h => exact .escape fun rest p => readUnicodeEscape_controlDigits h
  next hquote hslash _ _ _ _ _ hcontrol => exact .plain hquote hslash hcontrol

/-! ## Whole strings -/

/-- A string whose characters are written one by one is read up to its closing quote. -/
lemma readChars_flatten {cs : List Char} {parts : List (List Char)}
    (h : List.Forall₂ Escaped cs parts) (done : List Char) {fuel : ℕ}
    (hf : parts.flatten.length < fuel) :
    readChars fuel done ⟨parts.flatten ++ '"' :: rest, p⟩ =
      .ok (String.ofList (done.reverse ++ cs), ⟨rest, p.past (parts.flatten ++ ['"'])⟩) := by
  induction h generalizing done fuel p with
  | nil =>
    obtain ⟨f, rfl⟩ : ∃ f, fuel = f + 1 := ⟨fuel - 1, by simp at hf; omega⟩
    simp [readChars]
  | @cons c es cs parts hc _ ih =>
    obtain ⟨f, rfl⟩ : ∃ f, fuel = f + 1 := ⟨fuel - 1, by omega⟩
    rw [List.flatten_cons, List.length_append] at hf
    rw [List.flatten_cons, List.append_assoc]
    cases hc with
    | plain hquote hslash hcontrol =>
      have hf' : parts.flatten.length < f := by
        rw [List.length_singleton] at hf
        omega
      simp [readChars, hquote, hslash, hcontrol, ih (c :: done) hf']
    | @escape es read =>
      have hf' : parts.flatten.length < f := by
        rw [List.length_cons] at hf
        omega
      simp [readChars, read, bind, Except.bind, ih (c :: done) hf']

/-- **A string whose characters are written one by one is read as these.** -/
lemma readString_flatten {s : String} {parts : List (List Char)}
    (h : List.Forall₂ Escaped s.toList parts) :
    readString ⟨parts.flatten ++ '"' :: rest, p⟩ =
      .ok (s, ⟨rest, p.past (parts.flatten ++ ['"'])⟩) := by
  rw [readString, readChars_flatten h [] (by rw [List.length_append]; omega), List.reverse_nil,
    List.nil_append, String.ofList_toList]

/-- What a written string has after its opening quote. -/
def stringTail (s : String) : List Char := s.toList.flatMap escapedChar ++ ['"']

lemma stringChars_eq (s : String) : stringChars s = '"' :: stringTail s := rfl

/-- **A written string is read as itself.** -/
lemma readString_stringTail (s : String) :
    readString ⟨stringTail s ++ rest, p⟩ = .ok (s, ⟨rest, p.past (stringTail s)⟩) := by
  have hparts : List.Forall₂ Escaped s.toList (s.toList.map escapedChar) :=
    List.forall₂_map_right_iff.mpr (List.forall₂_same.mpr fun c _ => escaped_escapedChar c)
  rw [stringTail, List.flatMap_def, List.append_assoc, List.singleton_append,
    readString_flatten hparts]

end LinkWatch.Json
