/-
# The syntax of JSON

Which characters are a numeral, a string or a value at all, whatever they mean.  The texts here are
those of the standard: a numeral may be of any size, brackets may be nested to any depth, the
members of an object may come in any order and more than once, and a numeric escape in a string may
be half of a surrogate pair that stands alone.

Such an escape makes no character, so that not every text of a string spells a string.  What spells
one is said here as well (`StringSpelled`).
-/
import LinkWatch.Proofs.Json.Numerals
import Mathlib.Data.List.Forall2

namespace LinkWatch.Json

/-! ## Strings -/

/-- The character is a hexadecimal digit of a number below sixteen, small or capital. -/
def HexDigit (n : ℕ) (c : Char) : Prop :=
  "0123456789abcdef".toList[n]? = some c ∨ "0123456789ABCDEF".toList[n]? = some c

/-- The characters are the four hexadecimal digits of a number. -/
inductive HexText : ℕ → List Char → Prop
  | digits {a b c d : ℕ} {w x y z : Char} (hw : HexDigit a w) (hx : HexDigit b x)
      (hy : HexDigit c y) (hz : HexDigit d z) :
      HexText (16 * (16 * (16 * a + b) + c) + d) [w, x, y, z]

/-- The letters that may stand after a backslash, each with the character that it stands for. -/
def shortEscapes : List (Char × Char) :=
  [('"', '"'), ('\\', '\\'), ('/', '/'), ('b', '\x08'), ('f', '\x0c'), ('n', '\n'), ('r', '\r'),
    ('t', '\t')]

/-- The character may stand in a string as it is. -/
structure Literal (c : Char) : Prop where
  ne_quote : c ≠ '"'
  ne_backslash : c ≠ '\\'
  not_control : 0x20 ≤ c.toNat

/-- The characters are one character of a string, or one escape. -/
inductive StringPart : List Char → Prop
  | literal {c : Char} (h : Literal c) : StringPart [c]
  | short {e c : Char} (h : (e, c) ∈ shortEscapes) : StringPart ['\\', e]
  | unicode {n : ℕ} {four : List Char} (h : HexText n four) : StringPart ('\\' :: 'u' :: four)

/-- Parts between quotes. -/
def quoted (parts : List (List Char)) : List Char := '"' :: (parts.flatten ++ ['"'])

/-- The characters are a string. -/
def StringText (cs : List Char) : Prop :=
  ∃ parts, (∀ part ∈ parts, StringPart part) ∧ cs = quoted parts

/-- The characters are a spelling of one character: as it is, or escaped. -/
inductive CharSpelled (c : Char) : List Char → Prop
  | literal (h : Literal c) : CharSpelled c [c]
  | short {e : Char} (h : (e, c) ∈ shortEscapes) : CharSpelled c ['\\', e]
  | unicode {four : List Char} (h : HexText c.toNat four) : CharSpelled c ('\\' :: 'u' :: four)
  /-- A character outside the basic plane takes both halves of a surrogate pair. -/
  | pair {m n : ℕ} {high low : List Char} (hm : m < 0x400) (hn : n < 0x400)
      (value : c.toNat = 0x10000 + (0x400 * m + n)) (hhigh : HexText (0xd800 + m) high)
      (hlow : HexText (0xdc00 + n) low) :
      CharSpelled c ('\\' :: 'u' :: (high ++ '\\' :: 'u' :: low))

/-- The characters are a spelling of a string. -/
def StringSpelled (s : String) (cs : List Char) : Prop :=
  ∃ parts, List.Forall₂ CharSpelled s.toList parts ∧ cs = quoted parts

/-! ## Numerals -/

/-- The characters are digits, and there is one at least. -/
def Digits (ds : List Char) : Prop := ds ≠ [] ∧ ∀ x ∈ ds, x.isDigit = true

/-- The characters are the part of a numeral after its whole part, up to the exponent. -/
inductive FractionText : List Char → Prop
  | absent : FractionText []
  | digits {ds : List Char} (h : Digits ds) : FractionText ('.' :: ds)

/-- The characters are the exponent of a numeral, if there is one. -/
inductive ExponentText : List Char → Prop
  | absent : ExponentText []
  | digits {e : Char} {sign ds : List Char} (he : e = 'e' ∨ e = 'E')
      (hsign : sign = [] ∨ sign = ['+'] ∨ sign = ['-']) (h : Digits ds) :
      ExponentText (e :: (sign ++ ds))

/-- The characters are a numeral. -/
inductive NumeralText : List Char → Prop
  | parts {sign whole fraction exponent : List Char} (hsign : sign = [] ∨ sign = ['-'])
      (hwhole : WholeDigits whole) (hfraction : FractionText fraction)
      (hexponent : ExponentText exponent) :
      NumeralText (sign ++ (whole ++ (fraction ++ exponent)))

/-! ## Values -/

mutual

/-- The characters are a value. -/
inductive ValueText : List Char → Prop
  | null : ValueText ['n', 'u', 'l', 'l']
  | true : ValueText ['t', 'r', 'u', 'e']
  | false : ValueText ['f', 'a', 'l', 's', 'e']
  | number {cs : List Char} (h : NumeralText cs) : ValueText cs
  | string {cs : List Char} (h : StringText cs) : ValueText cs
  | list {cs : List Char} (tail : ItemsText true cs) : ValueText ('[' :: cs)
  | object {cs : List Char} (tail : MembersText true cs) : ValueText ('{' :: cs)

/-- The characters are what is left of a list, with its closing bracket. -/
inductive ItemsText : Bool → List Char → Prop
  | close (first : Bool) {g : List Char} (hg : Gap g) : ItemsText first (g ++ [']'])
  | item (first : Bool) {g h cs ds : List Char} (hg : Gap g) (hh : Gap h) (head : ValueText cs)
      (tail : ItemsText false ds) : ItemsText first (g ++ separator first h ++ cs ++ ds)

/-- The characters are what is left of an object, with its closing brace. -/
inductive MembersText : Bool → List Char → Prop
  | close (first : Bool) {g : List Char} (hg : Gap g) : MembersText first (g ++ ['}'])
  | member (first : Bool) {g h name k l cs ds : List Char} (hg : Gap g) (hh : Gap h)
      (hname : StringText name) (hk : Gap k) (hl : Gap l) (head : ValueText cs)
      (tail : MembersText false ds) :
      MembersText first (g ++ separator first h ++ name ++ (k ++ ':' :: (l ++ (cs ++ ds))))

end

/-! ## Spellings are texts -/

/-- A spelling of a character is one part of a string, or two. -/
lemma CharSpelled.exists_parts {c : Char} {cs : List Char} (h : CharSpelled c cs) :
    ∃ parts : List (List Char), (∀ part ∈ parts, StringPart part) ∧ cs = parts.flatten := by
  cases h with
  | literal h => exact ⟨[[c]], by simpa using StringPart.literal h, rfl⟩
  | @short e h => exact ⟨[['\\', e]], by simpa using StringPart.short h, rfl⟩
  | @unicode four h =>
    exact ⟨['\\' :: 'u' :: four], by simpa using StringPart.unicode h, by simp⟩
  | @pair m n high low hm hn value hhigh hlow =>
    refine ⟨['\\' :: 'u' :: high, '\\' :: 'u' :: low], ?_, by simp⟩
    simpa using ⟨StringPart.unicode hhigh, StringPart.unicode hlow⟩

/-- **A spelling of a string is a text of a string.** -/
theorem StringSpelled.stringText {s : String} {cs : List Char} (h : StringSpelled s cs) :
    StringText cs := by
  obtain ⟨spellings, hspellings, rfl⟩ := h
  obtain ⟨parts, hparts, heq⟩ : ∃ parts : List (List Char),
      (∀ part ∈ parts, StringPart part) ∧ spellings.flatten = parts.flatten := by
    generalize s.toList = cs at hspellings
    induction hspellings with
    | nil => exact ⟨[], by simp, rfl⟩
    | cons hc _ ih =>
      obtain ⟨first, hfirst, rfl⟩ := hc.exists_parts
      obtain ⟨rest, hrest, hflat⟩ := ih
      refine ⟨first ++ rest, ?_, by simp [hflat]⟩
      intro part hpart
      exact (List.mem_append.mp hpart).elim (hfirst part) (hrest part)
  exact ⟨parts, hparts, by rw [quoted, quoted, heq]⟩

end LinkWatch.Json
