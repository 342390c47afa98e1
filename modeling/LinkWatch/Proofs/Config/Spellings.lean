/-
# How settings are spelled

A setting that is given as a text may have blanks around it.  The name of a mode may be in letters
of either case, and two more names stand for `disabled` (`ClockMode.parse_eq_ok_iff`).  A whole
number may have a plus sign, and zeros, in front (`parseWord?_trim_eq_some_iff`).

The conditions on a text are stated without the functions that read it: there is a word between the
blanks, and each of its characters is a form of the letter at the same place of a name, or a digit.
-/
import LinkWatch.Config.Overrides
import LinkWatch.Proofs.Json.Grammar

namespace LinkWatch

namespace Text

variable {c d : Char} {cs ds before after : List Char}

/-! ## Letters of either case -/

/-- The character is the small letter `d` or its capital. The sign of the unit kelvin is a capital
`k`, too. -/
def LetterOf (d c : Char) : Prop := c = d ∨ c = d.toUpper ∨ (d = 'k' ∧ c = '\u212a')

lemma toNat_of_isLower (h : d.isLower = true) : 97 ≤ d.toNat ∧ d.toNat ≤ 122 := by
  obtain ⟨hlow, hhigh⟩ := Bool.and_eq_true_iff.mp h
  exact ⟨UInt32.le_iff_toNat_le.mp (of_decide_eq_true hlow),
    UInt32.le_iff_toNat_le.mp (of_decide_eq_true hhigh)⟩

/-- The number that makes a small letter is the number of the letter. Numbers that are no
characters all make the character zero. -/
lemma toNat_eq_of_ofNat_eq {n : ℕ} (hd : d.isLower = true) (h : Char.ofNat n = d) :
    d.toNat = n := by
  obtain ⟨hlow, -⟩ := toNat_of_isLower hd
  subst h
  by_cases hvalid : n.isValidChar
  · have hmade : Char.ofNat n = Char.ofNatAux n hvalid := dif_pos hvalid
    exact congrArg Char.toNat hmade
  · have hzero : Char.ofNat n = '\x00' := dif_neg hvalid
    rw [hzero] at hlow
    exact absurd hlow (by decide)

lemma toUpper_capital :
    ∀ n ∈ List.range' 65 26, (Char.ofNat (n + 32)).toUpper = Char.ofNat n := by
  decide

/-- What the tables say of a small letter and its capital. -/
lemma letter_in_tables : ∀ n ∈ List.range' 97 26,
    (lowerChar (Char.ofNat n) = [Char.ofNat n] ∧ isBlank (Char.ofNat n) = false) ∧
      lowerChar (Char.ofNat n).toUpper = [Char.ofNat n] ∧
        isBlank (Char.ofNat n).toUpper = false := by
  decide +kernel

lemma kelvin_in_tables : lowerChar '\u212a' = ['k'] ∧ isBlank '\u212a' = false := by
  decide +kernel

/-- Only two runs of the table lead to letters from `a` to `z`. -/
lemma run_of_letters : ∀ run ∈ lowerRuns,
    run.2.1 + run.2.2.2 < 97 ∨ 122 < run.1 + run.2.2.2 ∨ run = (0x41, 0x5a, 1, 32) ∨
      run = (0x212a, 0x212a, 1, -8383) := by
  decide +kernel

/-- A form of a letter has the letter as its small form, and is not blank. -/
lemma LetterOf.small_and_not_blank (h : LetterOf d c) (hd : d.isLower = true) :
    lowerChar c = [d] ∧ isBlank c = false := by
  obtain ⟨hlow, hhigh⟩ := toNat_of_isLower hd
  obtain ⟨hsmall, hcapital⟩ := letter_in_tables d.toNat (List.mem_range'_1.mpr (by omega))
  rw [Char.ofNat_toNat] at hsmall hcapital
  rcases h with rfl | rfl | ⟨rfl, rfl⟩
  · exact hsmall
  · exact hcapital
  · exact kelvin_in_tables

lemma letterOf_of_lowerShift? {run : ℕ × ℕ × ℕ × ℤ} {shift : ℤ} (hd : d.isLower = true)
    (hrun : run ∈ lowerRuns) (hshift : lowerShift? c.toNat run = some shift)
    (hform : Char.ofNat (c.toNat + shift).toNat = d) : LetterOf d c := by
  obtain ⟨first, last, stride, distance⟩ := run
  obtain ⟨hlow, hhigh⟩ := toNat_of_isLower hd
  have hnumber := toNat_eq_of_ofNat_eq hd hform
  rw [lowerShift?] at hshift
  split at hshift
  case isFalse => cases hshift
  case isTrue hcovers =>
    obtain rfl := Option.some.inj hshift
    rcases run_of_letters _ hrun with hbelow | habove | heq | heq
    · dsimp only at hbelow
      omega
    · dsimp only at habove
      omega
    · cases heq
      have hcapital := toUpper_capital c.toNat (List.mem_range'_1.mpr (by omega))
      have hsum : c.toNat + 32 = d.toNat := by omega
      rw [hsum, Char.ofNat_toNat, Char.ofNat_toNat] at hcapital
      exact .inr (.inl hcapital.symm)
    · cases heq
      have hc : c.toNat = 0x212a := by omega
      have hk : d.toNat = 107 := by omega
      refine .inr (.inr ⟨?_, ?_⟩)
      · rw [← Char.ofNat_toNat d, hk]
      · rw [← Char.ofNat_toNat c, hc]

/-- **A character has a letter as its small form** just if it is a form of the letter. -/
lemma lowerChar_eq_singleton_iff (hd : d.isLower = true) : lowerChar c = [d] ↔ LetterOf d c := by
  refine ⟨fun h => ?_, fun h => (h.small_and_not_blank hd).1⟩
  unfold lowerChar at h
  split at h
  · cases h
  split at h
  next shift hshift =>
    obtain ⟨run, hrun, hshift⟩ := List.exists_of_findSome?_eq_some hshift
    exact letterOf_of_lowerShift? hd hrun hshift (List.singleton_inj.mp h)
  next => exact .inl (List.singleton_inj.mp h)

/-! ## Words in small letters -/

/-- The small form of a character between others. -/
def smallForm (before after : List Char) (c : Char) : List Char :=
  if c = 'Σ' then [lowerSigma before after] else lowerChar c

lemma lowerFrom_cons (before after : List Char) (c : Char) :
    lowerFrom before (c :: after) = smallForm before after c ++ lowerFrom (c :: before) after := rfl

lemma smallForm_eq_singleton_iff (hd : d.isLower = true) :
    smallForm before after c = [d] ↔ LetterOf d c := by
  rw [← lowerChar_eq_singleton_iff hd, smallForm]
  split
  next hsigma =>
    -- no form of the sigma is one of our letters
    have hother : lowerChar 'Σ' = ['σ'] := by decide +kernel
    rw [hsigma, hother, lowerSigma, List.singleton_inj, List.singleton_inj]
    refine iff_of_false ?_ ?_
    · rintro rfl
      split at hd <;> cases hd
    · rintro rfl
      cases hd
  next => rfl

/-- Only the dotted capital I becomes two characters. -/
lemma smallForm_eq (before after : List Char) (c : Char) :
    (∃ x, smallForm before after c = [x]) ∨ smallForm before after c = ['i', '\u0307'] := by
  unfold smallForm lowerChar
  split
  · exact .inl ⟨_, rfl⟩
  split
  · exact .inr rfl
  split <;> exact .inl ⟨_, rfl⟩

/-- **A text has a word in small letters as its small form** just if each of its characters is a
form of the letter at the same place. -/
lemma lowerFrom_eq_iff {b : List Char} (hds : ∀ d ∈ ds, d.isLower = true) :
    lowerFrom b cs = ds ↔ List.Forall₂ LetterOf ds cs := by
  induction cs generalizing b ds with
  | nil => simp [lowerFrom, eq_comm]
  | cons c cs ih =>
    rw [lowerFrom_cons]
    cases ds with
    | nil =>
      refine iff_of_false ?_ nofun
      rcases smallForm_eq b cs c with ⟨x, hx⟩ | hdotted
      · simp [hx]
      · simp [hdotted]
    | cons d ds =>
      obtain ⟨hd, hrest⟩ := List.forall_mem_cons.mp hds
      rw [List.forall₂_cons, ← ih (b := c :: b) hrest, ← @smallForm_eq_singleton_iff c d b cs hd]
      rcases smallForm_eq b cs c with ⟨x, hx⟩ | hdotted
      · rw [hx, List.singleton_append, List.cons.injEq, List.singleton_inj]
      · rw [hdotted]
        refine iff_of_false (fun h => ?_) (by simp)
        have hdot : '\u0307' ∈ d :: ds := h ▸ by simp
        exact absurd (hds _ hdot) (by decide)

/-- A word in letters of either case has no blanks in it. -/
lemma isBlank_of_letterOf (h : List.Forall₂ LetterOf ds cs) (hds : ∀ d ∈ ds, d.isLower = true) :
    ∀ c ∈ cs, isBlank c = false := by
  induction h with
  | nil => exact List.forall_mem_nil _
  | cons hletter _ ih =>
    obtain ⟨hd, hrest⟩ := List.forall_mem_cons.mp hds
    exact List.forall_mem_cons.mpr ⟨(hletter.small_and_not_blank hd).2, ih hrest⟩

/-! ## Blanks around a word -/

/-- The text is a word with blanks around it, or with none. -/
def Padded (word : List Char) (s : String) : Prop :=
  ∃ before after, s.toList = before ++ word ++ after ∧
    (∀ c ∈ before, isBlank c = true) ∧ ∀ c ∈ after, isBlank c = true

/-- Without the blanks around it the word is left. -/
lemma Padded.trimBlanks_eq {word : List Char} {s : String} (h : Padded word s)
    (hword : ∀ c ∈ word, isBlank c = false) : trimBlanks s.toList = word := by
  obtain ⟨before, after, heq, hbefore, hafter⟩ := h
  rw [heq]
  exact trimBlanks_append hbefore hafter (fun c hc => hword c (List.mem_of_head? hc))
    fun c hc => hword c (List.mem_of_getLast? hc)

end Text

/-! ## Names of modes -/

namespace ClockMode

variable {m m' : ClockMode} {raw : String}

/-- The names by which a mode can be given. -/
def spellings : ClockMode → List String
  | .thread => ["thread"]
  | .task => ["task"]
  | .disabled => ["disabled", "off", "none"]

/-- The text names a mode: it is one of its names in letters of either case, with blanks around it
or with none. -/
def Named (m : ClockMode) (raw : String) : Prop :=
  ∃ name ∈ m.spellings, ∃ word, List.Forall₂ Text.LetterOf name.toList word ∧ Text.Padded word raw

lemma ofName?_eq_some_iff {name : String} : ofName? name = some m ↔ name ∈ m.spellings := by
  unfold ofName?
  split
  next hthread => cases m <;> simp [spellings, hthread]
  next hthread =>
  split
  next htask => cases m <;> simp [spellings, htask]
  next htask =>
  split
  next hdisabled => rcases hdisabled with rfl | rfl | rfl <;> cases m <;> simp [spellings]
  next hdisabled => cases m <;> simp [spellings, hthread, htask, hdisabled]

lemma isLower_of_mem_spellings {name : String} (h : name ∈ m.spellings) :
    ∀ d ∈ name.toList, d.isLower = true := by
  refine List.all_eq_true.mp ?_
  cases m <;> simp only [spellings, List.mem_cons, List.not_mem_nil, or_false] at h
  · subst h
    rfl
  · subst h
    rfl
  · rcases h with rfl | rfl | rfl <;> rfl

/-- **The texts that are read as a mode are those that name it.** -/
lemma parse_eq_ok_iff : parse raw = .ok m ↔ m.Named raw := by
  have hparse : parse raw = .ok m ↔
      ∃ name ∈ m.spellings, Text.lowercase (Text.trim raw) = name := by
    simp only [parse, exists_eq_right', ← ofName?_eq_some_iff]
    split
    next hname => simp [hname]
    next hname => simp [hname]
  rw [hparse]
  refine exists_congr fun name => and_congr_right fun hname => ?_
  have hlower := isLower_of_mem_spellings hname
  rw [Text.lowercase, Text.trim, String.toList_ofList, ← String.toList_inj, String.toList_ofList,
    Text.lowerFrom_eq_iff hlower]
  constructor
  · intro h
    exact ⟨_, h, Text.exists_append_trimBlanks raw.toList⟩
  · rintro ⟨word, hword, hpadded⟩
    rwa [hpadded.trimBlanks_eq (Text.isBlank_of_letterOf hword hlower)]

/-- A text names one mode at most. -/
lemma Named.eq (h : m.Named raw) (h' : m'.Named raw) : m = m' :=
  Except.ok.inj ((parse_eq_ok_iff.mpr h).symm.trans (parse_eq_ok_iff.mpr h'))

lemma toOption_parse_eq_some_iff : (parse raw).toOption = some m ↔ m.Named raw := by
  rw [← parse_eq_ok_iff]
  cases parse raw <;> simp [Except.toOption]

end ClockMode

/-! ## Whole numbers -/

/-- The characters are a whole number in digits, with a plus sign in front or with none. -/
def WordText (n : UInt64) (cs : List Char) : Prop :=
  ∃ sign digits, (sign = [] ∨ sign = ['+']) ∧ Json.Digits digits ∧
    Nat.ofDigitChars 10 digits 0 = n.toNat ∧ cs = sign ++ digits

/-- The text is a whole number, with blanks around it or with none. -/
def Spells (n : UInt64) (raw : String) : Prop := ∃ word, WordText n word ∧ Text.Padded word raw

variable {n : UInt64}

/-- Digits are read after a plus sign, or where there is none. -/
lemma parseWord?_append {s : String} {sign digits : List Char} (hs : s.toList = sign ++ digits)
    (hsign : sign = [] ∧ digits.head? ≠ some '+' ∨ sign = ['+']) :
    parseWord? s = some n ↔ Json.Digits digits ∧ Nat.ofDigitChars 10 digits 0 = n.toNat := by
  have hread : parseWord? s =
      if digits ≠ [] ∧ digits.all Char.isDigit ∧ Decimal.ofDigits 0 digits ≤ maxWord
        then some (UInt64.ofNat (Decimal.ofDigits 0 digits)) else none := by
    rcases hsign with ⟨rfl, hhead⟩ | rfl
    · rw [parseWord?, hs, List.nil_append]
      split
      next rest => exact absurd rfl hhead
      next => rfl
    · rw [parseWord?, hs]
      rfl
  rw [hread, ← Decimal.ofDigits_eq, Json.Digits, ← List.all_eq_true]
  split
  next h =>
    have hlt : Decimal.ofDigits 0 digits < UInt64.size := Nat.lt_succ_of_le h.2.2
    rw [Option.some.injEq, ← UInt64.toNat_inj, UInt64.toNat_ofNat_of_lt' hlt]
    exact (and_iff_right ⟨h.1, h.2.1⟩).symm
  next h =>
    refine iff_of_false nofun ?_
    rintro ⟨⟨hne, hall⟩, hvalue⟩
    exact h ⟨hne, hall, hvalue ▸ Nat.le_of_lt_succ n.toNat_lt⟩

lemma parseWord?_eq_some_iff {s : String} : parseWord? s = some n ↔ WordText n s.toList := by
  constructor
  · intro h
    by_cases hplus : s.toList.head? = some '+'
    · obtain ⟨digits, hs⟩ := List.head?_eq_some_iff.mp hplus
      obtain ⟨hdigits, hvalue⟩ := (@parseWord?_append n s ['+'] digits hs (.inr rfl)).mp h
      exact ⟨['+'], digits, .inr rfl, hdigits, hvalue, hs⟩
    · obtain ⟨hdigits, hvalue⟩ := (parseWord?_append (List.nil_append _).symm (.inl ⟨rfl, hplus⟩)).mp h
      exact ⟨[], _, .inl rfl, hdigits, hvalue, rfl⟩
  · rintro ⟨sign, digits, hsign, hdigits, hvalue, hs⟩
    refine (parseWord?_append hs (hsign.imp_left fun hnone => ⟨hnone, fun hplus => ?_⟩)).mpr
      ⟨hdigits, hvalue⟩
    exact absurd (hdigits.2 _ (List.mem_of_head? hplus)) (by decide)

lemma parseWord?_trim_eq_some_iff {raw : String} :
    parseWord? (Text.trim raw) = some n ↔ Spells n raw := by
  rw [parseWord?_eq_some_iff, Text.trim, String.toList_ofList]
  constructor
  · intro h
    exact ⟨_, h, Text.exists_append_trimBlanks raw.toList⟩
  · rintro ⟨word, hword, hpadded⟩
    rwa [hpadded.trimBlanks_eq fun c hc => ?_]
    obtain ⟨sign, digits, hsign, hdigits, -, rfl⟩ := hword
    rcases List.mem_append.mp hc with hc | hc
    · rcases hsign with rfl | rfl
      · cases hc
      · obtain rfl := List.mem_singleton.mp hc
        decide
    · exact Text.isBlank_of_isDigit (hdigits.2 c hc)

/-- A text is the spelling of one number at most. -/
lemma Spells.eq {m : UInt64} {raw : String} (h : Spells m raw) (h' : Spells n raw) : m = n :=
  Option.some.inj
    ((parseWord?_trim_eq_some_iff.mpr h).symm.trans (parseWord?_trim_eq_some_iff.mpr h'))

end LinkWatch
