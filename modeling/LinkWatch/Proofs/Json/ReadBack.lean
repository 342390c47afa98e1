/-
# Values read back

A text of a value is read as the value, provided that the brackets in it are not nested too
deeply, that every number in it is read as itself, and that the members of its objects are sorted
by name, since that is how the reader keeps them.  Where the numbers are read as other numbers, the
same value is read with these instead (`Spelled.readNested_map`).  A text that is nested too deeply
is refused for this reason and for no other.
-/
import LinkWatch.Json.Reader
import LinkWatch.Proofs.Json.Numerals
import LinkWatch.Proofs.Json.Spelling
import LinkWatch.Proofs.Json.Strings
import Mathlib.Data.Nat.Basic

namespace LinkWatch.Json

namespace Value

/-! ## Nesting -/

mutual

/-- How many brackets are open at once at the deepest place of a value. -/
def nesting : Value → ℕ
  | .list items => itemsNesting items + 1
  | .object members => membersNesting members + 1
  | _ => 0

/-- The deepest nesting of the items of a list. -/
def itemsNesting : List Value → ℕ
  | [] => 0
  | v :: items => max v.nesting (itemsNesting items)

/-- The deepest nesting of the members of an object. -/
def membersNesting : List (String × Value) → ℕ
  | [] => 0
  | (_, v) :: members => max v.nesting (membersNesting members)

end

/-! ## Sorted members -/

mutual

/-- Every number in a value satisfies a condition, and the members of every object are sorted by
name, each name once. -/
def Canonical (p : Number → Prop) : Value → Prop
  | .number n => p n
  | .list items => CanonicalItems p items
  | .object members => (members.map (·.1)).Pairwise (· < ·) ∧ CanonicalMembers p members
  | _ => True

/-- All items of a list are such values. -/
def CanonicalItems (p : Number → Prop) : List Value → Prop
  | [] => True
  | v :: items => v.Canonical p ∧ CanonicalItems p items

/-- The values of all members of an object are such values. -/
def CanonicalMembers (p : Number → Prop) : List (String × Value) → Prop
  | [] => True
  | (_, v) :: members => v.Canonical p ∧ CanonicalMembers p members

end

mutual

lemma Canonical.mono {p q : Number → Prop} (hpq : ∀ n, p n → q n) :
    {v : Value} → v.Canonical p → v.Canonical q
  | .null, h => h
  | .bool _, h => h
  | .number _, h => hpq _ h
  | .string _, h => h
  | .list _, h => CanonicalItems.mono hpq h
  | .object _, h => ⟨h.1, CanonicalMembers.mono hpq h.2⟩

lemma CanonicalItems.mono {p q : Number → Prop} (hpq : ∀ n, p n → q n) :
    {items : List Value} → CanonicalItems p items → CanonicalItems q items
  | [], h => h
  | _ :: _, h => ⟨Canonical.mono hpq h.1, CanonicalItems.mono hpq h.2⟩

lemma CanonicalMembers.mono {p q : Number → Prop} (hpq : ∀ n, p n → q n) :
    {members : List (String × Value)} → CanonicalMembers p members → CanonicalMembers q members
  | [], h => h
  | (_, _) :: _, h => ⟨Canonical.mono hpq h.1, CanonicalMembers.mono hpq h.2⟩

end

/-- A member whose name comes after all others is put at the end. -/
lemma insertMember_of_lt {name : String} (v : Value) {done : List (String × Value)}
    (h : ∀ m ∈ done, m.1 < name) : insertMember name v done = done ++ [(name, v)] := by
  induction done with
  | nil => rfl
  | cons m done ih =>
    obtain ⟨other, old⟩ := m
    have hlt : other < name := h _ List.mem_cons_self
    have hne : name ≠ other := fun he => String.lt_irrefl _ (he ▸ hlt)
    rw [insertMember, if_neg hne, if_neg (String.lt_asymm hlt),
      ih fun m hm => h m (List.mem_cons_of_mem _ hm), List.cons_append]

/-! ## Other numbers in the same places -/

mutual

/-- The value with other numbers in it. -/
def mapNumbers (f : Number → Number) : Value → Value
  | .number n => .number (f n)
  | .list items => .list (mapItems f items)
  | .object members => .object (mapMembers f members)
  | v => v

/-- The items of a list with other numbers in them. -/
def mapItems (f : Number → Number) : List Value → List Value
  | [] => []
  | v :: items => v.mapNumbers f :: mapItems f items

/-- The members of an object with other numbers in their values. -/
def mapMembers (f : Number → Number) : List (String × Value) → List (String × Value)
  | [] => []
  | (name, v) :: members => (name, v.mapNumbers f) :: mapMembers f members

end

mutual

/-- Where all numbers stay the same, so does the value. -/
lemma mapNumbers_eq_self {f : Number → Number} :
    {v : Value} → v.Canonical (fun n => f n = n) → v.mapNumbers f = v
  | .null, _ | .bool _, _ | .string _, _ => rfl
  | .number _, h => congrArg Value.number h
  | .list _, h => congrArg Value.list (mapItems_eq_self h)
  | .object _, h => congrArg Value.object (mapMembers_eq_self h.2)

lemma mapItems_eq_self {f : Number → Number} :
    {items : List Value} → CanonicalItems (fun n => f n = n) items → mapItems f items = items
  | [], _ => rfl
  | _ :: _, h => congrArg₂ List.cons (mapNumbers_eq_self h.1) (mapItems_eq_self h.2)

lemma mapMembers_eq_self {f : Number → Number} :
    {members : List (String × Value)} → CanonicalMembers (fun n => f n = n) members →
      mapMembers f members = members
  | [], _ => rfl
  | (name, _) :: _, h =>
    congrArg₂ (fun v rest => (name, v) :: rest) (mapNumbers_eq_self h.1) (mapMembers_eq_self h.2)

end

end Value

/-! ## Numbers read back -/

/-- A number begins with a minus sign or a digit. -/
lemma Number.exists_chars_eq_cons (n : Number) :
    ∃ x cs, n.chars = x :: cs ∧ (x = '-' ∨ x.isDigit = true) := by
  have hsign : ∀ (negative : Bool) {cs : List Char}, (∃ d ds, cs = d :: ds ∧ d.isDigit = true) →
      ∃ x xs, (if negative then ['-'] else []) ++ cs = x :: xs ∧ (x = '-' ∨ x.isDigit = true) := by
    rintro negative _ ⟨d, ds, rfl, hd⟩
    cases negative with
    | false => exact ⟨d, ds, rfl, .inr hd⟩
    | true => exact ⟨'-', _, rfl, .inl rfl⟩
  have hdigits : ∀ n : ℕ, ∃ d ds, Nat.toDigits 10 n = d :: ds ∧ d.isDigit = true := by
    intro n
    obtain ⟨d, ds, hds⟩ := List.exists_cons_of_ne_nil (Nat.toDigits_ne_nil (n := n) (b := 10))
    exact ⟨d, ds, hds, (wholeDigits_toDigits n).isDigit d (hds ▸ List.mem_cons_self)⟩
  cases n with
  | integer z =>
    have h := hsign (z < 0) (hdigits z.natAbs)
    simp only [decide_eq_true_eq] at h
    exact h
  | real x =>
    rw [Number.chars, Binary64.chars]
    generalize x.shortest = shortest
    obtain ⟨digits, grid⟩ := shortest
    refine hsign x.negative ?_
    obtain ⟨d, ds, hds, hd⟩ := hdigits digits
    rw [hds]
    split
    · unfold Binary64.withPoint
      split
      · exact ⟨'0', _, rfl, rfl⟩
      next hwhole =>
        obtain ⟨k, hk⟩ : ∃ k, (grid + (d :: ds).length - 1 + 1 : ℤ).toNat = k + 1 :=
          Nat.exists_eq_succ_of_ne_zero (by omega)
        simp only [hk, List.take_succ_cons, List.cons_append]
        exact ⟨d, _, rfl, hd⟩
    · exact ⟨d, _, rfl, hd⟩

/-- A number is read as another one from the text in which it is written. -/
def Number.ReadAs (n m : Number) : Prop :=
  ∀ rest p, Closed rest → readNumber ⟨n.chars ++ rest, p⟩ = .ok (m, ⟨rest, p.past n.chars⟩)

/-- A number is read as itself from the text in which it is written. -/
structure Number.ReadsBack (n : Number) : Prop where
  exists_cons : ∃ x cs, n.chars = x :: cs ∧ (x = '-' ∨ x.isDigit = true)
  read : ∀ rest p, Closed rest → readNumber ⟨n.chars ++ rest, p⟩ = .ok (n, ⟨rest, p.past n.chars⟩)

/-- A whole number that fits into 64 bits is. -/
lemma Number.Whole.readsBack {n : Number} (h : n.Whole) : n.ReadsBack :=
  ⟨n.exists_chars_eq_cons, fun _ _ hrest => h.readNumber_chars hrest⟩

/-! ## The first character of a text -/

/-- A character with which a text may begin. -/
structure Opens (x : Char) : Prop where
  isGap : Cursor.isGap x = false
  ne_bracket : x ≠ ']'

/-- A number begins with a character with which a text may begin. -/
lemma opens_of_number {x : Char} (hx : x = '-' ∨ x.isDigit = true) : Opens x := by
  constructor
  · simp only [Cursor.isGap, Bool.or_eq_false_iff, decide_eq_false_iff_not]
    refine ⟨⟨⟨?_, ?_⟩, ?_⟩, ?_⟩ <;> (rintro rfl; exact absurd hx (by decide))
  · rintro rfl
    exact absurd hx (by decide)

/-- A number begins like none of the words. -/
lemma ne_word_of_number {x : Char} (hx : x = '-' ∨ x.isDigit = true) :
    x ≠ 'n' ∧ x ≠ 't' ∧ x ≠ 'f' := by
  refine ⟨?_, ?_, ?_⟩ <;> (rintro rfl; exact absurd hx (by decide))

lemma Spelled.exists_cons {v : Value} {cs : List Char} (h : Spelled v cs) :
    ∃ x xs, cs = x :: xs ∧ Opens x := by
  cases h with
  | number n =>
    obtain ⟨x, xs, hx, hhead⟩ := n.exists_chars_eq_cons
    exact ⟨x, xs, hx, opens_of_number hhead⟩
  | string s => exact ⟨_, stringTail s, rfl, rfl, by decide⟩
  | _ => exact ⟨_, _, rfl, rfl, by decide⟩

lemma Spelled.length_pos {v : Value} {cs : List Char} (h : Spelled v cs) : 0 < cs.length := by
  obtain ⟨x, xs, rfl, -⟩ := h.exists_cons
  exact Nat.succ_pos _

lemma SpelledItems.length_pos {first : Bool} {items : List Value} {cs : List Char} :
    SpelledItems first items cs → 0 < cs.length
  | .close _ _ => by simp
  | .item _ _ _ _ tail => by
    have := tail.length_pos
    rw [List.length_append]
    omega

lemma SpelledMembers.length_pos {first : Bool} {members : List (String × Value)}
    {cs : List Char} : SpelledMembers first members cs → 0 < cs.length
  | .close _ _ => by simp
  | .member _ _ _ _ _ _ _ _ => by
    rw [List.length_append, stringChars_eq, List.length_append, List.length_cons]
    omega

/-! ## What follows a value -/

lemma closed_of_gap {g rest : List Char} (hg : Gap g) (hrest : Closed rest) :
    Closed (g ++ rest) := by
  cases g with
  | nil => exact hrest
  | cons x g =>
    have hx : Cursor.isGap x = true := hg x List.mem_cons_self
    refine closed_cons ?_ _
    simp only [Cursor.isGap, Bool.or_eq_true, decide_eq_true_eq] at hx
    rcases hx with ((rfl | rfl) | rfl) | rfl <;> rfl

lemma SpelledItems.closed {items : List Value} {cs : List Char} (h : SpelledItems false items cs)
    (rest : List Char) : Closed (cs ++ rest) := by
  cases h with
  | close _ hg =>
    rw [List.append_assoc]
    exact closed_of_gap hg (closed_cons rfl _)
  | item _ hg =>
    simp only [List.append_assoc]
    exact closed_of_gap hg (closed_cons rfl _)

lemma SpelledMembers.closed {members : List (String × Value)} {cs : List Char}
    (h : SpelledMembers false members cs) (rest : List Char) : Closed (cs ++ rest) := by
  cases h with
  | close _ hg =>
    rw [List.append_assoc]
    exact closed_of_gap hg (closed_cons rfl _)
  | member _ _ hg =>
    simp only [List.append_assoc]
    exact closed_of_gap hg (closed_cons rfl _)

/-! ## Reading -/

section Steps

variable {fuel depth : ℕ} {g cs : List Char} {p : Position}

lemma readNested_append (hg : Gap g) (hcs : Solid cs) :
    readNested (fuel + 1) depth ⟨g ++ cs, p⟩ = readNested (fuel + 1) depth ⟨cs, p.past g⟩ := by
  rw [readNested, readNested, Cursor.skipGap_append hg hcs, Cursor.skipGap_of_solid hcs]

lemma readNested_number {x : Char} (hx : x = '-' ∨ x.isDigit = true) :
    readNested (fuel + 1) depth ⟨x :: cs, p⟩ =
      (readNumber ⟨x :: cs, p⟩).map fun (n, c) => (.number n, c) := by
  obtain ⟨hn, ht, hf⟩ := ne_word_of_number hx
  rw [readNested, Cursor.skipGap_of_solid (solid_cons (opens_of_number hx).isGap _)]
  simp only [hn, ht, hf, hx, if_true, if_false]
  cases readNumber ⟨x :: cs, p⟩ <;> rfl

lemma readNested_string :
    readNested (fuel + 1) depth ⟨'"' :: cs, p⟩ =
      (readString ⟨cs, p.after '"'⟩).map fun (s, c) => (.string s, c) := by
  rw [readNested, Cursor.skipGap_of_solid (solid_cons rfl _)]
  cases h : readString ⟨cs, p.after '"'⟩ <;> simp [h, bind, Except.bind, Except.map]

lemma readNested_list :
    readNested (fuel + 1) (depth + 1) ⟨'[' :: cs, p⟩ =
      readItems fuel depth true [] ⟨cs, p.after '['⟩ := by
  rw [readNested, Cursor.skipGap_of_solid (solid_cons rfl _)]
  simp

lemma readNested_object :
    readNested (fuel + 1) (depth + 1) ⟨'{' :: cs, p⟩ =
      readMembers fuel depth true [] ⟨cs, p.after '{'⟩ := by
  rw [readNested, Cursor.skipGap_of_solid (solid_cons rfl _)]
  simp

lemma readItems_close (first : Bool) (done : List Value) (hg : Gap g) :
    readItems (fuel + 1) depth first done ⟨g ++ ']' :: cs, p⟩ =
      .ok (.list done.reverse, ⟨cs, p.past (g ++ [']'])⟩) := by
  rw [readItems, Cursor.nextItem?_close first hg]
  simp [bind, Except.bind, Cursor.closeList_append hg]

lemma readMembers_close (first : Bool) (done : List (String × Value)) (hg : Gap g) :
    readMembers (fuel + 1) depth first done ⟨g ++ '}' :: cs, p⟩ =
      .ok (.object done, ⟨cs, p.past (g ++ ['}'])⟩) := by
  rw [readMembers, Cursor.nextName?_close first hg]
  simp [bind, Except.bind, Cursor.closeObject_append hg]

lemma readItems_item {h : List Char} {x : Char} (first : Bool) (done : List Value) (hg : Gap g)
    (hh : Gap h) (hx : Opens x) :
    readItems (fuel + 1) depth first done ⟨g ++ separator first h ++ x :: cs, p⟩ =
      (readNested fuel depth ⟨x :: cs, p.past (g ++ separator first h)⟩).bind fun (item, c) =>
        readItems fuel depth false (item :: done) c := by
  rw [readItems, Cursor.nextItem?_separator first hg hh hx.isGap hx.ne_bracket]
  rfl

lemma readMembers_member {h k : List Char} (first : Bool) (name : String)
    (done : List (String × Value)) (hg : Gap g) (hh : Gap h) (hk : Gap k) :
    readMembers (fuel + 1) depth first done
        ⟨g ++ separator first h ++ stringChars name ++ (k ++ ':' :: cs), p⟩ =
      (readNested fuel depth
        ⟨cs, p.past (g ++ separator first h ++ stringChars name ++ (k ++ [':']))⟩).bind
        fun (value, c) =>
          readMembers fuel depth false (Value.insertMember name value done) c := by
  rw [stringChars_eq, List.append_assoc _ ('"' :: _), List.cons_append, readMembers,
    Cursor.nextName?_separator first hg hh]
  simp only [bind, Except.bind, readString_stringTail, Cursor.skipColon_append hk]
  simp

/-- The first item of a list is read, and then the rest. -/
lemma readItems_spelled {v : Value} {h rest : List Char} (head : Spelled v cs)
    (first : Bool) (done : List Value) (hg : Gap g) (hh : Gap h) :
    readItems (fuel + 1) depth first done ⟨g ++ separator first h ++ (cs ++ rest), p⟩ =
      (readNested fuel depth ⟨cs ++ rest, p.past (g ++ separator first h)⟩).bind fun (item, c) =>
        readItems fuel depth false (item :: done) c := by
  obtain ⟨x, xs, rfl, hx⟩ := head.exists_cons
  exact readItems_item first done hg hh hx

/-- The first member of an object is read, and then the rest. -/
lemma readMembers_spelled {v : Value} {h k l rest : List Char} (head : Spelled v cs)
    (first : Bool) (name : String) (done : List (String × Value)) (hg : Gap g) (hh : Gap h) (hk : Gap k) (hl : Gap l) :
    readMembers (fuel + 2) depth first done
        ⟨g ++ separator first h ++ stringChars name ++ (k ++ ':' :: (l ++ (cs ++ rest))), p⟩ =
      (readNested (fuel + 1) depth ⟨cs ++ rest,
        p.past (g ++ separator first h ++ stringChars name ++ (k ++ ':' :: l))⟩).bind
        fun (value, c) =>
          readMembers (fuel + 1) depth false (Value.insertMember name value done) c := by
  obtain ⟨x, xs, rfl, hx⟩ := head.exists_cons
  have hsolid : Solid (x :: xs ++ rest) := solid_cons hx.isGap _
  rw [readMembers_member first name done hg hh hk, readNested_append hl hsolid,
    ← Position.past_append]
  simp

end Steps

mutual

/-- **A text of a value is read as the value, each number in it as what its text is read as.** -/
lemma Spelled.readNested_map {r : Number → Number} {v : Value} {cs : List Char} {fuel depth : ℕ}
    {rest : List Char} {p : Position} :
    Spelled v cs → v.Canonical (fun n => n.ReadAs (r n)) → v.nesting ≤ depth →
      cs.length ≤ fuel → Closed rest →
      readNested fuel depth ⟨cs ++ rest, p⟩ = .ok (v.mapNumbers r, ⟨rest, p.past cs⟩)
  | .null, _, _, hf, _ => by
    obtain ⟨f, rfl⟩ : ∃ f, fuel = f + 1 := ⟨fuel - 1, by rw [List.length_cons] at hf; omega⟩
    rfl
  | .true, _, _, hf, _ => by
    obtain ⟨f, rfl⟩ : ∃ f, fuel = f + 1 := ⟨fuel - 1, by rw [List.length_cons] at hf; omega⟩
    rfl
  | .false, _, _, hf, _ => by
    obtain ⟨f, rfl⟩ : ∃ f, fuel = f + 1 := ⟨fuel - 1, by rw [List.length_cons] at hf; omega⟩
    rfl
  | .number n, hv, _, hf, hrest => by
    have hread := hv rest p hrest
    obtain ⟨x, xs, hx, hhead⟩ := n.exists_chars_eq_cons
    rw [hx] at hf hread ⊢
    obtain ⟨f, rfl⟩ : ∃ f, fuel = f + 1 := ⟨fuel - 1, by rw [List.length_cons] at hf; omega⟩
    rw [List.cons_append] at hread ⊢
    rw [readNested_number hhead, hread]
    rfl
  | .string s, _, _, hf, _ => by
    rw [stringChars_eq] at hf ⊢
    obtain ⟨f, rfl⟩ : ∃ f, fuel = f + 1 := ⟨fuel - 1, by rw [List.length_cons] at hf; omega⟩
    rw [List.cons_append, readNested_string, readString_stringTail]
    rfl
  | .list tail, hv, hd, hf, _ => by
    rw [List.length_cons] at hf
    rw [Value.nesting] at hd
    obtain ⟨f, rfl⟩ : ∃ f, fuel = f + 1 := ⟨fuel - 1, by omega⟩
    obtain ⟨d, rfl⟩ : ∃ d, depth = d + 1 := ⟨depth - 1, by omega⟩
    rw [List.cons_append, readNested_list,
      tail.readItems_map [] hv (Nat.le_of_succ_le_succ hd) (Nat.le_of_succ_le_succ hf)]
    rfl
  | .object tail, hv, hd, hf, _ => by
    rw [List.length_cons] at hf
    rw [Value.nesting] at hd
    obtain ⟨f, rfl⟩ : ∃ f, fuel = f + 1 := ⟨fuel - 1, by omega⟩
    obtain ⟨d, rfl⟩ : ∃ d, depth = d + 1 := ⟨depth - 1, by omega⟩
    rw [List.cons_append, readNested_object,
      tail.readMembers_map [] hv.1 hv.2 (Nat.le_of_succ_le_succ hd) (Nat.le_of_succ_le_succ hf)]
    rfl

lemma SpelledItems.readItems_map {r : Number → Number} {first : Bool} {items : List Value}
    {cs : List Char} {fuel depth : ℕ} {rest : List Char} {p : Position} (done : List Value) :
    SpelledItems first items cs → Value.CanonicalItems (fun n => n.ReadAs (r n)) items →
      Value.itemsNesting items ≤ depth → cs.length ≤ fuel →
      readItems fuel depth first done ⟨cs ++ rest, p⟩ =
        .ok (.list (done.reverse ++ Value.mapItems r items), ⟨rest, p.past cs⟩)
  | .close first hg, _, _, hf => by
    rw [List.length_append, List.length_singleton] at hf
    obtain ⟨f, rfl⟩ : ∃ f, fuel = f + 1 := ⟨fuel - 1, by omega⟩
    rw [List.append_assoc, List.singleton_append, readItems_close first done hg, Value.mapItems,
      List.append_nil]
  | .item first hg hh head tail, hv, hd, hf => by
    have hpos := head.length_pos
    have htail := tail.length_pos
    rw [List.length_append, List.length_append] at hf
    rw [Value.itemsNesting, Nat.max_le] at hd
    obtain ⟨f, rfl⟩ : ∃ f, fuel = f + 1 := ⟨fuel - 1, by omega⟩
    rw [List.append_assoc _ _ rest, List.append_assoc,
      readItems_spelled head first done hg hh,
      head.readNested_map hv.1 hd.1 (by omega) (tail.closed rest)]
    simp only [Except.bind]
    rw [tail.readItems_map _ hv.2 hd.2 (by omega)]
    simp [Value.mapItems]

lemma SpelledMembers.readMembers_map {r : Number → Number} {first : Bool}
    {members : List (String × Value)} {cs : List Char} {fuel depth : ℕ} {rest : List Char} {p : Position}
    (done : List (String × Value)) :
    SpelledMembers first members cs →
      ((done ++ members).map (·.1)).Pairwise (· < ·) →
      Value.CanonicalMembers (fun n => n.ReadAs (r n)) members →
      Value.membersNesting members ≤ depth → cs.length ≤ fuel →
      readMembers fuel depth first done ⟨cs ++ rest, p⟩ =
        .ok (.object (done ++ Value.mapMembers r members), ⟨rest, p.past cs⟩)
  | .close first hg, _, _, _, hf => by
    rw [List.length_append, List.length_singleton] at hf
    obtain ⟨f, rfl⟩ : ∃ f, fuel = f + 1 := ⟨fuel - 1, by omega⟩
    rw [List.append_assoc, List.singleton_append, readMembers_close first done hg, Value.mapMembers,
      List.append_nil]
  | @SpelledMembers.member _ name _ _ k l cs ds v members hg hh hk hl head tail,
      hs, hv, hd, hf => by
    have hpos := head.length_pos
    have htail := tail.length_pos
    simp only [List.length_append, List.length_cons] at hf
    rw [Value.membersNesting, Nat.max_le] at hd
    obtain ⟨f, rfl⟩ : ∃ f, fuel = f + 2 := ⟨fuel - 2, by omega⟩
    have hlast : ∀ m ∈ done, m.1 < name := by
      rw [List.map_append, List.pairwise_append] at hs
      exact fun m hm => hs.2.2 m.1 (List.mem_map_of_mem hm) name List.mem_cons_self
    rw [List.append_assoc _ _ rest, List.append_assoc k, List.cons_append, List.append_assoc l,
      List.append_assoc cs, readMembers_spelled head first name done hg hh hk hl,
      head.readNested_map hv.1 hd.1 (by omega) (tail.closed rest)]
    simp only [Except.bind]
    rw [Value.insertMember_of_lt _ hlast, tail.readMembers_map (done ++ [(name, v.mapNumbers r)])
      (by simpa using hs) hv.2 hd.2 (by omega)]
    simp [Value.mapMembers]

end

/-- **A text of a value is read as the value**, if its numbers are read as themselves. -/
lemma Spelled.readNested_eq {v : Value} {cs : List Char} {fuel depth : ℕ} {rest : List Char}
    {p : Position} (h : Spelled v cs) (hv : v.Canonical Number.ReadsBack) (hd : v.nesting ≤ depth)
    (hf : cs.length ≤ fuel) (hrest : Closed rest) :
    readNested fuel depth ⟨cs ++ rest, p⟩ = .ok (v, ⟨rest, p.past cs⟩) := by
  have hmap := h.readNested_map (r := id) (p := p) (hv.mono fun _ hn => hn.read) hd hf hrest
  rwa [Value.mapNumbers_eq_self (f := id) (hv.mono fun _ _ => rfl)] at hmap

/-! ## Too many brackets -/

section Brackets

variable {fuel : ℕ} {cs : List Char} {p : Position}

lemma readNested_list_zero :
    readNested (fuel + 1) 0 ⟨'[' :: cs, p⟩ = Cursor.failNext ⟨'[' :: cs, p⟩ .nestedTooDeeply := by
  rw [readNested, Cursor.skipGap_of_solid (solid_cons rfl _)]
  simp

lemma readNested_object_zero :
    readNested (fuel + 1) 0 ⟨'{' :: cs, p⟩ = Cursor.failNext ⟨'{' :: cs, p⟩ .nestedTooDeeply := by
  rw [readNested, Cursor.skipGap_of_solid (solid_cons rfl _)]
  simp

end Brackets

mutual

/-- **A text that is nested too deeply is refused for this reason.** -/
lemma Spelled.tooDeep {v : Value} {cs : List Char} {fuel depth : ℕ} {rest : List Char}
    {p : Position} : Spelled v cs → v.Canonical Number.ReadsBack → depth < v.nesting →
      cs.length ≤ fuel →
      ∃ q, readNested fuel depth ⟨cs ++ rest, p⟩ = .error ⟨.nestedTooDeeply, some q⟩
  | .null, _, hd, _ | .true, _, hd, _ | .false, _, hd, _ | .number _, _, hd, _
  | .string _, _, hd, _ => absurd hd (Nat.not_lt_zero _)
  | .list tail, hv, hd, hf => by
    rw [List.length_cons] at hf
    rw [Value.nesting] at hd
    obtain ⟨f, rfl⟩ : ∃ f, fuel = f + 1 := ⟨fuel - 1, by omega⟩
    rw [List.cons_append]
    cases depth with
    | zero => exact ⟨_, readNested_list_zero⟩
    | succ d =>
      rw [readNested_list]
      exact tail.tooDeep [] hv (Nat.lt_of_succ_lt_succ hd) (Nat.le_of_succ_le_succ hf)
  | .object tail, hv, hd, hf => by
    rw [List.length_cons] at hf
    rw [Value.nesting] at hd
    obtain ⟨f, rfl⟩ : ∃ f, fuel = f + 1 := ⟨fuel - 1, by omega⟩
    rw [List.cons_append]
    cases depth with
    | zero => exact ⟨_, readNested_object_zero⟩
    | succ d =>
      rw [readNested_object]
      exact tail.tooDeep [] hv.2 (Nat.lt_of_succ_lt_succ hd) (Nat.le_of_succ_le_succ hf)

lemma SpelledItems.tooDeep {first : Bool} {items : List Value} {cs : List Char}
    {fuel depth : ℕ} {rest : List Char} {p : Position} (done : List Value) :
    SpelledItems first items cs → Value.CanonicalItems Number.ReadsBack items →
      depth < Value.itemsNesting items → cs.length ≤ fuel →
      ∃ q, readItems fuel depth first done ⟨cs ++ rest, p⟩ = .error ⟨.nestedTooDeeply, some q⟩
  | .close _ _, _, hd, _ => absurd hd (Nat.not_lt_zero _)
  | @SpelledItems.item _ g h cs ds v items hg hh head tail, hv, hd, hf => by
    have hpos := head.length_pos
    have htail := tail.length_pos
    rw [List.length_append, List.length_append] at hf
    obtain ⟨f, rfl⟩ : ∃ f, fuel = f + 1 := ⟨fuel - 1, by omega⟩
    rw [List.append_assoc _ _ rest, List.append_assoc, readItems_spelled head first done hg hh]
    -- the first item that is too deep is where the reading ends
    by_cases hfits : v.nesting ≤ depth
    · have hrest : depth < Value.itemsNesting items := by
        rw [Value.itemsNesting] at hd
        omega
      rw [head.readNested_eq hv.1 hfits (by omega) (tail.closed rest)]
      exact tail.tooDeep _ hv.2 hrest (by omega)
    · obtain ⟨q, hq⟩ : ∃ q,
          readNested f depth ⟨cs ++ (ds ++ rest), p.past (g ++ separator first h)⟩ =
            .error ⟨.nestedTooDeeply, some q⟩ :=
        head.tooDeep hv.1 (Nat.lt_of_not_le hfits) (by omega)
      exact ⟨q, by rw [hq]; rfl⟩

lemma SpelledMembers.tooDeep {first : Bool} {members : List (String × Value)} {cs : List Char}
    {fuel depth : ℕ} {rest : List Char} {p : Position} (done : List (String × Value)) :
    SpelledMembers first members cs → Value.CanonicalMembers Number.ReadsBack members →
      depth < Value.membersNesting members → cs.length ≤ fuel →
      ∃ q, readMembers fuel depth first done ⟨cs ++ rest, p⟩ = .error ⟨.nestedTooDeeply, some q⟩
  | .close _ _, _, hd, _ => absurd hd (Nat.not_lt_zero _)
  | @SpelledMembers.member _ name g h k l cs ds v members hg hh hk hl head tail, hv, hd, hf => by
    have hpos := head.length_pos
    have htail := tail.length_pos
    simp only [List.length_append, List.length_cons] at hf
    obtain ⟨f, rfl⟩ : ∃ f, fuel = f + 2 := ⟨fuel - 2, by omega⟩
    rw [List.append_assoc _ _ rest, List.append_assoc k, List.cons_append, List.append_assoc l,
      List.append_assoc cs, readMembers_spelled head first name done hg hh hk hl]
    by_cases hfits : v.nesting ≤ depth
    · have hrest : depth < Value.membersNesting members := by
        rw [Value.membersNesting] at hd
        omega
      rw [head.readNested_eq hv.1 hfits (by omega) (tail.closed rest)]
      exact tail.tooDeep _ hv.2 hrest (by omega)
    · generalize p.past (g ++ separator first h ++ stringChars name ++ (k ++ ':' :: l)) = p'
      obtain ⟨q, hq⟩ : ∃ q, readNested (f + 1) depth ⟨cs ++ (ds ++ rest), p'⟩ =
          .error ⟨.nestedTooDeeply, some q⟩ :=
        head.tooDeep hv.1 (Nat.lt_of_not_le hfits) (by omega)
      exact ⟨q, by rw [hq]; rfl⟩

end

/-! ## Whole texts -/

variable {v : Value} {cs : List Char}

/-- A text of a value is read as the value, each number as what its text is read as, if no more
brackets are open than may be. -/
lemma Spelled.parseChars_map {f : Number → Number} (h : Spelled v cs)
    (hv : v.Canonical (fun n => n.ReadAs (f n))) (hd : v.nesting ≤ maxDepth) :
    parseChars cs = .ok (v.mapNumbers f) := by
  have hread : readNested (2 * cs.length + 2) maxDepth ⟨cs ++ [], ⟨1, 0⟩⟩ =
      .ok (v.mapNumbers f, ⟨[], Position.past ⟨1, 0⟩ cs⟩) :=
    h.readNested_map hv hd (by omega) closed_nil
  rw [List.append_nil] at hread
  simp only [parseChars, readValue, Cursor.start, hread, bind, Except.bind,
    Cursor.finish_of_gap gap_nil]

/-- So it is read as the value itself, if its numbers are. -/
lemma Spelled.parseChars_eq (h : Spelled v cs) (hv : v.Canonical Number.ReadsBack)
    (hd : v.nesting ≤ maxDepth) : parseChars cs = .ok v := by
  have hmap := h.parseChars_map (f := id) (hv.mono fun _ hn => hn.read) hd
  rwa [Value.mapNumbers_eq_self (f := id) (hv.mono fun _ _ => rfl)] at hmap

/-- Otherwise it is refused because of that. -/
lemma Spelled.parseChars_tooDeep (h : Spelled v cs) (hv : v.Canonical Number.ReadsBack)
    (hd : maxDepth < v.nesting) : ∃ q, parseChars cs = .error ⟨.nestedTooDeeply, some q⟩ := by
  obtain ⟨q, hq⟩ : ∃ q, readNested (2 * cs.length + 2) maxDepth ⟨cs ++ [], ⟨1, 0⟩⟩ =
      .error ⟨.nestedTooDeeply, some q⟩ := h.tooDeep hv hd (by omega)
  rw [List.append_nil] at hq
  exact ⟨q, by simp only [parseChars, readValue, Cursor.start, hq, bind, Except.bind]⟩

/-- **A numeral without an exponent is read as its value.** -/
lemma Numeral.parseChars_plainChars {n : Numeral} {x : Number} (h : n.Plain)
    (hx : n.value? = some x) : parseChars n.plainChars = .ok (.number x) := by
  have hread := readNumber_plainChars (p := ⟨1, 0⟩) h hx closed_nil
  obtain ⟨y, ys, hy, hhead⟩ := h.exists_cons
  rw [List.append_nil] at hread
  rw [hy] at hread ⊢
  simp only [parseChars, readValue, Cursor.start, readNested_number hhead, hread, bind, Except.bind,
    Except.map, Cursor.finish_of_gap gap_nil]

/-- A text is a text of one value only. -/
lemma Spelled.injective {w : Value} (hv : Spelled v cs) (hw : Spelled w cs)
    (hcv : v.Canonical Number.ReadsBack) (hcw : w.Canonical Number.ReadsBack) : v = w := by
  -- at a depth that both fit into
  have hreadv : readNested cs.length (max v.nesting w.nesting) ⟨cs ++ [], ⟨1, 0⟩⟩ = _ :=
    hv.readNested_eq hcv (Nat.le_max_left _ _) (Nat.le_refl _) closed_nil
  have hreadw : readNested cs.length (max v.nesting w.nesting) ⟨cs ++ [], ⟨1, 0⟩⟩ = _ :=
    hw.readNested_eq hcw (Nat.le_max_right _ _) (Nat.le_refl _) closed_nil
  rw [hreadv] at hreadw
  exact congrArg Prod.fst (Except.ok.inj hreadw)

end LinkWatch.Json
