/-
# The texts of a value

A value may be written with blanks anywhere between its parts.  The compact form has none, and
the indented form has a new line before every item; everything that is said here of all spellings
holds of both.
-/
import LinkWatch.Json.Writer
import LinkWatch.Proofs.Json.Moves

namespace LinkWatch.Json

mutual

/-- The characters are a text of the value, with blanks anywhere between its parts. -/
inductive Spelled : Value → List Char → Prop
  | null : Spelled .null ['n', 'u', 'l', 'l']
  | true : Spelled (.bool true) ['t', 'r', 'u', 'e']
  | false : Spelled (.bool false) ['f', 'a', 'l', 's', 'e']
  | number (n : Number) : Spelled (.number n) n.chars
  | string (s : String) : Spelled (.string s) (stringChars s)
  | list {items : List Value} {cs : List Char} (tail : SpelledItems true items cs) :
      Spelled (.list items) ('[' :: cs)
  | object {members : List (String × Value)} {cs : List Char}
      (tail : SpelledMembers true members cs) : Spelled (.object members) ('{' :: cs)

/-- The characters are what is left of a list, with its closing bracket. -/
inductive SpelledItems : Bool → List Value → List Char → Prop
  | close (first : Bool) {g : List Char} (hg : Gap g) : SpelledItems first [] (g ++ [']'])
  | item (first : Bool) {g h cs ds : List Char} {v : Value} {items : List Value} (hg : Gap g)
      (hh : Gap h) (head : Spelled v cs) (tail : SpelledItems false items ds) :
      SpelledItems first (v :: items) (g ++ separator first h ++ cs ++ ds)

/-- The characters are what is left of an object, with its closing brace. -/
inductive SpelledMembers : Bool → List (String × Value) → List Char → Prop
  | close (first : Bool) {g : List Char} (hg : Gap g) : SpelledMembers first [] (g ++ ['}'])
  | member (first : Bool) (name : String) {g h k l cs ds : List Char} {v : Value}
      {members : List (String × Value)} (hg : Gap g) (hh : Gap h) (hk : Gap k) (hl : Gap l)
      (head : Spelled v cs) (tail : SpelledMembers false members ds) :
      SpelledMembers first ((name, v) :: members)
        (g ++ separator first h ++ stringChars name ++ (k ++ ':' :: (l ++ (cs ++ ds))))

end

namespace Value

/-! ## The compact form -/

mutual

lemma spelled_chars : (v : Value) → Spelled v v.chars
  | .null => .null
  | .bool true => .true
  | .bool false => .false
  | .number n => .number n
  | .string s => .string s
  | .list items => .list (spelled_itemsChars true items)
  | .object members => .object (spelled_membersChars true members)

lemma spelled_itemsChars (first : Bool) :
    (items : List Value) → SpelledItems first items (itemsChars first items ++ [']'])
  | [] => .close first gap_nil
  | v :: items => by
    have h := SpelledItems.item first gap_nil gap_nil (spelled_chars v)
      (spelled_itemsChars false items)
    simpa [itemsChars, separator] using h

lemma spelled_membersChars (first : Bool) :
    (members : List (String × Value)) →
      SpelledMembers first members (membersChars first members ++ ['}'])
  | [] => .close first gap_nil
  | (name, v) :: members => by
    have h := SpelledMembers.member first name gap_nil gap_nil gap_nil gap_nil (spelled_chars v)
      (spelled_membersChars false members)
    simpa [membersChars, separator] using h

end

/-! ## The indented form -/

lemma gap_newLine (level : ℕ) : Gap (newLine level) := by
  intro x hx
  rcases List.mem_cons.mp hx with rfl | hx
  · rfl
  · rw [List.eq_of_mem_replicate hx]
    rfl

lemma gap_blank : Gap [' '] := by simp [Gap, Cursor.isGap]

mutual

lemma spelled_indentedChars (level : ℕ) : (v : Value) → Spelled v (v.indentedChars level)
  | .null => .null
  | .bool true => .true
  | .bool false => .false
  | .number n => .number n
  | .string s => .string s
  | .list [] => .list (.close true gap_nil)
  | .list (_ :: _) => .list (spelled_indentedItems (level + 1) true (gap_newLine level) _)
  | .object [] => .object (.close true gap_nil)
  | .object ((_, _) :: _) =>
    .object (spelled_indentedMembers (level + 1) true (gap_newLine level) _)

lemma spelled_indentedItems (level : ℕ) (first : Bool) {g : List Char} (hg : Gap g) :
    (items : List Value) → SpelledItems first items (indentedItems level first items ++ g ++ [']'])
  | [] => .close first hg
  | v :: items => by
    have head := spelled_indentedChars level v
    have tail := spelled_indentedItems level false hg items
    -- the new line comes after the comma, if there is one
    cases first with
    | true =>
      have h := SpelledItems.item true (gap_newLine level) gap_nil head tail
      simpa [indentedItems, separator] using h
    | false =>
      have h := SpelledItems.item false gap_nil (gap_newLine level) head tail
      simpa [indentedItems, separator] using h

lemma spelled_indentedMembers (level : ℕ) (first : Bool) {g : List Char} (hg : Gap g) :
    (members : List (String × Value)) →
      SpelledMembers first members (indentedMembers level first members ++ g ++ ['}'])
  | [] => .close first hg
  | (name, v) :: members => by
    have head := spelled_indentedChars level v
    have tail := spelled_indentedMembers level false hg members
    cases first with
    | true =>
      have h := SpelledMembers.member true name (gap_newLine level) gap_nil gap_nil gap_blank head
        tail
      simpa [indentedMembers, separator] using h
    | false =>
      have h := SpelledMembers.member false name gap_nil (gap_newLine level) gap_nil gap_blank head
        tail
      simpa [indentedMembers, separator] using h

end

end Value

end LinkWatch.Json
