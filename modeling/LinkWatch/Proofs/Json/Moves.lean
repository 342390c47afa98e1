/-
# Moving over a known text

When the characters that come next are known, each move of a cursor is determined: it passes just
these characters, and the place counts them.  The statements are of the form "at the beginning of
`cs ++ rest` the move ends at `rest`", so that they can be put one after the other.
-/
import LinkWatch.Json.Token
import Mathlib.Tactic.Common

namespace LinkWatch.Json

/-! ## Places -/

/-- The place after some characters. -/
def Position.past (p : Position) (cs : List Char) : Position := cs.foldl Position.after p

@[simp] lemma Position.past_nil (p : Position) : p.past [] = p := rfl

@[simp] lemma Position.past_cons (p : Position) (c : Char) (cs : List Char) :
    p.past (c :: cs) = (p.after c).past cs := rfl

@[simp] lemma Position.past_append (p : Position) (cs ds : List Char) :
    p.past (cs ++ ds) = (p.past cs).past ds :=
  List.foldl_append

/-! ## Blanks -/

/-- All characters are blanks that may stand between the parts of a value. -/
def Gap (cs : List Char) : Prop := ∀ x ∈ cs, Cursor.isGap x = true

/-- No blank comes next. -/
def Solid (cs : List Char) : Prop := ∀ x ∈ cs.head?, Cursor.isGap x = false

lemma gap_nil : Gap [] := List.forall_mem_nil _

lemma solid_nil : Solid [] := by simp [Solid]

lemma solid_cons {x : Char} (h : Cursor.isGap x = false) (cs : List Char) : Solid (x :: cs) := by
  simpa [Solid] using h

/-- What stands before an item or a member, after blanks: a comma and more blanks, unless it is the
first one. -/
def separator (first : Bool) (h : List Char) : List Char := if first then [] else ',' :: h

namespace Cursor

variable {g h rest cs : List Char} {p : Position} {x : Char}

@[simp] lemma next_cons (x : Char) (rest : List Char) (p : Position) :
    next ⟨x :: rest, p⟩ = ⟨rest, p.after x⟩ := rfl

/-- The characters that satisfy a condition are passed, up to the first one that does not. -/
lemma dropWhile_append {f : Char → Bool} (hcs : ∀ x ∈ cs, f x = true)
    (hrest : ∀ x ∈ rest.head?, f x = false) :
    dropWhile f ⟨cs ++ rest, p⟩ = ⟨rest, p.past cs⟩ := by
  have htake : (cs ++ rest).takeWhile f = cs := by
    rw [List.takeWhile_append_of_pos hcs]
    cases rest with
    | nil => simp
    | cons y ys => simp [hrest y (by simp)]
  have hdrop : (cs ++ rest).dropWhile f = rest := by
    rw [List.dropWhile_append_of_pos hcs]
    cases rest with
    | nil => rfl
    | cons y ys => simp [hrest y (by simp)]
  rw [dropWhile, htake, hdrop, Position.past]

lemma skipGap_append (hg : Gap g) (hrest : Solid rest) :
    skipGap ⟨g ++ rest, p⟩ = ⟨rest, p.past g⟩ :=
  dropWhile_append hg hrest

/-- Where no blank comes next, none is skipped. -/
lemma skipGap_of_solid (hrest : Solid rest) : skipGap ⟨rest, p⟩ = ⟨rest, p⟩ :=
  skipGap_append gap_nil hrest

/-! ## Marks -/

/-- A list ends at its closing bracket. -/
lemma nextItem?_close (first : Bool) (hg : Gap g) :
    nextItem? first ⟨g ++ ']' :: rest, p⟩ = .ok none := by
  rw [nextItem?, skipGap_append hg (solid_cons rfl _)]
  rfl

/-- An item of a list begins after blanks and, unless it is the first one, a comma and blanks after
the comma. -/
lemma nextItem?_separator (first : Bool) (hg : Gap g) (hh : Gap h) (hx : isGap x = false)
    (hne : x ≠ ']') :
    nextItem? first ⟨g ++ separator first h ++ x :: rest, p⟩ =
      .ok (some ⟨x :: rest, p.past (g ++ separator first h)⟩) := by
  cases first with
  | true =>
    rw [separator, if_pos rfl, List.append_nil, nextItem?, skipGap_append hg (solid_cons hx _)]
    simp [hne]
  | false =>
    rw [separator, if_neg Bool.false_ne_true, List.append_assoc, List.cons_append, nextItem?,
      skipGap_append hg (solid_cons rfl _)]
    simp [skipGap_append hh (solid_cons hx _), hne]

/-- An object ends at its closing brace. -/
lemma nextName?_close (first : Bool) (hg : Gap g) :
    nextName? first ⟨g ++ '}' :: rest, p⟩ = .ok none := by
  rw [nextName?, skipGap_append hg (solid_cons rfl _)]
  rfl

/-- So does a name in an object, and then its quote is passed. -/
lemma nextName?_separator (first : Bool) (hg : Gap g) (hh : Gap h) :
    nextName? first ⟨g ++ separator first h ++ '"' :: rest, p⟩ =
      .ok (some ⟨rest, p.past (g ++ separator first h ++ ['"'])⟩) := by
  cases first with
  | true =>
    rw [separator, if_pos rfl, List.append_nil, nextName?, skipGap_append hg (solid_cons rfl _)]
    simp
  | false =>
    rw [separator, if_neg Bool.false_ne_true, List.append_assoc, List.cons_append, nextName?,
      skipGap_append hg (solid_cons rfl _)]
    simp [skipGap_append hh (solid_cons (x := '"') rfl _)]

lemma skipColon_append (hg : Gap g) :
    skipColon ⟨g ++ ':' :: rest, p⟩ = .ok ⟨rest, p.past (g ++ [':'])⟩ := by
  rw [skipColon, skipGap_append hg (solid_cons rfl _)]
  simp

lemma closeList_append (hg : Gap g) :
    closeList ⟨g ++ ']' :: rest, p⟩ = .ok ⟨rest, p.past (g ++ [']'])⟩ := by
  rw [closeList, skipGap_append hg (solid_cons rfl _)]
  simp

lemma closeObject_append (hg : Gap g) :
    closeObject ⟨g ++ '}' :: rest, p⟩ = .ok ⟨rest, p.past (g ++ ['}'])⟩ := by
  rw [closeObject, skipGap_append hg (solid_cons rfl _)]
  simp

/-- Blanks may stand at the end of a text. -/
lemma finish_of_gap (hg : Gap g) : finish ⟨g, p⟩ = .ok () := by
  have hskip := skipGap_append (p := p) hg solid_nil
  rw [List.append_nil] at hskip
  rw [finish, hskip]
  rfl

end Cursor

end LinkWatch.Json
