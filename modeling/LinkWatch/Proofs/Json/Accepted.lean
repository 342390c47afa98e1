/-
# What the reader accepts

A text that is read as a value is a text of the grammar.  What one call of the reader does when it
succeeds is said first (`ReadValue`, `ReadItems`, `ReadMembers`); from this it follows, by induction
on the number of calls, that the characters passed are a value (`readNested_text`), and so that a
whole text is a value between blanks (`exists_of_parseChars`).
-/
import LinkWatch.Proofs.Json.Passed

namespace LinkWatch.Json

open Cursor

variable {c c' : Cursor}

/-! ## One call -/

/-- A value without brackets. -/
inductive Value.Scalar : Value → Prop
  | null : Scalar .null
  | bool (b : Bool) : Scalar (.bool b)
  | number {n : Number} (h : n.Readable) : Scalar (.number n)
  | string (s : String) : Scalar (.string s)

/-- What a call that reads a value does when it succeeds. -/
inductive ReadValue (fuel depth : ℕ) (c : Cursor) (v : Value) (c' : Cursor) : Prop
  | scalar {text : List Char} (hv : v.Scalar) (htext : ValueText text)
      (hrest : c.skipGap.rest = text ++ c'.rest)
  | list (hdepth : depth ≠ 0) (hrest : c.skipGap.rest = '[' :: c.skipGap.next.rest)
      (tail : readItems fuel (depth - 1) true [] c.skipGap.next = .ok (v, c'))
  | object (hdepth : depth ≠ 0) (hrest : c.skipGap.rest = '{' :: c.skipGap.next.rest)
      (tail : readMembers fuel (depth - 1) true [] c.skipGap.next = .ok (v, c'))

/-- What a call that reads the rest of a list does. -/
inductive ReadItems (fuel depth : ℕ) (first : Bool) (done : List Value) (c : Cursor) (v : Value)
    (c' : Cursor) : Prop
  | close {g : List Char} (hg : Gap g) (hrest : c.rest = g ++ ']' :: c'.rest)
      (hv : v = .list done.reverse)
  | item {g k : List Char} {c₁ c₂ : Cursor} {item : Value} (hg : Gap g) (hk : Gap k)
      (hrest : c.rest = g ++ separator first k ++ c₁.skipGap.rest)
      (head : readNested fuel depth c₁ = .ok (item, c₂))
      (tail : readItems fuel depth false (item :: done) c₂ = .ok (v, c'))

/-- What a call that reads the rest of an object does. -/
inductive ReadMembers (fuel depth : ℕ) (first : Bool) (done : List (String × Value)) (c : Cursor)
    (v : Value) (c' : Cursor) : Prop
  | close {g : List Char} (hg : Gap g) (hrest : c.rest = g ++ '}' :: c'.rest)
      (hv : v = .object done)
  | member {g k l m : List Char} {name : String} {text : List Char} {c₁ c₂ : Cursor} {value : Value}
      (hg : Gap g) (hk : Gap k) (hl : Gap l) (hm : Gap m) (hname : StringText text)
      (hrest : c.rest = g ++ separator first k ++ text ++ (l ++ ':' :: (m ++ c₁.skipGap.rest)))
      (head : readNested fuel depth c₁ = .ok (value, c₂))
      (tail : readMembers fuel depth false (Value.insertMember name value done) c₂ = .ok (v, c'))

section Calls

variable {fuel depth : ℕ} {first : Bool} {v : Value}

lemma readValue_of_readNested (h : readNested (fuel + 1) depth c = .ok (v, c')) :
    ReadValue fuel depth c v c' := by
  have hword : ∀ {x : Char} {xs letters : List Char}, c.skipGap.rest = x :: xs →
      skipWord letters c.skipGap.next = .ok c' → c.skipGap.rest = (x :: letters) ++ c'.rest := by
    intro x xs letters hx hw
    rw [rest_eq_cons_next hx, skipWord_ok hw, List.cons_append]
  rw [readNested] at h
  dsimp only at h
  split at h
  · cases h
  next x xs hx =>
    split at h
    next hn =>
      obtain ⟨c₁, hw, h⟩ := exists_of_bind_eq_ok h
      cases h
      subst hn
      exact .scalar .null .null (hword hx hw)
    split at h
    next ht =>
      obtain ⟨c₁, hw, h⟩ := exists_of_bind_eq_ok h
      cases h
      subst ht
      exact .scalar (.bool true) .true (hword hx hw)
    split at h
    next hf =>
      obtain ⟨c₁, hw, h⟩ := exists_of_bind_eq_ok h
      cases h
      subst hf
      exact .scalar (.bool false) .false (hword hx hw)
    split at h
    · obtain ⟨⟨n, c₁⟩, hn, h⟩ := exists_of_bind_eq_ok h
      cases h
      obtain ⟨⟨text, htext, hrest⟩, hn⟩ := readNumber_ok hn
      exact .scalar (.number hn) (.number htext) hrest
    split at h
    next hquote =>
      obtain ⟨⟨s, c₁⟩, hs, h⟩ := exists_of_bind_eq_ok h
      cases h
      obtain ⟨text, htext, hrest⟩ := readString_ok hs
      refine .scalar (.string s) (.string htext) ?_
      rw [rest_eq_cons_next hx, hquote, hrest, List.cons_append]
    split at h
    next hlist =>
      split at h
      · cases h
      next hdepth => exact .list hdepth (hlist ▸ rest_eq_cons_next hx) h
    split at h
    next hobject =>
      split at h
      · cases h
      next hdepth => exact .object hdepth (hobject ▸ rest_eq_cons_next hx) h
    · cases h

lemma readItems_of_readItems {done : List Value}
    (h : readItems (fuel + 1) depth first done c = .ok (v, c')) :
    ReadItems fuel depth first done c v c' := by
  rw [readItems] at h
  obtain ⟨next, hnext, h⟩ := exists_of_bind_eq_ok h
  cases next with
  | none =>
    obtain ⟨c₁, hclose, h⟩ := exists_of_bind_eq_ok h
    cases h
    obtain ⟨g, hg, hrest⟩ := closeList_ok hclose
    exact .close hg hrest rfl
  | some c₁ =>
    obtain ⟨⟨item, c₂⟩, head, tail⟩ := exists_of_bind_eq_ok h
    obtain ⟨g, k, hg, hk, hsolid, hrest⟩ := nextItem?_some hnext
    exact .item hg hk (by rw [hrest, skipGap_rest_of_solid hsolid]) head tail

lemma readMembers_of_readMembers {done : List (String × Value)}
    (h : readMembers (fuel + 1) depth first done c = .ok (v, c')) :
    ReadMembers fuel depth first done c v c' := by
  rw [readMembers] at h
  obtain ⟨next, hnext, h⟩ := exists_of_bind_eq_ok h
  cases next with
  | none =>
    obtain ⟨c₁, hclose, h⟩ := exists_of_bind_eq_ok h
    cases h
    obtain ⟨g, hg, hrest⟩ := closeObject_ok hclose
    exact .close hg hrest rfl
  | some c₁ =>
    obtain ⟨⟨name, c₂⟩, hname, h⟩ := exists_of_bind_eq_ok h
    obtain ⟨c₃, hcolon, h⟩ := exists_of_bind_eq_ok h
    obtain ⟨⟨value, c₄⟩, head, tail⟩ := exists_of_bind_eq_ok h
    obtain ⟨g, k, hg, hk, hrest⟩ := nextName?_some hnext
    obtain ⟨text, htext, hrest'⟩ := readString_ok hname
    obtain ⟨l, hl, hrest''⟩ := skipColon_ok hcolon
    obtain ⟨m, hm, hblank, -⟩ := c₃.exists_gap
    refine .member hg hk hl hm htext ?_ head tail
    rw [hrest, hrest', hrest'', hblank]
    simp

end Calls

/-! ## Values -/

/-- The text of a list. -/
def ListText (text : List Char) : Prop := ∃ cs, ItemsText true cs ∧ text = '[' :: cs

lemma ListText.valueText {text : List Char} : ListText text → ValueText text
  | ⟨_, hcs, h⟩ => h ▸ .list hcs

/-- **What the reader passes is a value of the grammar**, and it is a list when a list was read. -/
lemma readNested_text (fuel : ℕ) :
    (∀ {depth c v c'}, readNested fuel depth c = .ok (v, c') →
      ∃ text, ValueText text ∧ ((∃ items, v = .list items) → ListText text) ∧
        c.skipGap.rest = text ++ c'.rest) ∧
    (∀ {depth first done c v c'}, readItems fuel depth first done c = .ok (v, c') →
      ∃ text, ItemsText first text ∧ c.rest = text ++ c'.rest) ∧
    ∀ {depth first done c v c'}, readMembers fuel depth first done c = .ok (v, c') →
      ∃ text, MembersText first text ∧ (∃ members, v = .object members) ∧
        c.rest = text ++ c'.rest := by
  induction fuel with
  | zero =>
    refine ⟨fun h => ?_, fun h => ?_, fun h => ?_⟩ <;> simp [failAt] at h
  | succ fuel ih =>
    obtain ⟨ihValue, ihItems, ihMembers⟩ := ih
    refine ⟨fun h => ?_, fun h => ?_, fun h => ?_⟩
    · cases readValue_of_readNested h with
      | scalar hv htext hrest =>
        refine ⟨_, htext, ?_, hrest⟩
        rintro ⟨items, rfl⟩
        cases hv
      | list _ hrest tail =>
        obtain ⟨cs, hcs, hrest'⟩ := ihItems tail
        have hlist : ListText ('[' :: cs) := ⟨cs, hcs, rfl⟩
        exact ⟨_, hlist.valueText, fun _ => hlist, by rw [hrest, hrest', List.cons_append]⟩
      | object _ hrest tail =>
        obtain ⟨cs, hcs, ⟨members, rfl⟩, hrest'⟩ := ihMembers tail
        refine ⟨_, .object hcs, ?_, by rw [hrest, hrest', List.cons_append]⟩
        rintro ⟨items, hitems⟩
        cases hitems
    · cases readItems_of_readItems h with
      | close hg hrest _ => exact ⟨_, .close _ hg, by rw [hrest]; simp⟩
      | item hg hk hrest head tail =>
        obtain ⟨cs, hcs, -, hhead⟩ := ihValue head
        obtain ⟨ds, hds, htail⟩ := ihItems tail
        exact ⟨_, .item _ hg hk hcs hds, by rw [hrest, hhead, htail]; simp⟩
    · cases readMembers_of_readMembers h with
      | close hg hrest hv => exact ⟨_, .close _ hg, ⟨_, hv⟩, by rw [hrest]; simp⟩
      | member hg hk hl hm hname hrest head tail =>
        obtain ⟨cs, hcs, -, hhead⟩ := ihValue head
        obtain ⟨ds, hds, hobject, htail⟩ := ihMembers tail
        exact ⟨_, .member _ hg hk hname hl hm hcs hds, hobject, by rw [hrest, hhead, htail]; simp⟩

/-- **A text that is read is a value of the grammar between blanks**, and it is a list when a list
was read. -/
theorem exists_of_parseChars {cs : List Char} {v : Value} (h : parseChars cs = .ok v) :
    ∃ g text k, Gap g ∧ ValueText text ∧ Gap k ∧ ((∃ items, v = .list items) → ListText text) ∧
      cs = g ++ text ++ k := by
  obtain ⟨⟨w, c⟩, hread, h⟩ := exists_of_bind_eq_ok h
  obtain ⟨⟨⟩, hfinish, h⟩ := exists_of_bind_eq_ok h
  cases h
  obtain ⟨text, htext, hlist, hrest⟩ := (readNested_text _).1 hread
  obtain ⟨g, hg, hblank, -⟩ := (Cursor.start cs).exists_gap
  refine ⟨g, text, c.rest, hg, htext, finish_ok hfinish, hlist, ?_⟩
  rw [List.append_assoc, ← hrest, ← hblank]
  rfl

end LinkWatch.Json
