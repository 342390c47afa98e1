/-
# Frames are bracketed

What is read as an event is a list, and the text of a list begins and ends with a bracket.  Blanks
around it are dropped before, so that nothing else may stand there: a text with digits in front is
no frame, whatever comes after the digits.
-/
import LinkWatch.Channel.Frame
import LinkWatch.Proofs.Heartbeat.Seconds
import LinkWatch.Proofs.Json.Accepted
import Mathlib.Data.List.DropRight

namespace LinkWatch

/-! ## The ends of a text without blanks around it -/

namespace Text

variable {cs : List Char} {x : Char}

lemma trimBlanks_isPrefix (cs : List Char) : trimBlanks cs <+: cs.dropWhile isBlank :=
  List.rdropWhile_prefix isBlank (cs.dropWhile isBlank)

lemma isBlank_head_trimBlanks (h : (trimBlanks cs).head? = some x) : isBlank x = false := by
  have hhead := List.head?_dropWhile_not isBlank cs
  obtain ⟨ys, hys⟩ := List.head?_eq_some_iff.mp h
  obtain ⟨zs, hzs⟩ := trimBlanks_isPrefix cs
  rw [← hzs, hys] at hhead
  exact hhead

lemma isBlank_last_trimBlanks (h : (trimBlanks cs).getLast? = some x) : isBlank x = false := by
  rw [trimBlanks, List.getLast?_reverse] at h
  have hhead := List.head?_dropWhile_not isBlank (cs.dropWhile isBlank).reverse
  rwa [h] at hhead

/-- A text that begins with something else still does so without the blanks around it. -/
lemma head_trimBlanks_cons (hx : isBlank x = false) {y : Char}
    (h : (trimBlanks (x :: cs)).head? = some y) : y = x := by
  obtain ⟨ys, hys⟩ := List.head?_eq_some_iff.mp h
  obtain ⟨zs, hzs⟩ := trimBlanks_isPrefix (x :: cs)
  rw [List.dropWhile_cons_of_neg (by simp [hx]), hys] at hzs
  exact (List.cons.inj hzs).1

end Text

open Json

/-- A blank between the parts of a value is a blank. -/
lemma isBlank_of_isGap {x : Char} (h : Cursor.isGap x = true) : Text.isBlank x = true := by
  simp only [Cursor.isGap, Bool.or_eq_true, decide_eq_true_eq] at h
  rcases h with ((rfl | rfl) | rfl) | rfl <;> decide

/-- Where no blanks are around a text, there is none between it and the value in it. -/
lemma gaps_eq_nil {cs g text k : List Char} (hg : Gap g) (hk : Gap k)
    (h : Text.trimBlanks cs = g ++ text ++ k) : g = [] ∧ k = [] := by
  constructor
  · cases g with
    | nil => rfl
    | cons x g =>
      have hx := isBlank_of_isGap (hg x List.mem_cons_self)
      rw [Text.isBlank_head_trimBlanks (by rw [h]; rfl)] at hx
      cases hx
  · rcases List.eq_nil_or_concat k with rfl | ⟨k, x, rfl⟩
    · rfl
    · have hx := isBlank_of_isGap (hk x (by simp))
      rw [Text.isBlank_last_trimBlanks (by rw [h]; simp)] at hx
      cases hx

/-! ## Lists -/

/-- What is left of a list ends with its closing bracket. -/
lemma Json.ItemsText.exists_concat {first : Bool} {cs : List Char} :
    ItemsText first cs → ∃ middle, cs = middle ++ [']']
  | .close _ _ => ⟨_, rfl⟩
  | .item _ _ _ _ tail => by
    obtain ⟨middle, rfl⟩ := tail.exists_concat
    exact ⟨_, (List.append_assoc _ middle _).symm⟩

namespace Frame

lemma exists_list_of_eventOf {v : Value} {e : Event} (h : eventOf v = .ok e) :
    ∃ items, v = .list items := by
  unfold eventOf at h
  split at h
  · exact ⟨_, rfl⟩
  · cases h
  · cases h

/-- What is decoded was read as a value. -/
lemma exists_value_of_decode {text : String} {e : Event} (h : decode text = .ok e) :
    ∃ v, parseChars (Text.trimBlanks text.toList) = .ok v ∧ eventOf v = .ok e := by
  unfold decode at h
  cases hparse : parseChars (Text.trimBlanks text.toList) with
  | error fault =>
    rw [hparse] at h
    cases h
  | ok v =>
    cases hevent : eventOf v with
    | error fault =>
      rw [hparse] at h
      simp [Except.mapError, bind, Except.bind, hevent] at h
    | ok e' =>
      rw [hparse] at h
      simp [Except.mapError, bind, Except.bind, hevent] at h
      exact ⟨v, rfl, by rw [hevent, h]⟩

lemma exists_brackets_of_decode {text : String} {e : Event} (h : decode text = .ok e) :
    ∃ middle, Text.trimBlanks text.toList = '[' :: middle ++ [']'] := by
  obtain ⟨v, hparse, hevent⟩ := exists_value_of_decode h
  obtain ⟨g, list, k, hg, -, hk, hlist, htext⟩ := exists_of_parseChars hparse
  obtain ⟨cs, hcs, rfl⟩ := hlist (exists_list_of_eventOf hevent)
  obtain ⟨middle, rfl⟩ := hcs.exists_concat
  obtain ⟨rfl, rfl⟩ := gaps_eq_nil hg hk htext
  exact ⟨middle, by simpa using htext⟩

/-- **Only what is bracketed is a frame.**  Every text that is decoded begins with an opening
bracket and ends with a closing one, once the blanks around it are dropped.  So no text is decoded
that has decimal digits in front, whatever comes after them: a frame, or characters with which the
digits make a longer numeral. -/
theorem decode_eq_ok_only_if_bracketed :
    (∀ (text : String) (e : Event), decode text = .ok e →
      ∃ middle, Text.trimBlanks text.toList = '[' :: middle ++ [']']) ∧
    ∀ digits s : String, digits ≠ "" → (∀ x ∈ digits.toList, x.isDigit = true) →
      ∃ fault, decode (digits ++ s) = .error fault := by
  refine ⟨fun text e h => exists_brackets_of_decode h, fun digits s hne hdigits => ?_⟩
  cases h : decode (digits ++ s) with
  | error fault => exact ⟨fault, rfl⟩
  | ok e =>
    obtain ⟨middle, hmiddle⟩ := exists_brackets_of_decode h
    obtain ⟨d, ds, hds⟩ : ∃ d ds, digits.toList = d :: ds :=
      List.exists_cons_of_ne_nil (by simpa using hne)
    have hd : d.isDigit = true := hdigits d (hds ▸ List.mem_cons_self)
    rw [String.toList_append, hds, List.cons_append] at hmiddle
    -- the bracket would be the first digit
    have hbracket : '[' = d :=
      Text.head_trimBlanks_cons (Text.isBlank_of_isDigit hd) (by rw [hmiddle]; rfl)
    subst hbracket
    exact absurd hd (by decide)

/-- A frame, the same frame behind a packet prefix, and digits that go on as a numeral. -/
theorem decode_eq_ok_only_if_bracketed_of_prefix :
    decode "\n[\"status\",10] " = .ok ⟨"status", .int 10⟩ ∧
    (∃ middle, Text.trimBlanks "\n[\"status\",10] ".toList = '[' :: middle ++ [']']) ∧
    (∃ fault, decode ("42" ++ "\n[\"status\",10] ") = .error fault) ∧
    ∃ fault, decode ("42" ++ "0.5e1[]") = .error fault := by
  have hok : decode "\n[\"status\",10] " = .ok ⟨"status", .int 10⟩ := rfl
  have hdigits : ∀ x ∈ "42".toList, x.isDigit = true := List.all_eq_true.mp rfl
  refine ⟨hok, decode_eq_ok_only_if_bracketed.1 _ _ hok, ?_, ?_⟩
  · exact decode_eq_ok_only_if_bracketed.2 "42" _ (by decide) hdigits
  · exact decode_eq_ok_only_if_bracketed.2 "42" _ (by decide) hdigits

end Frame

end LinkWatch
