/-
# Decoders that read a value

A decoder reads a value as `a` when it does so from every text of the value, with blanks before
it.  That it does is shown for each kind of decoder: for the scalars, for values that may be
`null`, for names, and for records.  A record is read member by member, in whatever order the
members come: each one changes what has been filled in so far in the way of its field.
-/
import LinkWatch.Proofs.Json.Members
import LinkWatch.Proofs.Json.ReadBack

namespace LinkWatch.Json

namespace Decoder

variable {α : Type} {d : Decoder α} {depth : ℕ} {v : Value} {a : α}

/-- The decoder reads every text of the value as `a`. -/
def Reads (d : Decoder α) (depth : ℕ) (v : Value) (a : α) : Prop :=
  ∀ ⦃g cs rest p⦄, Gap g → Spelled v cs → Closed rest →
    d.fromText depth ⟨g ++ (cs ++ rest), p⟩ = .ok (a, ⟨rest, p.past (g ++ cs)⟩)

/-! ## Scalars -/

lemma reads_stringWith {expected : String} {accept : String → Except Cause α} {s : String}
    (h : accept s = .ok a) : (stringWith expected accept).Reads depth (.string s) a := by
  intro g cs rest p hg hcs _
  cases hcs with
  | string s =>
    simp only [stringWith, stringChars_eq, List.cons_append,
      Cursor.skipGap_append hg (solid_cons (x := '"') rfl _), List.head?_cons, if_true,
      Cursor.next_cons, bind, Except.bind, readString_stringTail, h, settle]
    simp

lemma reads_string (s : String) : string.Reads depth (.string s) s := reads_stringWith rfl

lemma reads_bool (b : Bool) : bool.Reads depth (.bool b) b := by
  intro g cs rest p hg hcs _
  cases hcs with
  | true =>
    rw [bool, List.cons_append]
    simp only [Cursor.skipGap_append hg (solid_cons (x := 't') rfl _)]
    simp [bind, Except.bind, skipWord]
  | false =>
    rw [bool, List.cons_append]
    simp only [Cursor.skipGap_append hg (solid_cons (x := 'f') rfl _)]
    simp [bind, Except.bind, skipWord]

lemma reads_numberWith {expected : String} {accept : Number → Except Cause α} {n : Number}
    (hn : n.ReadsBack) (h : accept n = .ok a) :
    (numberWith expected accept).Reads depth (.number n) a := by
  intro g cs rest p hg hcs hrest
  cases hcs with
  | number n =>
    obtain ⟨x, xs, hx, hhead⟩ := hn.exists_cons
    have hread := hn.read rest (p.past g) hrest
    have hgap := (opens_of_number hhead).isGap
    rw [hx] at hread ⊢
    rw [List.cons_append] at hread ⊢
    simp only [numberWith, Cursor.skipGap_append hg (solid_cons hgap _), hhead, if_true, hread,
      bind, Except.bind, h, settle]
    simp

/-- A whole number of 64 bits is read as itself. -/
lemma reads_uint64 (n : UInt64) : uint64.Reads depth (.int n.toNat) n := by
  have hlt := n.toNat_lt
  refine reads_numberWith (Number.Whole.readsBack ⟨_, rfl, by omega, by omega⟩) ?_
  have hle : (0 : ℤ) ≤ n.toNat ∧ (n.toNat : ℤ) ≤ (maxWord : ℤ) := by rw [maxWord]; omega
  rw [wholeIn, if_pos hle]
  exact congrArg Except.ok UInt64.ofNat_toNat

/-! ## Values that may be absent -/

lemma reads_optional_none : (optional d).Reads depth .null none := by
  intro g cs rest p hg hcs _
  cases hcs
  rw [optional, List.cons_append]
  simp only [Cursor.skipGap_append hg (solid_cons (x := 'n') rfl _)]
  simp [bind, Except.bind, skipWord]

lemma reads_optional_some (h : d.Reads depth v a)
    (hnull : ∀ cs, Spelled v cs → cs.head? ≠ some 'n') :
    (optional d).Reads depth v (some a) := by
  intro g cs rest p hg hcs hrest
  obtain ⟨x, xs, hx, hopens⟩ := hcs.exists_cons
  have hne : x ≠ 'n' := fun he => hnull cs hcs (by rw [hx, he]; rfl)
  have hread := @h [] cs rest (p.past g) gap_nil hcs hrest
  rw [hx] at hread ⊢
  rw [List.nil_append, List.cons_append] at hread
  rw [optional, List.cons_append]
  simp only [Cursor.skipGap_append hg (solid_cons hopens.isGap _)]
  simp [hne, hread, bind, Except.bind]

/-! ## Names -/

lemma reads_oneOf {choices : List (String × α)} {name : String} (h : choose choices name = .ok a) :
    (oneOf choices).Reads depth (.string name) a := by
  intro g cs rest p hg hcs hrest
  have hread : (stringWith "variant identifier" (choose choices)).fromText depth
      ⟨[] ++ (cs ++ rest), p.past g⟩ = .ok (a, ⟨rest, (p.past g).past ([] ++ cs)⟩) :=
    reads_stringWith h gap_nil hcs hrest
  cases hcs with
  | string s =>
    rw [stringChars_eq] at hread ⊢
    rw [List.nil_append, List.cons_append] at hread
    rw [oneOf, List.cons_append]
    simp only [Cursor.skipGap_append hg (solid_cons (x := '"') rfl _), if_true, hread]
    simp

/-- A decoder that reads a value reads a whole text of it. -/
lemma Reads.parse (h : d.Reads maxDepth v a) {s : String} (hs : Spelled v s.toList) :
    d.parse s = .ok a :=
  ReadsFrom.parse h (List.append_nil _).symm gap_nil hs gap_nil

end Decoder

lemma Field.reads_of {σ α : Type} {name : String} {d : Decoder α} {set : α → σ → σ} {depth : ℕ}
    {v : Value} {a : α} (h : d.Reads depth v a) :
    (Field.of name d set).update.Reads depth v (set a) :=
  Field.readsFrom_of h

/-! ## Records -/

/-- The members of an object stand among no others. -/
lemma SpelledMembers.mingled {first : Bool} {members : List (String × Value)} {cs : List Char} :
    SpelledMembers first members cs →
      Mingled (fun _ => False) (fun _ => Spelled) first members cs
  | .close first hg => .close first hg
  | .member first name hg hh hk hl head tail =>
    .member first name hg hh hk hl head tail.mingled

namespace Record

variable {σ α : Type} {r : Record σ α} {depth : ℕ}

/-- Reading members one after the other fills a record: each is the value of a field, which changes
what was there before. -/
inductive Fills (r : Record σ α) (depth : ℕ) : σ → List (String × Value) → σ → Prop
  | nil (s : σ) : Fills r depth s [] s
  | cons {name : String} {f : Field σ} {v : Value} {update : σ → σ} {s s' : σ}
      {members : List (String × Value)} (field : r.field? name = some f)
      (reads : f.update.Reads depth v update) (rest : Fills r depth (update s) members s') :
      Fills r depth s ((name, v) :: members) s'

lemma Fills.fillsFrom {s s' : σ} {members : List (String × Value)}
    (h : r.Fills depth s members s') : r.FillsFrom depth (fun _ => Spelled) s members s' := by
  induction h with
  | nil s => exact .nil s
  | cons field reads _ ih => exact .cons field reads ih

/-- **A record is read from an object with some of its fields, in any order.** -/
lemma Fills.reads {s : σ} {a : α} {members : List (String × Value)}
    (hfills : r.Fills depth r.start members s) (hfinish : r.finish s = .ok a)
    (hnodup : (members.map (·.1)).Nodup) : r.decoder.Reads (depth + 1) (.object members) a := by
  have hreads : r.decoder.ReadsFrom (depth + 1)
      (ObjectText (fun _ => False) (fun _ => Spelled) members) a :=
    hfills.fillsFrom.reads hfinish hnodup nofun
  intro g cs rest p hg hcs hrest
  cases hcs with
  | object tail => exact hreads hg ⟨_, rfl, tail.mingled⟩ hrest

end Record

end LinkWatch.Json
