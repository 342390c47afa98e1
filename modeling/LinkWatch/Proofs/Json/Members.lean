/-
# Records among unknown members

An object may have more members than the record that is read from it.  The members whose names are
fields fill the record, each in the way of its field, and the others are skipped, whatever their
values are and wherever they stand (`Mingled`).  What the record is filled with depends only on the
members that are fields (`Record.FillsFrom.reads`).

When every such member puts the same into the record whenever it comes, only their names matter, and
their order does not (`Record.reads_overlay`).
-/
import LinkWatch.Json.Record
import LinkWatch.Proofs.Json.Skipping

namespace LinkWatch.Json

/-! ## Decoders and texts -/

namespace Decoder

variable {α : Type} {d : Decoder α} {a : α}

/-- The decoder reads every text of a kind as `a`, with blanks before it. -/
def ReadsFrom (d : Decoder α) (depth : ℕ) (texts : List Char → Prop) (a : α) : Prop :=
  ∀ ⦃g cs rest p⦄, Gap g → texts cs → Closed rest →
    d.fromText depth ⟨g ++ (cs ++ rest), p⟩ = .ok (a, ⟨rest, p.past (g ++ cs)⟩)

/-- Blanks may stand around a whole text. -/
lemma ReadsFrom.parse {texts : List Char → Prop} (h : d.ReadsFrom maxDepth texts a) {s : String}
    {g cs g' : List Char} (hs : s.toList = g ++ (cs ++ g')) (hg : Gap g) (hcs : texts cs)
    (hg' : Gap g') : d.parse s = .ok a := by
  have hclosed : Closed g' := by simpa using closed_of_gap hg' closed_nil
  simp only [Decoder.parse, Cursor.start, hs, h hg hcs hclosed, bind, Except.bind,
    Cursor.finish_of_gap hg']

end Decoder

lemma Field.readsFrom_of {σ α : Type} {name : String} {d : Decoder α} {set : α → σ → σ} {depth : ℕ}
    {texts : List Char → Prop} {a : α} (h : d.ReadsFrom depth texts a) :
    (Field.of name d set).update.ReadsFrom depth texts (set a) := by
  intro g cs rest p hg hcs hrest
  simp only [Field.of, h hg hcs hrest, bind, Except.bind]

/-! ## Objects with unknown members -/

/-- The characters are what is left of an object, with its closing brace: the members in this
order, each with one of its texts, and any others that are strangers by their names among them. -/
inductive Mingled (stranger : List Char → Prop) (texts : String → Value → List Char → Prop) :
    Bool → List (String × Value) → List Char → Prop
  | close (first : Bool) {g : List Char} (hg : Gap g) :
      Mingled stranger texts first [] (g ++ ['}'])
  | member (first : Bool) (name : String) {g h k l cs ds : List Char} {v : Value}
      {members : List (String × Value)} (hg : Gap g) (hh : Gap h) (hk : Gap k) (hl : Gap l)
      (head : texts name v cs) (tail : Mingled stranger texts false members ds) :
      Mingled stranger texts first ((name, v) :: members)
        (g ++ separator first h ++ stringChars name ++ (k ++ ':' :: (l ++ (cs ++ ds))))
  | stranger (first : Bool) {g h ns k l cs ds : List Char} {members : List (String × Value)}
      (hg : Gap g) (hh : Gap h) (hname : stranger ns) (hk : Gap k) (hl : Gap l)
      (head : ValueText cs) (tail : Mingled stranger texts false members ds) :
      Mingled stranger texts first members
        (g ++ separator first h ++ ns ++ (k ++ ':' :: (l ++ (cs ++ ds))))

/-- The characters are such an object. -/
def ObjectText (stranger : List Char → Prop) (texts : String → Value → List Char → Prop)
    (members : List (String × Value)) (cs : List Char) : Prop :=
  ∃ ds, cs = '{' :: ds ∧ Mingled stranger texts true members ds

variable {stranger : List Char → Prop} {texts : String → Value → List Char → Prop}

lemma Mingled.closed {members : List (String × Value)} {cs : List Char}
    (h : Mingled stranger texts false members cs) (rest : List Char) : Closed (cs ++ rest) := by
  cases h with
  | close _ hg =>
    rw [List.append_assoc]
    exact closed_of_gap hg (closed_cons rfl _)
  | member _ _ hg | stranger _ hg =>
    simp only [List.append_assoc]
    exact closed_of_gap hg (closed_cons rfl _)

/-! ## Records -/

namespace Record

variable {σ α : Type} {r : Record σ α} {depth : ℕ}

/-- Reading members one after the other fills a record: all texts of a member are read as the same
change of what was there before. -/
inductive FillsFrom (r : Record σ α) (depth : ℕ) (texts : String → Value → List Char → Prop) :
    σ → List (String × Value) → σ → Prop
  | nil (s : σ) : FillsFrom r depth texts s [] s
  | cons {name : String} {f : Field σ} {v : Value} {update : σ → σ} {s s' : σ}
      {members : List (String × Value)} (field : r.field? name = some f)
      (reads : f.update.ReadsFrom depth (texts name v) update)
      (rest : FillsFrom r depth texts (update s) members s') :
      FillsFrom r depth texts s ((name, v) :: members) s'

/-- The names are spelled so that they can be read, and none of them is that of a field. -/
def Ignores (r : Record σ α) (stranger : List Char → Prop) : Prop :=
  ∀ ns, stranger ns → ∃ name, StringSpelled name ns ∧ r.field? name = none

lemma readNamed_close (first : Bool) (seen : List String) (s : σ) {fuel : ℕ} {g cs : List Char}
    {p : Position} (hg : Gap g) :
    r.readNamed depth (fuel + 1) first seen s ⟨g ++ '}' :: cs, p⟩ =
      .ok (r.finish s, ⟨g ++ '}' :: cs, p⟩) := by
  rw [readNamed, Cursor.nextName?_close first hg]
  rfl

lemma readNamed_member (first : Bool) (s : σ) {name : String} {f : Field σ} {seen : List String}
    {fuel : ℕ} {g h k cs : List Char} {p : Position} (hfield : r.field? name = some f)
    (hnew : name ∉ seen) (hg : Gap g) (hh : Gap h) (hk : Gap k) :
    r.readNamed depth (fuel + 1) first seen s
        ⟨g ++ separator first h ++ stringChars name ++ (k ++ ':' :: cs), p⟩ =
      (f.update.fromText depth
        ⟨cs, p.past (g ++ separator first h ++ stringChars name ++ (k ++ [':']))⟩).bind
        fun (update, c) => r.readNamed depth fuel false (name :: seen) (update s) c := by
  rw [stringChars_eq, List.append_assoc _ ('"' :: _), List.cons_append, readNamed,
    Cursor.nextName?_separator first hg hh]
  simp only [bind, Except.bind, readString_stringTail, hfield, List.contains_eq_mem, hnew,
    decide_false, Bool.false_eq_true, if_false, Cursor.skipColon_append hk]
  simp

/-- A member that is no field is skipped. -/
lemma readNamed_stranger (first : Bool) (seen : List String) (s : σ) {name : String} {fuel : ℕ}
    {g h ns k l cs rest : List Char} {p : Position} (hname : StringSpelled name ns)
    (hfield : r.field? name = none) (hg : Gap g) (hh : Gap h) (hk : Gap k) (hl : Gap l)
    (hcs : ValueText cs) (hrest : Closed rest) :
    r.readNamed depth (fuel + 1) first seen s
        ⟨g ++ separator first h ++ ns ++ (k ++ ':' :: (l ++ (cs ++ rest))), p⟩ =
      r.readNamed depth fuel false seen s
        ⟨rest, p.past (g ++ separator first h ++ ns ++ (k ++ ':' :: (l ++ cs)))⟩ := by
  obtain ⟨ds, rfl, hread⟩ := hname.exists_readString_eq
  rw [List.append_assoc _ ('"' :: _), List.cons_append, readNamed,
    Cursor.nextName?_separator first hg hh]
  simp only [bind, Except.bind, hread, hfield, Cursor.skipColon_append hk,
    hcs.skipValue_eq hl hrest]
  simp

/-- The members of an object are read up to its closing brace. -/
lemma FillsFrom.readNamed_eq {s s' : σ} {members : List (String × Value)} {first : Bool}
    {cs : List Char} {fuel : ℕ} {seen : List String} (rest : List Char) (p : Position)
    (hcs : Mingled stranger texts first members cs) (hstranger : r.Ignores stranger)
    (hfills : r.FillsFrom depth texts s members s') (hnodup : (members.map (·.1)).Nodup)
    (hseen : ∀ m ∈ members, m.1 ∉ seen) (hf : cs.length ≤ fuel) :
    ∃ g q, Gap g ∧ q.past (g ++ ['}']) = p.past cs ∧
      r.readNamed depth fuel first seen s ⟨cs ++ rest, p⟩ =
        .ok (r.finish s', ⟨g ++ '}' :: rest, q⟩) := by
  induction hcs generalizing s p fuel seen with
  | @close first g hg =>
    cases hfills
    rw [List.length_append, List.length_singleton] at hf
    obtain ⟨f, rfl⟩ : ∃ f, fuel = f + 1 := ⟨fuel - 1, by omega⟩
    refine ⟨g, p, hg, rfl, ?_⟩
    rw [List.append_assoc, List.singleton_append, readNamed_close first seen _ hg]
  | @member first name g h k l cs ds v members hg hh hk hl head tail ih =>
    obtain _ | @⟨_, f, _, update, _, _, _, hfield, hreads, hrest⟩ := hfills
    simp only [List.length_append, List.length_cons] at hf
    obtain ⟨e, rfl⟩ : ∃ e, fuel = e + 1 := ⟨fuel - 1, by omega⟩
    rw [List.map_cons, List.nodup_cons] at hnodup
    have hnew : name ∉ seen := hseen _ List.mem_cons_self
    have hlater : ∀ m ∈ members, m.1 ∉ name :: seen := by
      intro m hm hmem
      rcases List.mem_cons.mp hmem with he | hmem
      · exact hnodup.1 (List.mem_map.mpr ⟨m, hm, he⟩)
      · exact hseen m (List.mem_cons_of_mem _ hm) hmem
    have hread := @hreads l cs (ds ++ rest)
      (p.past (g ++ separator first h ++ stringChars name ++ (k ++ [':']))) hl head
      (tail.closed rest)
    obtain ⟨g', q, hg', hq, hmembers⟩ := ih
      ((p.past (g ++ separator first h ++ stringChars name ++ (k ++ [':']))).past (l ++ cs))
      hrest hnodup.2 hlater (by omega : _ ≤ e)
    refine ⟨g', q, hg', hq.trans ?_, ?_⟩
    · simp
    · rw [List.append_assoc _ _ rest, List.append_assoc k, List.cons_append, List.append_assoc l,
        List.append_assoc cs, readNamed_member first s hfield hnew hg hh hk, hread]
      exact hmembers
  | @stranger first g h ns k l cs ds members hg hh hname hk hl head tail ih =>
    obtain ⟨name, hspelled, hfield⟩ := hstranger ns hname
    simp only [List.length_append, List.length_cons] at hf
    obtain ⟨e, rfl⟩ : ∃ e, fuel = e + 1 := ⟨fuel - 1, by omega⟩
    obtain ⟨g', q, hg', hq, hmembers⟩ := ih
      (p.past (g ++ separator first h ++ ns ++ (k ++ ':' :: (l ++ cs)))) hfills hnodup hseen
      (by omega : _ ≤ e)
    refine ⟨g', q, hg', hq.trans ?_, ?_⟩
    · simp
    · rw [List.append_assoc _ _ rest, List.append_assoc k, List.cons_append, List.append_assoc l,
        List.append_assoc cs, readNamed_stranger first seen s hspelled hfield hg hh hk hl head
        (tail.closed rest)]
      exact hmembers

/-- **A record is read from an object with some of its fields, in any order, and with unknown
members among them.** -/
theorem FillsFrom.reads {s : σ} {a : α} {members : List (String × Value)}
    (hfills : r.FillsFrom depth texts r.start members s) (hfinish : r.finish s = .ok a)
    (hnodup : (members.map (·.1)).Nodup) (hstranger : r.Ignores stranger) :
    r.decoder.ReadsFrom (depth + 1) (ObjectText stranger texts members) a := by
  rintro g _ rest p hg ⟨cs, rfl, hcs⟩ -
  have hskip : Cursor.skipGap ⟨g ++ ('{' :: cs ++ rest), p⟩ = ⟨'{' :: (cs ++ rest), p.past g⟩ :=
    Cursor.skipGap_append hg (solid_cons rfl _)
  have hfuel : cs.length ≤ ('{' :: (cs ++ rest)).length + 1 := by
    simp only [List.length_cons, List.length_append]
    omega
  obtain ⟨g', q, hg', hq, hread⟩ := hfills.readNamed_eq rest ((p.past g).after '{') hcs hstranger
    hnodup (fun _ _ => List.not_mem_nil) hfuel
  simp only [decoder, fromText, hskip, Char.reduceEq, if_true, if_false, Nat.add_one_ne_zero,
    Nat.add_sub_cancel, Cursor.next_cons, hread, hfinish, bind, Except.bind,
    Cursor.closeObject_append hg', hq]
  simp

/-- Members that put the same into a record whenever they come fill it by their names alone. -/
lemma fillsFrom_overlay (overlay : List String → σ → σ) {members : List (String × Value)}
    (hnil : ∀ s, overlay [] s = s)
    (hmembers : ∀ m ∈ members, ∃ f update, r.field? m.1 = some f ∧
      f.update.ReadsFrom depth (texts m.1 m.2) update ∧
      ∀ names s, overlay (m.1 :: names) s = overlay names (update s)) (s : σ) :
    r.FillsFrom depth texts s members (overlay (members.map (·.1)) s) := by
  induction members generalizing s with
  | nil =>
    rw [List.map_nil, hnil]
    exact .nil s
  | cons m members ih =>
    obtain ⟨f, update, hfield, hreads, hoverlay⟩ := hmembers m List.mem_cons_self
    rw [List.map_cons, hoverlay]
    exact .cons hfield hreads (ih (fun m' hm' => hmembers m' (List.mem_cons_of_mem _ hm')) _)

/-- **A record is read by the names of its members**, when these put the same into it whenever they
come: their order does not matter. -/
theorem reads_overlay (overlay : List String → σ → σ) {members : List (String × Value)} {a : α}
    (hnil : ∀ s, overlay [] s = s)
    (hmembers : ∀ m ∈ members, ∃ f update, r.field? m.1 = some f ∧
      f.update.ReadsFrom depth (texts m.1 m.2) update ∧
      ∀ names s, overlay (m.1 :: names) s = overlay names (update s))
    (hfinish : r.finish (overlay (members.map (·.1)) r.start) = .ok a)
    (hnodup : (members.map (·.1)).Nodup) (hstranger : r.Ignores stranger) :
    r.decoder.ReadsFrom (depth + 1) (ObjectText stranger texts members) a :=
  (fillsFrom_overlay overlay hnil hmembers r.start).reads hfinish hnodup hstranger

end Record

end LinkWatch.Json
