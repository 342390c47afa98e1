/-
# What the reader makes

Whatever the text, a value that was read has its whole numbers in 64 bits, the members of its
objects sorted by name, and no more brackets open at once than were allowed.  One call keeps this
of the items and the members that it has read before, so the number of calls is what the induction
is on (`readNested_made`).
-/
import LinkWatch.Proofs.Json.Accepted

namespace LinkWatch.Json

namespace Value

variable {p : Number → Prop} {items : List Value} {members : List (String × Value)}
  {name : String} {v : Value} {depth : ℕ}

/-! ## Items and members one by one -/

lemma canonicalItems_iff : CanonicalItems p items ↔ ∀ v ∈ items, v.Canonical p := by
  induction items with
  | nil => simp [CanonicalItems]
  | cons v items ih => simp [CanonicalItems, ih]

lemma itemsNesting_le_iff : itemsNesting items ≤ depth ↔ ∀ v ∈ items, v.nesting ≤ depth := by
  induction items with
  | nil => simp [itemsNesting]
  | cons v items ih => rw [itemsNesting, Nat.max_le, ih, List.forall_mem_cons]

lemma canonicalMembers_iff : CanonicalMembers p members ↔ ∀ m ∈ members, m.2.Canonical p := by
  induction members with
  | nil => simp [CanonicalMembers]
  | cons m members ih => simp [CanonicalMembers, ih]

lemma membersNesting_le_iff :
    membersNesting members ≤ depth ↔ ∀ m ∈ members, m.2.nesting ≤ depth := by
  induction members with
  | nil => simp [membersNesting]
  | cons m members ih => rw [membersNesting, Nat.max_le, ih, List.forall_mem_cons]

/-! ## Members put in their place -/

/-- Nothing comes in but the new member. -/
lemma mem_insertMember {m : String × Value} (h : m ∈ insertMember name v members) :
    m = (name, v) ∨ m ∈ members := by
  induction members with
  | nil => simpa [insertMember] using h
  | cons other members ih =>
    simp only [insertMember] at h
    split at h
    · rcases List.mem_cons.mp h with rfl | h
      · exact .inl rfl
      · exact .inr (List.mem_cons_of_mem _ h)
    split at h
    · exact List.mem_cons.mp h
    · rcases List.mem_cons.mp h with rfl | h
      · exact .inr List.mem_cons_self
      · exact (ih h).imp_right (List.mem_cons_of_mem _)

/-- The members stay sorted, each name once. -/
lemma sorted_insertMember (name : String) (v : Value)
    (h : (members.map (·.1)).Pairwise (· < ·)) :
    ((insertMember name v members).map (·.1)).Pairwise (· < ·) := by
  induction members with
  | nil => simp [insertMember]
  | cons other members ih =>
    obtain ⟨hfirst, hrest⟩ := List.pairwise_cons.mp h
    simp only [insertMember]
    split
    next hname =>
      subst hname
      exact List.pairwise_cons.mpr ⟨hfirst, hrest⟩
    next hname =>
    split
    next hbefore =>
      refine List.pairwise_cons.mpr ⟨fun other' hother => ?_, h⟩
      rcases List.mem_cons.mp hother with rfl | hother
      · exact hbefore
      · exact String.lt_trans hbefore (hfirst other' hother)
    next hbefore =>
      have hafter : other.1 < name :=
        Std.lt_of_le_of_ne (String.not_lt.mp hbefore) (Ne.symm hname)
      refine List.pairwise_cons.mpr ⟨fun other' hother => ?_, ih hrest⟩
      obtain ⟨m, hm, rfl⟩ := List.mem_map.mp hother
      rcases mem_insertMember hm with rfl | hm
      · exact hafter
      · exact hfirst m.1 (List.mem_map_of_mem hm)

end Value

/-! ## Values -/

lemma Value.Scalar.canonical {v : Value} (h : v.Scalar) : v.Canonical Number.Readable := by
  cases h with
  | number h => exact h
  | _ => trivial

lemma Value.Scalar.nesting_eq {v : Value} (h : v.Scalar) : v.nesting = 0 := by
  cases h <;> rfl

/-- A value as the reader makes them, in which so many brackets may be open at once. -/
structure Value.Made (depth : ℕ) (v : Value) : Prop where
  canonical : v.Canonical Number.Readable
  nesting : v.nesting ≤ depth

lemma Value.made_list {depth : ℕ} {items : List Value} (hdepth : depth ≠ 0)
    (h : ∀ v ∈ items, v.Made (depth - 1)) : (Value.list items).Made depth where
  canonical := canonicalItems_iff.mpr fun v hv => (h v hv).canonical
  nesting := by
    have hle : itemsNesting items ≤ depth - 1 :=
      itemsNesting_le_iff.mpr fun v hv => (h v hv).nesting
    rw [Value.nesting]
    omega

lemma Value.made_object {depth : ℕ} {members : List (String × Value)} (hdepth : depth ≠ 0)
    (hsorted : (members.map (·.1)).Pairwise (· < ·)) (h : ∀ m ∈ members, m.2.Made (depth - 1)) :
    (Value.object members).Made depth where
  canonical := ⟨hsorted, canonicalMembers_iff.mpr fun m hm => (h m hm).canonical⟩
  nesting := by
    have hle : membersNesting members ≤ depth - 1 :=
      membersNesting_le_iff.mpr fun m hm => (h m hm).nesting
    rw [Value.nesting]
    omega

/-- **What the reader makes is canonical and not nested too deeply.** -/
lemma readNested_made (fuel : ℕ) :
    (∀ {depth c v c'}, readNested fuel depth c = .ok (v, c') → v.Made depth) ∧
    (∀ {depth first done c v c'}, readItems fuel depth first done c = .ok (v, c') →
      (∀ w ∈ done, w.Made depth) → ∃ items, v = .list items ∧ ∀ w ∈ items, w.Made depth) ∧
    ∀ {depth first done c v c'}, readMembers fuel depth first done c = .ok (v, c') →
      (done.map (·.1)).Pairwise (· < ·) → (∀ m ∈ done, m.2.Made depth) →
      ∃ members, v = .object members ∧ (members.map (·.1)).Pairwise (· < ·) ∧
        ∀ m ∈ members, m.2.Made depth := by
  induction fuel with
  | zero =>
    refine ⟨fun h => ?_, fun h => ?_, fun h => ?_⟩ <;> simp [failAt] at h
  | succ fuel ih =>
    obtain ⟨ihValue, ihItems, ihMembers⟩ := ih
    refine ⟨fun h => ?_, fun h hdone => ?_, fun h hsorted hdone => ?_⟩
    · cases readValue_of_readNested h with
      | scalar hv => exact ⟨hv.canonical, hv.nesting_eq ▸ Nat.zero_le _⟩
      | list hdepth _ tail =>
        obtain ⟨items, rfl, hitems⟩ := ihItems tail (List.forall_mem_nil _)
        exact Value.made_list hdepth hitems
      | object hdepth _ tail =>
        obtain ⟨members, rfl, hsorted, hmembers⟩ :=
          ihMembers tail List.Pairwise.nil (List.forall_mem_nil _)
        exact Value.made_object hdepth hsorted hmembers
    · cases readItems_of_readItems h with
      | close _ _ hv => exact ⟨_, hv, fun w hw => hdone w (List.mem_reverse.mp hw)⟩
      | item _ _ _ head tail =>
        exact ihItems tail (List.forall_mem_cons.mpr ⟨ihValue head, hdone⟩)
    · cases readMembers_of_readMembers h with
      | close _ _ hv => exact ⟨_, hv, hsorted, hdone⟩
      | member _ _ _ _ _ _ head tail =>
        refine ihMembers tail (Value.sorted_insertMember _ _ hsorted) fun m hm => ?_
        rcases Value.mem_insertMember hm with rfl | hm
        · exact ihValue head
        · exact hdone m hm

/-- **So is a whole text that is read.** -/
theorem made_of_parseChars {cs : List Char} {v : Value} (h : parseChars cs = .ok v) :
    v.Made maxDepth := by
  obtain ⟨⟨w, c⟩, hread, h⟩ := exists_of_bind_eq_ok h
  obtain ⟨⟨⟩, -, h⟩ := exists_of_bind_eq_ok h
  cases h
  exact (readNested_made _).1 hread

end LinkWatch.Json
