/-!
# Maps keyed by text

A `KeyMap α` holds values under text keys, listed in increasing key order with no key twice.
Texts are ordered by code point, which is also the order of their UTF-8 bytes.

The view of a map is `find?`. `insert` puts a value under a key in place of any value it
had. The keys stay sorted because insertion walks past smaller keys only
(`insertEntry_sorted`), so every map carries the proof that its keys increase.
-/

namespace Colloquy

/-- Values under text keys, in strictly increasing key order. -/
structure KeyMap (α : Type) where
  entries : List (String × α)
  sorted : entries.Pairwise (·.1 < ·.1)

namespace KeyMap

variable {α : Type}

/-- The empty map. -/
def empty : KeyMap α := ⟨[], List.Pairwise.nil⟩

instance : Inhabited (KeyMap α) := ⟨empty⟩

/-- Inserts into sorted entries: before the first greater key, or in place of an equal one. -/
def insertEntry (k : String) (v : α) : List (String × α) → List (String × α)
  | [] => [(k, v)]
  | (k', v') :: rest =>
    if k < k' then (k, v) :: (k', v') :: rest
    else if k = k' then (k, v) :: rest
    else (k', v') :: insertEntry k v rest

/-- An entry after insertion is the new one or one that was there. -/
theorem mem_insertEntry {k : String} {v : α} {p : String × α} {l : List (String × α)}
    (h : p ∈ insertEntry k v l) : p = (k, v) ∨ p ∈ l := by
  induction l with
  | nil => simpa [insertEntry] using h
  | cons q rest ih =>
    unfold insertEntry at h
    by_cases hlt : k < q.1
    · rw [if_pos hlt] at h
      rcases List.mem_cons.mp h with h | h
      · exact .inl h
      · exact .inr h
    · by_cases heq : k = q.1
      · rw [if_neg hlt, if_pos heq] at h
        rcases List.mem_cons.mp h with h | h
        · exact .inl h
        · exact .inr (List.mem_cons_of_mem _ h)
      · rw [if_neg hlt, if_neg heq] at h
        rcases List.mem_cons.mp h with h | h
        · exact .inr (h ▸ List.mem_cons_self)
        · rcases ih h with h | h
          · exact .inl h
          · exact .inr (List.mem_cons_of_mem _ h)

/-- Insertion keeps the keys strictly increasing. -/
theorem insertEntry_sorted (k : String) (v : α) {l : List (String × α)}
    (hl : l.Pairwise (·.1 < ·.1)) : (insertEntry k v l).Pairwise (·.1 < ·.1) := by
  induction l with
  | nil => simp [insertEntry]
  | cons q rest ih =>
    have ⟨hhead, hrest⟩ := List.pairwise_cons.mp hl
    unfold insertEntry
    by_cases hlt : k < q.1
    · -- the new entry goes in front
      rw [if_pos hlt]
      refine List.pairwise_cons.mpr ⟨?_, hl⟩
      intro p hp
      rcases List.mem_cons.mp hp with rfl | hp
      · exact hlt
      · exact String.lt_trans hlt (hhead p hp)
    · by_cases heq : k = q.1
      · -- the new entry replaces the one under the same key
        rw [if_neg hlt, if_pos heq]
        exact List.pairwise_cons.mpr ⟨fun p hp => heq ▸ hhead p hp, hrest⟩
      · -- the new entry goes further on, past a smaller key
        rw [if_neg hlt, if_neg heq]
        have hgt : q.1 < k :=
          Decidable.byContradiction fun hge =>
            heq (String.le_antisymm (String.not_lt.mp hge) (String.not_lt.mp hlt))
        refine List.pairwise_cons.mpr ⟨?_, ih hrest⟩
        intro p hp
        rcases mem_insertEntry hp with rfl | hp
        · exact hgt
        · exact hhead p hp

/-- The value under a key. -/
def find? (m : KeyMap α) (k : String) : Option α :=
  (m.entries.find? (·.1 == k)).map (·.2)

/-- Puts a value under a key. -/
def insert (m : KeyMap α) (k : String) (v : α) : KeyMap α :=
  ⟨insertEntry k v m.entries, insertEntry_sorted k v m.sorted⟩

/-- Whether a key has a value. -/
def contains (m : KeyMap α) (k : String) : Bool :=
  (m.find? k).isSome

/-- The values in key order. -/
def values (m : KeyMap α) : List α :=
  m.entries.map (·.2)

/-- The number of keys. -/
def size (m : KeyMap α) : Nat :=
  m.entries.length

/-- Whether the map is empty. -/
def isEmpty (m : KeyMap α) : Bool :=
  m.entries.isEmpty

end KeyMap

end Colloquy
