import Mathlib.Data.String.Basic
import Colloquy.Registry
/-!
# Registries hold each conversation under the key of its own id

The engine, the checker and the entry resolver all find a conversation again by its display
id. A registry's map keeps its keys strictly increasing (`KeyMap.sorted`) and each conversation
under the key of its own display id (`Registry.keyed`). So in a map a key finds exactly the
value listed under it (`KeyMap.find?_eq_some_iff`), a look-up in a registry is membership
(`Registry.lookup?_eq_some_iff`), and a conversation found once is found again by its own id
(`Registry.lookup?_self`).
-/

namespace Colloquy

/-! ### Maps keyed by text -/

namespace KeyMap

variable {α : Type}

theorem find?_insertEntry (k k' : String) (v : α) (l : List (String × α)) :
    ((insertEntry k v l).find? (·.1 == k')).map (·.2) =
      if k = k' then some v else (l.find? (·.1 == k')).map (·.2) := by
  induction l with
  | nil => by_cases h : k = k' <;> simp [insertEntry, h]
  | cons p rest ih =>
    obtain ⟨k₁, v₁⟩ := p
    by_cases hlt : k < k₁
    · -- the new entry goes in front
      rw [insertEntry, if_pos hlt]
      by_cases h : k = k' <;> simp [h]
    · by_cases heq : k = k₁
      · -- the new entry replaces the one under the same key
        rw [insertEntry, if_neg hlt, if_pos heq]
        subst heq
        by_cases h : k = k' <;> simp [h]
      · rw [insertEntry, if_neg hlt, if_neg heq]
        by_cases h₁ : k₁ = k'
        · subst h₁
          simp [heq]
        · simp [h₁, ih]

/-- **Insertion is update**: the inserted key finds the new value, every other key what it
found before. -/
@[simp] theorem find?_insert (m : KeyMap α) (k k' : String) (v : α) :
    (m.insert k v).find? k' = if k = k' then some v else m.find? k' :=
  find?_insertEntry k k' v m.entries

theorem length_insertEntry_le (k : String) (v : α) (l : List (String × α)) :
    (insertEntry k v l).length ≤ l.length + 1 := by
  induction l with
  | nil => simp [insertEntry]
  | cons q rest ih =>
    obtain ⟨k₁, v₁⟩ := q
    unfold insertEntry
    split_ifs
    · simp
    · simp
    · simp only [List.length_cons]
      omega

/-- A key finds exactly the value it is listed with, since it is listed once. -/
theorem find?_eq_some_iff {m : KeyMap α} {k : String} {v : α} :
    m.find? k = some v ↔ (k, v) ∈ m.entries := by
  obtain ⟨l, hs⟩ := m
  simp only [find?]
  induction l with
  | nil => simp
  | cons q rest ih =>
    obtain ⟨k₁, v₁⟩ := q
    have ⟨hhead, hrest⟩ := List.pairwise_cons.mp hs
    by_cases h : k₁ = k
    · subst h
      have hnot : (k₁, v) ∉ rest := fun hm => lt_irrefl k₁ (hhead _ hm)
      simp only [List.find?_cons, beq_self_eq_true, Option.map_some, Option.some.injEq,
        List.mem_cons, Prod.mk.injEq, true_and]
      constructor
      · intro h; exact .inl h.symm
      · rintro (h | h)
        · exact h.symm
        · exact absurd h hnot
    · have hne : (k, v) ≠ (k₁, v₁) := by intro hp; simp_all
      simp [h, ih hrest, hne]

end KeyMap

/-! ### Registries -/

namespace Registry

theorem size_registerAll_le (r : Registry) (cs : List Conversation) :
    (r.registerAll cs).size ≤ r.size + cs.length := by
  induction cs generalizing r with
  | nil => simp [registerAll]
  | cons c cs ih =>
    -- one registration adds at most one key
    have hone : (r.register c.id c.nodes).1.size ≤ r.size + 1 :=
      KeyMap.length_insertEntry_le _ _ _
    have hrest := ih (r.register c.id c.nodes).1
    show ((r.register c.id c.nodes).1.registerAll cs).size ≤ r.size + (cs.length + 1)
    omega

/-- A document's registry has at most as many conversations as the document. -/
theorem size_ofDocument_le (d : Document) : (ofDocument d).size ≤ d.conversations.length := by
  have h := size_registerAll_le empty d.conversations
  have hempty : empty.size = 0 := rfl
  rw [hempty, Nat.zero_add] at h
  exact h

/-- **Look-up is membership**, for a key that is not empty. -/
theorem lookup?_eq_some_iff {r : Registry} {q : String} {c : Conversation} :
    r.lookup? q = some c ↔ Ident.key q ≠ "" ∧ (Ident.key q, c) ∈ r.map.entries := by
  unfold lookup?
  by_cases hq : Ident.key q = ""
  · simp [hq]
  · simp [hq, KeyMap.find?_eq_some_iff]

/-- A conversation found by some id is found again by its own display id. -/
theorem lookup?_self {r : Registry} {q : String} {c : Conversation}
    (hc : r.lookup? q = some c) : r.lookup? c.id = some c := by
  obtain ⟨hq, hmem⟩ := lookup?_eq_some_iff.mp hc
  have hkey : Ident.key c.id = Ident.key q := by simpa using r.keyed _ hmem
  rw [lookup?_eq_some_iff, hkey]
  exact ⟨hq, hmem⟩

theorem mem_conversations_of_lookup? {r : Registry} {q : String} {c : Conversation}
    (hc : r.lookup? q = some c) : c ∈ r.conversations := by
  unfold lookup? at hc
  simp only at hc
  split_ifs at hc
  obtain ⟨p, hp, rfl⟩ := Option.map_eq_some_iff.mp hc
  exact List.mem_map.mpr ⟨p, List.mem_of_find?_eq_some hp, rfl⟩

end Registry

end Colloquy
