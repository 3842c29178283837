import Mathlib.Data.Finset.Card
import Colloquy.Proofs.Registry
/-!
# A registry answers with the latest registration under each key

A registry is made by `Registry.empty` or `Registry.ofDocument`, and changed by registering,
clearing and replacing everything by a document. `Registry.Built r h` records, beside the
registry `r`, the registrations `h` made since the last clear or replacement, oldest first;
a document registers its conversations in order, so a registry made from a document and one
replaced by it have the same history.

The registry is then the finite map that sends each key to the latest registration under it
(`Registry.latest`): a look-up by an id with a non-empty key finds that registration, with its
display id and nodes, and a look-up by an id with an empty key finds nothing; a registration
hands back what the previous latest one under its key left; the size counts the distinct keys
registered; the conversations, and so the known ids, come in strictly increasing key order;
and a conversation held under an id that is not blank is found again by that id
(`Registry.built_latest_wins`).

Everything follows from one invariant (`Registry.Holds`): the registry's map answers every key
as `latest` does. The order of the keys and the key each conversation sits under come with every
registry (`KeyMap.sorted`, `Registry.keyed`). Registering keeps it because insertion is update
(`KeyMap.find?_insert`) and the latest registration of `h ++ [c]` is `c` under its own key
(`latest_append_singleton`).
-/

namespace Colloquy

/-- A nonempty text lowers to a nonempty text: every character lowers to at least one. -/
theorem Text.lowerFrom_ne_nil (before : List Char) {cs : List Char} (h : cs ≠ []) :
    Text.lowerFrom before cs ≠ [] := by
  obtain ⟨c, rest, rfl⟩ := List.exists_cons_of_ne_nil h
  have hone : Text.lowerAt before c rest ≠ [] := by
    unfold Text.lowerAt
    split_ifs <;> simp
  simp [Text.lowerFrom, hone]

/-- An id that is not blank has a key that is not empty. -/
theorem Ident.key_ne_empty {id : String} (h : Text.trim id ≠ "") : Ident.key id ≠ "" := by
  have hlist : (Text.trim id).toList ≠ [] := by simpa using h
  simpa [Ident.key, Text.lower] using Text.lowerFrom_ne_nil [] hlist

namespace Registry

/-- The conversation left by the latest of the registrations `h` (oldest first) whose id has the
key `k`: that registration's display id and nodes. -/
def latest (h : List Conversation) (k : String) : Option Conversation :=
  (h.reverse.find? fun c => Ident.key c.id == k).map fun c => ⟨Ident.display c.id, c.nodes⟩

@[simp] theorem latest_nil (k : String) : latest [] k = none := rfl

/-- A new registration is the latest one under its own key, and changes no other key. -/
theorem latest_append_singleton (h : List Conversation) (c : Conversation) (k : String) :
    latest (h ++ [c]) k =
      if Ident.key c.id = k then some ⟨Ident.display c.id, c.nodes⟩ else latest h k := by
  by_cases hk : Ident.key c.id = k <;> simp [latest, hk]

/-- A key has a latest registration exactly when some registration has that key. -/
theorem isSome_latest_iff (h : List Conversation) (k : String) :
    (latest h k).isSome ↔ k ∈ h.map fun c => Ident.key c.id := by
  simp only [latest, Option.isSome_map, List.find?_isSome, List.mem_reverse, beq_iff_eq,
    List.mem_map]

/-- **A registry with its history**: `Built r h` when `r` is made by `empty` or `ofDocument` and
changed by registering, clearing and replacing everything, and `h` lists the registrations made
since the last clear or replacement, oldest first. -/
inductive Built : Registry → List Conversation → Prop
  | new : Built empty []
  | ofDocument (d : Document) : Built (ofDocument d) d.conversations
  | register {r : Registry} {h : List Conversation} (id : String) (nodes : List Node) :
      Built r h → Built (r.register id nodes).1 (h ++ [⟨id, nodes⟩])
  | clear {r : Registry} {h : List Conversation} : Built r h → Built r.clear []
  | replaceAll {r : Registry} {h : List Conversation} (d : Document) :
      Built r h → Built (r.replaceAll d) d.conversations

/-! ### The invariant -/

/-- The registry answers every key with the latest registration of `h`. -/
structure Holds (r : Registry) (h : List Conversation) : Prop where
  find? : ∀ k, r.map.find? k = latest h k

theorem holds_empty : Holds empty [] :=
  ⟨fun _ => rfl⟩

theorem Holds.register {r : Registry} {h : List Conversation} (hr : Holds r h) (id : String)
    (nodes : List Node) : Holds (r.register id nodes).1 (h ++ [⟨id, nodes⟩]) := by
  refine ⟨fun k => ?_⟩
  simp only [Registry.register, KeyMap.find?_insert, latest_append_singleton, hr.find?]

theorem Holds.registerAll {r : Registry} {h : List Conversation} (hr : Holds r h)
    (cs : List Conversation) : Holds (r.registerAll cs) (h ++ cs) := by
  induction cs generalizing r h with
  | nil => rw [List.append_nil]; exact hr
  | cons c cs ih =>
    have hone := hr.register c.id c.nodes
    rw [show h ++ c :: cs = (h ++ [⟨c.id, c.nodes⟩]) ++ cs by simp]
    exact ih hone

theorem holds_ofDocument (d : Document) : Holds (ofDocument d) d.conversations := by
  have h := holds_empty.registerAll d.conversations
  rwa [List.nil_append] at h

theorem Built.holds {r : Registry} {h : List Conversation} (hb : r.Built h) : Holds r h := by
  induction hb with
  | new => exact holds_empty
  | ofDocument d => exact holds_ofDocument d
  | register id nodes _ ih => exact ih.register id nodes
  | clear _ => exact holds_empty
  | replaceAll d _ => exact holds_ofDocument d

/-! ### What the invariant answers -/

section

variable {r : Registry} {h : List Conversation}

theorem Holds.lookup? (hr : Holds r h) (q : String) :
    r.lookup? q = if Ident.key q = "" then none else latest h (Ident.key q) := by
  simp only [Registry.lookup?, hr.find?]

/-- A conversation is held exactly when it is the latest registration under its key. -/
theorem Holds.mem_conversations (hr : Holds r h) (c : Conversation) :
    c ∈ r.conversations ↔ latest h (Ident.key c.id) = some c := by
  rw [← hr.find?, KeyMap.find?_eq_some_iff]
  constructor
  · intro hc
    obtain ⟨p, hp, rfl⟩ := List.mem_map.mp hc
    -- the entry of `p` is listed under the key of its own id
    have hkey := r.keyed p hp
    rw [hkey]
    exact hp
  · intro hc
    exact List.mem_map.mpr ⟨_, hc, rfl⟩

/-- The conversations of every registry come in strictly increasing key order. -/
theorem conversations_keys_sorted (r : Registry) :
    (r.conversations.map fun c => Ident.key c.id).Pairwise (· < ·) := by
  have hkeys : (r.conversations.map fun c => Ident.key c.id) = r.map.entries.map Prod.fst := by
    simp only [conversations, KeyMap.values, List.map_map]
    exact List.map_congr_left fun p hp => r.keyed p hp
  rw [hkeys, List.pairwise_map]
  exact r.map.sorted

/-- The keys held are those registered. -/
theorem Holds.mem_keys (hr : Holds r h) (k : String) :
    k ∈ r.map.entries.map Prod.fst ↔ k ∈ h.map fun c => Ident.key c.id := by
  rw [← isSome_latest_iff, ← hr.find?, Option.isSome_iff_exists]
  simp only [List.mem_map, KeyMap.find?_eq_some_iff]
  constructor
  · rintro ⟨⟨k', v⟩, hp, rfl⟩
    exact ⟨v, hp⟩
  · rintro ⟨v, hp⟩
    exact ⟨(k, v), hp, rfl⟩

theorem Holds.size (hr : Holds r h) : r.size = (h.map fun c => Ident.key c.id).toFinset.card := by
  -- the keys held are strictly increasing, so each is held once
  have hnodup : (r.map.entries.map Prod.fst).Nodup :=
    (List.pairwise_map.mpr r.map.sorted).nodup
  have hset : (r.map.entries.map Prod.fst).toFinset = (h.map fun c => Ident.key c.id).toFinset := by
    ext k
    simp only [List.mem_toFinset]
    exact hr.mem_keys k
  rw [← hset, List.toFinset_card_of_nodup hnodup, List.length_map]
  rfl

theorem Holds.lookup?_self (hr : Holds r h) {c : Conversation} (hc : c ∈ r.conversations)
    (hid : Text.trim c.id ≠ "") : r.lookup? c.id = some c := by
  rw [hr.lookup?, if_neg (Ident.key_ne_empty hid)]
  exact (hr.mem_conversations c).mp hc

end

/-- **What a registry with the registrations `h` answers**: each key as the latest of them. -/
structure LatestWins (r : Registry) (h : List Conversation) : Prop where
  lookup : ∀ q, r.lookup? q = if Ident.key q = "" then none else latest h (Ident.key q)
  register : ∀ id nodes, (r.register id nodes).2 = latest h (Ident.key id)
  size : r.size = (h.map fun c => Ident.key c.id).toFinset.card
  sorted : (r.conversations.map fun c => Ident.key c.id).Pairwise (· < ·)
  mem : ∀ c, c ∈ r.conversations ↔ latest h (Ident.key c.id) = some c
  knownIds_sorted : (r.knownIds.map Ident.key).Pairwise (· < ·)
  mem_knownIds : ∀ id, id ∈ r.knownIds ↔ ∃ c, latest h (Ident.key id) = some c ∧ c.id = id
  self : ∀ c ∈ r.conversations, Text.trim c.id ≠ "" → r.lookup? c.id = some c

/-- **The latest registration wins.** For a registry made by `empty` or `ofDocument` and then
changed by registering, clearing and replacing everything, with `h` the registrations since the
last clear or replacement: a look-up by an id whose key is empty finds nothing, and by any other
id finds the latest registration under its key, with its display id and nodes; registering
hands back what the latest registration under the new key left; the size counts the distinct
keys registered; the conversations and the known ids are the latest registrations, in strictly
increasing key order; and a conversation held under an id that is not blank is found by it. -/
theorem built_latest_wins {r : Registry} {h : List Conversation} (hb : r.Built h) :
    LatestWins r h := by
  have hr := hb.holds
  refine ⟨hr.lookup?, fun id nodes => hr.find? _, hr.size, conversations_keys_sorted r,
    hr.mem_conversations, ?_, fun id => ?_, fun c hc hid => hr.lookup?_self hc hid⟩
  · have hkeys : r.knownIds.map Ident.key = r.conversations.map fun c => Ident.key c.id := by
      rw [knownIds, List.map_map]
      rfl
    rw [hkeys]
    exact conversations_keys_sorted r
  · simp only [knownIds, List.mem_map, hr.mem_conversations]
    constructor
    · rintro ⟨c, hc, rfl⟩
      exact ⟨c, hc, rfl⟩
    · rintro ⟨c, hc, rfl⟩
      exact ⟨c, hc, rfl⟩

/-- A document that defines `Shop` twice, under ids that share a key, the second time with a
line. -/
def twoShops : Document where
  conversations := [⟨"Shop", []⟩, ⟨" SHOP ", [.line "Ann" "Back again."]⟩]

/-- The registry of `twoShops`, with a conversation under an empty id registered after. -/
theorem twoShops_latest_wins :
    Built ((ofDocument twoShops).register "" []).1 (twoShops.conversations ++ [⟨"", []⟩]) ∧
      LatestWins ((ofDocument twoShops).register "" []).1
        (twoShops.conversations ++ [⟨"", []⟩]) :=
  have hb := (Built.ofDocument twoShops).register "" []
  ⟨hb, built_latest_wins hb⟩

end Registry

end Colloquy
