import Mathlib.Data.Finset.Card
import Mathlib.Logic.Relation
import Colloquy.Check
import Colloquy.Proofs.Registry
/-!
# Entry jumps and the cycles the check finds

A conversation whose first node jumps to a known conversation is left before it shows
anything. Following such *entry jumps* from key to key (`Registry.entryJump?`) either stops or
goes on forever, and it goes on forever exactly when it runs into a cycle.

`Check.foundCycles` walks the entry jumps from every key that has one, until a key comes back.
This module proves that the search finds what it should:

* the keys of every cycle it keeps are *endless*: following never stops from them
  (`Check.endless_of_mem_foundCycles`);
* from every endless key, following reaches a key of a kept cycle
  (`Check.reaches_foundCycles_of_endless`);
* in a registry of `N` conversations, `N` entry jumps followed from a registered key pass an
  endless key (`Registry.endless_of_follow`), by pigeonhole on the keys.

The walk runs on a fuel of one more than the number of keys with a jump. A walk from an endless
key never uses it up: its path repeats no key, and every key on it has a jump
(`Check.walk_isSome`).
-/

namespace Colloquy

/-- A key that finds a value is one of the map's keys. -/
theorem KeyMap.mem_keys_of_find? {α : Type} {m : KeyMap α} {k : String} {v : α}
    (h : m.find? k = some v) : k ∈ m.entries.map (·.1) := by
  unfold KeyMap.find? at h
  obtain ⟨p, hp, -⟩ := Option.map_eq_some_iff.mp h
  have hk : p.1 = k := by simpa using List.find?_some hp
  exact List.mem_map.mpr ⟨p, List.mem_of_find?_eq_some hp, hk⟩

namespace Check

/-- Follows a partial map on keys `n` times from `k`, as far as it goes. -/
def follow (f : String → Option String) : Nat → String → Option String
  | 0, k => some k
  | n + 1, k => (f k).bind (follow f n)

/-- Following never stops from `k`. -/
def Endless (f : String → Option String) (k : String) : Prop :=
  ∀ n, (follow f n k).isSome

/-! ### Following -/

section Follow

variable {f : String → Option String}

@[simp] theorem follow_zero (k : String) : follow f 0 k = some k := rfl

theorem follow_add (a b : Nat) (k : String) :
    follow f (a + b) k = (follow f a k).bind (follow f b) := by
  induction a generalizing k with
  | zero => simp
  | succ a ih =>
    rw [show a + 1 + b = (a + b) + 1 by omega, follow, follow, Option.bind_assoc]
    simp only [ih]

/-- The last step of following is one step of the map. -/
theorem follow_succ' (n : Nat) (k : String) : follow f (n + 1) k = (follow f n k).bind f := by
  rw [follow_add]
  congr 1
  funext k'
  simp [follow]

theorem follow_isSome_of_le {m n : Nat} {k : String} (hmn : m ≤ n)
    (hn : (follow f n k).isSome) : (follow f m k).isSome := by
  obtain ⟨d, rfl⟩ := Nat.exists_eq_add_of_le hmn
  rw [follow_add] at hn
  cases h : follow f m k with
  | none => simp [h] at hn
  | some k' => rfl

/-- Following can be told as a path of steps of the map. -/
theorem reflTransGen_iff_follow {k m : String} :
    Relation.ReflTransGen (fun a b => f a = some b) k m ↔ ∃ i, follow f i k = some m := by
  constructor
  · intro h
    induction h with
    | refl => exact ⟨0, rfl⟩
    | tail _ hstep ih =>
      obtain ⟨i, hi⟩ := ih
      exact ⟨i + 1, by rw [follow_succ', hi, Option.bind_some, hstep]⟩
  · rintro ⟨i, hi⟩
    induction i generalizing k with
    | zero =>
      rw [follow_zero, Option.some.injEq] at hi
      rw [hi]
    | succ i ih =>
      rw [follow] at hi
      cases hk : f k with
      | none => simp [hk] at hi
      | some k' =>
        rw [hk, Option.bind_some] at hi
        exact Relation.ReflTransGen.head hk (ih hi)

/-- An endless key has a next key. -/
theorem Endless.step {k : String} (h : Endless f k) : ∃ k', f k = some k' := by
  have h1 := h 1
  simp only [follow] at h1
  cases hk : f k with
  | none => simp [hk] at h1
  | some k' => exact ⟨k', rfl⟩

/-- Following stays endless. -/
theorem Endless.after {k m : String} {i : Nat} (h : Endless f k) (hm : follow f i k = some m) :
    Endless f m := by
  intro n
  have hn := h (i + n)
  rwa [follow_add, hm, Option.bind_some] at hn

/-- A key that reaches an endless key is endless. -/
theorem Endless.of_reaches {k m : String} {i : Nat} (h : Endless f m)
    (hm : follow f i k = some m) : Endless f k := by
  intro n
  by_cases hn : n ≤ i
  · exact follow_isSome_of_le hn (by rw [hm]; rfl)
  · obtain ⟨d, rfl⟩ := Nat.exists_eq_add_of_lt (Nat.lt_of_not_le hn)
    rw [show i + d + 1 = i + (d + 1) by omega, follow_add, hm, Option.bind_some]
    exact h (d + 1)

/-- **A key that comes back is endless.** -/
theorem Endless.of_return {k : String} {n : Nat} (h : follow f (n + 1) k = some k) :
    Endless f k := by
  intro m
  induction m using Nat.strong_induction_on with
  | _ m ih =>
    by_cases hm : m ≤ n + 1
    · exact follow_isSome_of_le hm (by rw [h]; rfl)
    · -- past one round, following from `k` starts over
      obtain ⟨d, rfl⟩ := Nat.exists_eq_add_of_le (Nat.le_of_lt (Nat.lt_of_not_le hm))
      rw [follow_add, h, Option.bind_some]
      exact ih d (by omega)

end Follow

/-! ### One walk -/

section Walk

variable {jumps : KeyMap String}

/-- A walk's path from `s`: the keys reached after `0, 1, …` jumps, the last being `cur`. -/
structure WalkPath (jumps : KeyMap String) (s : String) (path : List String) (cur : String) :
    Prop where
  pos : 0 < path.length
  iterates : ∀ i (h : i < path.length), follow jumps.find? i s = some path[i]
  last : follow jumps.find? (path.length - 1) s = some cur

theorem walkPath_start (s : String) : WalkPath jumps s [s] s :=
  ⟨by simp, fun i h => by simp at h; subst h; rfl, rfl⟩

/-- The key after the last one of a path. -/
theorem WalkPath.follow_length {s cur next : String} {path : List String}
    (h : WalkPath jumps s path cur) (hnext : jumps.find? cur = some next) :
    follow jumps.find? path.length s = some next := by
  have hlen : path.length = (path.length - 1) + 1 := by have := h.pos; omega
  rw [hlen, follow_succ', h.last, Option.bind_some, hnext]

theorem WalkPath.push {s cur next : String} {path : List String}
    (h : WalkPath jumps s path cur) (hnext : jumps.find? cur = some next) :
    WalkPath jumps s (path ++ [next]) next := by
  refine ⟨by simp, fun i hi => ?_, ?_⟩
  · rw [List.length_append, List.length_singleton] at hi
    by_cases hlt : i < path.length
    · rw [List.getElem_append_left hlt]
      exact h.iterates i hlt
    · have hi' : i = path.length := by omega
      subst hi'
      simp [h.follow_length hnext]
  · simpa using h.follow_length hnext

/-- A key not on a path can be added to it without a repeat. -/
theorem nodup_append_of_not_mem {path : List String} {next : String} (hnd : path.Nodup)
    (hnotin : next ∉ path) : (path ++ [next]).Nodup := by
  rw [List.nodup_append]
  refine ⟨hnd, List.nodup_singleton next, fun a ha b hb hab => ?_⟩
  rw [List.mem_singleton] at hb
  exact hnotin (hb ▸ hab ▸ ha)

/-- **Where a walk that finds a cycle ends**: on a path from the same start, without repeats if
the first one had none, whose last key jumps back to its `p`-th key; the cycle is the path from
there, and the key that came back closes it. -/
theorem walk_eq_some {s : String} (fuel : Nat) {path : List String} {cur : String}
    {C : List String × String} (h : WalkPath jumps s path cur)
    (hw : Check.walk jumps fuel path cur = some C) :
    ∃ path' cur' p, WalkPath jumps s path' cur' ∧ (path.Nodup → path'.Nodup) ∧
      jumps.find? cur' = some C.2 ∧ p < path'.length ∧ path'[p]? = some C.2 ∧
      C.1 = path'.drop p := by
  induction fuel generalizing path cur with
  | zero => simp [Check.walk] at hw
  | succ fuel ih =>
    rw [Check.walk] at hw
    cases hnext : jumps.find? cur with
    | none => simp [hnext] at hw
    | some next =>
      rw [hnext] at hw
      simp only at hw
      cases hp : path.idxOf? next with
      | none =>
        -- the next key is new: the walk goes on from the longer path
        rw [hp] at hw
        obtain ⟨path', cur', p, h', hnd', hrest⟩ := ih (h.push hnext) hw
        exact ⟨path', cur', p, h', fun hnd =>
          hnd' (nodup_append_of_not_mem hnd (List.idxOf?_eq_none_iff.mp hp)), hrest⟩
      | some p =>
        rw [hp, Option.some.injEq] at hw
        subst hw
        obtain ⟨hplt, hpath, -⟩ := List.idxOf?_eq_some_iff.mp hp
        exact ⟨path, cur, p, h, id, hnext, hplt, by rw [List.getElem?_eq_getElem hplt, hpath],
          rfl⟩

/-- **What a walk finds**: a walk that returns a cycle started from an endless key, and the
cycle is made of keys reached from that start. -/
theorem walk_found {s : String} (fuel : Nat) {path : List String} {cur : String}
    {cycle : List String} {back : String} (h : WalkPath jumps s path cur)
    (hw : Check.walk jumps fuel path cur = some (cycle, back)) :
    Endless jumps.find? s ∧ cycle ≠ [] ∧ ∀ m ∈ cycle, ∃ i, follow jumps.find? i s = some m := by
  obtain ⟨path, cur, p, h, -, hnext, hplt, hpath, rfl⟩ := walk_eq_some fuel h hw
  -- the key after the last is the `p`-th again: from there following goes round
  have hround : follow jumps.find? (p + (path.length - p)) s = some back := by
    rw [show p + (path.length - p) = path.length by omega]
    exact h.follow_length hnext
  have hp' : follow jumps.find? p s = some back := by
    rw [h.iterates p hplt, ← List.getElem?_eq_getElem hplt, hpath]
  rw [follow_add, hp', Option.bind_some,
    show path.length - p = (path.length - p - 1) + 1 by omega] at hround
  refine ⟨(Endless.of_return hround).of_reaches hp', ?_, fun m hm => ?_⟩
  · simp [List.drop_eq_nil_iff]
    omega
  · obtain ⟨i, hi, rfl⟩ := List.mem_iff_getElem.mp (List.mem_of_mem_drop hm)
    exact ⟨i, h.iterates i hi⟩

/-- A path from an endless key that repeats no key is no longer than the keys with a jump. -/
theorem WalkPath.length_le {s cur : String} {path : List String} (h : WalkPath jumps s path cur)
    (hs : Endless jumps.find? s) (hnd : path.Nodup) : path.length ≤ jumps.size := by
  have hsub : path ⊆ jumps.entries.map (·.1) := by
    intro x hx
    obtain ⟨i, hi, rfl⟩ := List.mem_iff_getElem.mp hx
    have hsome := hs (i + 1)
    rw [follow_succ', h.iterates i hi, Option.bind_some] at hsome
    obtain ⟨v, hv⟩ := Option.isSome_iff_exists.mp hsome
    exact KeyMap.mem_keys_of_find? hv
  simpa [KeyMap.size] using hnd.length_le_of_subset hsub

/-- **A walk from an endless key finds a cycle**: its path repeats no key and every key on it
has a jump, so it runs into a key it passed before the fuel runs out. -/
theorem walk_isSome {s : String} (hs : Endless jumps.find? s) (fuel : Nat) {path : List String}
    {cur : String} (h : WalkPath jumps s path cur) (hnd : path.Nodup)
    (hfuel : jumps.size + 2 ≤ path.length + fuel) :
    (Check.walk jumps fuel path cur).isSome := by
  induction fuel generalizing path cur with
  | zero =>
    have := h.length_le hs hnd
    omega
  | succ fuel ih =>
    obtain ⟨next, hnext⟩ := (hs.after h.last).step
    rw [Check.walk, hnext]
    simp only
    cases hp : path.idxOf? next with
    | some p => rfl
    | none =>
      -- the next key is new: the path grows by it and stays without repeats
      exact ih (h.push hnext) (nodup_append_of_not_mem hnd (List.idxOf?_eq_none_iff.mp hp))
        (by simp; omega)

end Walk

/-! ### The search over all starts -/

section Search

variable {jumps : KeyMap String}

/-- What the search keeps: every kept cycle is one that a walk finds, and every remembered key
list is the sorted keys of a kept cycle. -/
structure Kept (jumps : KeyMap String) (acc : List (List String) × List (List String × String)) :
    Prop where
  walked : ∀ C ∈ acc.2, ∃ s, walk jumps (jumps.size + 1) [s] s = some C
  remembered : ∀ ms ∈ acc.1, ∃ C ∈ acc.2, C.1.mergeSort (fun a b => decide (a ≤ b)) = ms

theorem kept_nil : Kept jumps ([], []) :=
  ⟨fun _ h => by simp at h, fun _ h => by simp at h⟩

theorem Kept.step {acc : List (List String) × List (List String × String)}
    (h : Kept jumps acc) (s : String) : Kept jumps (collectCycle jumps acc s) := by
  unfold Check.collectCycle
  cases hw : walk jumps (jumps.size + 1) [s] s with
  | none => exact h
  | some C =>
    obtain ⟨cycle, back⟩ := C
    simp only
    split
    · exact h
    · refine ⟨fun C hC => ?_, fun ms hms => ?_⟩
      · rcases List.mem_append.mp hC with hC | hC
        · exact h.walked C hC
        · rw [List.mem_singleton] at hC
          exact ⟨s, hC ▸ hw⟩
      · rcases List.mem_cons.mp hms with rfl | hms
        · exact ⟨(cycle, back), by simp, rfl⟩
        · obtain ⟨C, hC, hCms⟩ := h.remembered ms hms
          exact ⟨C, List.mem_append_left _ hC, hCms⟩

/-- The search forgets no cycle it kept. -/
theorem mem_collectCycle {acc : List (List String) × List (List String × String)}
    {C : List String × String} (hC : C ∈ acc.2) (s : String) :
    C ∈ (collectCycle jumps acc s).2 := by
  unfold Check.collectCycle
  split
  · exact hC
  · simp only
    split
    · exact hC
    · exact List.mem_append_left _ hC

/-- Once the search passed a start, it keeps a cycle with the keys its walk finds. -/
theorem Kept.covers {acc : List (List String) × List (List String × String)}
    (h : Kept jumps acc) {s : String} {C : List String × String}
    (hw : walk jumps (jumps.size + 1) [s] s = some C) :
    ∃ C' ∈ (collectCycle jumps acc s).2, ∀ m, m ∈ C'.1 ↔ m ∈ C.1 := by
  obtain ⟨cycle, back⟩ := C
  unfold Check.collectCycle
  rw [hw]
  simp only
  split
  · -- a cycle with the same sorted keys was kept before
    rename_i hmem
    obtain ⟨C', hC', hsorted⟩ := h.remembered _ (List.contains_iff_mem.mp hmem)
    refine ⟨C', hC', fun m => ?_⟩
    rw [← (List.mergeSort_perm C'.1 _).mem_iff, hsorted, (List.mergeSort_perm cycle _).mem_iff]
  · exact ⟨(cycle, back), by simp, fun m => Iff.rfl⟩

theorem foldl_collectCycle (starts : List String)
    {acc : List (List String) × List (List String × String)} (h : Kept jumps acc) :
    Kept jumps (starts.foldl (collectCycle jumps) acc) ∧
      (∀ C ∈ acc.2, C ∈ (starts.foldl (collectCycle jumps) acc).2) ∧
      ∀ s ∈ starts, ∀ C, walk jumps (jumps.size + 1) [s] s = some C →
        ∃ C' ∈ (starts.foldl (collectCycle jumps) acc).2, ∀ m, m ∈ C'.1 ↔ m ∈ C.1 := by
  induction starts generalizing acc with
  | nil => exact ⟨h, fun _ hC => hC, fun _ hs => by simp at hs⟩
  | cons s starts ih =>
    obtain ⟨hkept, hgrow, hcover⟩ := ih (h.step s)
    refine ⟨hkept, fun C hC => hgrow C (mem_collectCycle hC s), fun s' hs' C hw => ?_⟩
    rcases List.mem_cons.mp hs' with rfl | hs'
    · obtain ⟨C', hC', hsame⟩ := h.covers hw
      exact ⟨C', hgrow C' hC', hsame⟩
    · exact hcover s' hs' C hw

/-- Every cycle the check keeps is one a walk finds. -/
theorem mem_foundCycles {r : Registry} {C : List String × String} (hC : C ∈ foundCycles r) :
    ∃ s, walk (entryJumps r) ((entryJumps r).size + 1) [s] s = some C :=
  (foldl_collectCycle _ kept_nil).1.walked C hC

/-- The check keeps, for every start, a cycle with the keys its walk finds. -/
theorem foundCycles_covers {r : Registry} {s : String}
    (hs : s ∈ (entryJumps r).entries.map (·.1)) {C : List String × String}
    (hw : walk (entryJumps r) ((entryJumps r).size + 1) [s] s = some C) :
    ∃ C' ∈ foundCycles r, ∀ m, m ∈ C'.1 ↔ m ∈ C.1 :=
  (foldl_collectCycle _ kept_nil).2.2 s hs C hw

end Search

end Check

/-! ### Entry jumps of a registry -/

namespace Registry

/-- **The entry jump** from a key: the conversation under the key starts with a jump to a known
conversation, and this is that conversation's key. -/
def entryJump? (r : Registry) (k : String) : Option String :=
  (r.map.find? k).bind fun c =>
    (((c.node? 0).bind Node.jumpTarget?).bind r.lookup?).map (Ident.key ·.id)

/-- The keys of a registry, in order. -/
def keys (r : Registry) : List String :=
  r.map.entries.map (·.1)

variable {r : Registry}

theorem keys_nodup : r.keys.Nodup :=
  (List.pairwise_map.mpr r.map.sorted).nodup

/-- A conversation found by an id has the key of that id. -/
theorem key_id_of_lookup? {q : String} {c : Conversation}
    (hc : r.lookup? q = some c) : Ident.key c.id = Ident.key q := by
  obtain ⟨-, hmem⟩ := lookup?_eq_some_iff.mp hc
  simpa using r.keyed _ hmem

/-- A conversation found by an id sits under a key of the registry, its own. -/
theorem key_mem_keys_of_lookup? {q : String} {c : Conversation}
    (hc : r.lookup? q = some c) : Ident.key c.id ∈ r.keys := by
  obtain ⟨-, hmem⟩ := lookup?_eq_some_iff.mp hc
  rw [key_id_of_lookup? hc]
  exact List.mem_map.mpr ⟨_, hmem, rfl⟩

/-- An entry jump goes from a key of the registry to a key of the registry. -/
theorem entryJump?_mem_keys {k k' : String} (hk : r.entryJump? k = some k') :
    k ∈ r.keys ∧ k' ∈ r.keys := by
  unfold entryJump? at hk
  obtain ⟨c, hc, hk⟩ := Option.bind_eq_some_iff.mp hk
  obtain ⟨next, hnext, rfl⟩ := Option.map_eq_some_iff.mp hk
  obtain ⟨t, -, hlook⟩ := Option.bind_eq_some_iff.mp hnext
  exact ⟨KeyMap.mem_keys_of_find? hc, key_mem_keys_of_lookup? hlook⟩

theorem follow_mem_keys {k : String} (hk : k ∈ r.keys) :
    ∀ i m, Check.follow r.entryJump? i k = some m → m ∈ r.keys
  | 0, m, hm => by
    rw [Check.follow_zero, Option.some.injEq] at hm
    exact hm ▸ hk
  | i + 1, m, hm => by
    rw [Check.follow_succ'] at hm
    obtain ⟨m', -, hm'⟩ := Option.bind_eq_some_iff.mp hm
    exact (entryJump?_mem_keys hm').2

/-- Two equal keys along the entry jumps close a round: the key is endless. -/
theorem endless_of_follow_eq {k m : String} {i j : Nat} (hij : i < j)
    (hi : Check.follow r.entryJump? i k = some m) (hj : Check.follow r.entryJump? j k = some m) :
    Check.Endless r.entryJump? m := by
  rw [show j = i + ((j - i - 1) + 1) by omega, Check.follow_add, hi, Option.bind_some] at hj
  exact Check.Endless.of_return hj

/-- **Pigeonhole on the keys**: following as many entry jumps as the registry has
conversations from one of its keys passes an endless key. -/
theorem endless_of_follow {k : String} (hk : k ∈ r.keys) {n : Nat}
    (hn : r.size ≤ n) (hf : (Check.follow r.entryJump? n k).isSome) :
    ∃ i m, Check.follow r.entryJump? i k = some m ∧ Check.Endless r.entryJump? m := by
  -- the keys after `0, …, n` jumps are `n + 1` keys of the registry: two of them agree
  have hsome : ∀ i, i ≤ n → ∃ m, Check.follow r.entryJump? i k = some m := fun i hi =>
    Option.isSome_iff_exists.mp (Check.follow_isSome_of_le hi hf)
  let g : Nat → String := fun i => (Check.follow r.entryJump? i k).getD ""
  have hg : ∀ i, i ≤ n → Check.follow r.entryJump? i k = some (g i) := by
    intro i hi
    obtain ⟨m, hm⟩ := hsome i hi
    simp [g, hm]
  have hmaps : Set.MapsTo g (Finset.range (n + 1) : Set Nat) (r.keys.toFinset : Set String) := by
    intro i hi
    have hi' : i ≤ n := Nat.lt_succ_iff.mp (Finset.mem_range.mp hi)
    exact List.mem_toFinset.mpr (follow_mem_keys hk i (g i) (hg i hi'))
  have hcard : r.keys.toFinset.card < (Finset.range (n + 1)).card := by
    rw [Finset.card_range, List.toFinset_card_of_nodup keys_nodup]
    have : r.keys.length = r.size := by simp [keys, size, KeyMap.size]
    omega
  obtain ⟨i, hi, j, hj, hij, hgij⟩ := Finset.exists_ne_map_eq_of_card_lt_of_maps_to hcard hmaps
  have hi' : i ≤ n := Nat.lt_succ_iff.mp (Finset.mem_range.mp hi)
  have hj' : j ≤ n := Nat.lt_succ_iff.mp (Finset.mem_range.mp hj)
  rcases Nat.lt_or_gt_of_ne hij with hlt | hlt
  · exact ⟨i, g i, hg i hi', endless_of_follow_eq hlt (hg i hi') (hgij ▸ hg j hj')⟩
  · exact ⟨j, g j, hg j hj', endless_of_follow_eq hlt (hg j hj') (hgij ▸ hg i hi')⟩

end Registry

namespace Check

/-- A fold that puts a value for each conversation under the conversation's own key, over
entries with increasing keys, finds under a key the value for the conversation there. -/
theorem find?_foldl_keyed {α : Type} (g : KeyMap α → Conversation → KeyMap α)
    (v : Conversation → Option α)
    (hg : ∀ m c k, (g m c).find? k = if Ident.key c.id = k then (v c).or (m.find? k)
      else m.find? k)
    {E : List (String × Conversation)} (hs : E.Pairwise (·.1 < ·.1))
    (hk : ∀ p ∈ E, Ident.key p.2.id = p.1) (m : KeyMap α) (k : String) :
    ((E.map (·.2)).foldl g m).find? k = (((E.find? (·.1 == k)).map (·.2)).bind v).or (m.find? k) := by
  induction E generalizing m with
  | nil => simp
  | cons p E ih =>
    obtain ⟨hhead, hrest⟩ := List.pairwise_cons.mp hs
    rw [List.map_cons, List.foldl_cons, ih hrest (fun q hq => hk q (List.mem_cons_of_mem _ hq)),
      hg, hk p List.mem_cons_self]
    by_cases hpk : p.1 = k
    · -- no later entry has the key of `p`
      have hnone : E.find? (·.1 == k) = none := by
        rw [List.find?_eq_none]
        intro q hq hqk
        have hlt := hhead q hq
        rw [beq_iff_eq.mp hqk, hpk] at hlt
        exact lt_irrefl k hlt
      simp [hnone, hpk]
    · simp [hpk]

/-- **The check's entry jumps are the registry's.** -/
theorem entryJumps_find? (r : Registry) (k : String) :
    (entryJumps r).find? k = r.entryJump? k := by
  unfold entryJumps Registry.conversations KeyMap.values
  rw [find?_foldl_keyed _ (fun c => (((c.node? 0).bind Node.jumpTarget?).bind r.lookup?).map
    (Ident.key ·.id)) ?_ r.map.sorted r.keyed]
  · simp [KeyMap.empty, KeyMap.find?, Registry.entryJump?]
  · intro m c k'
    split
    · rename_i next hnext
      by_cases hck : Ident.key c.id = k' <;> simp [hnext, hck]
    · rename_i hnone
      by_cases hck : Ident.key c.id = k' <;> simp [hnone, hck]

/-- **The keys of every kept cycle are endless.** -/
theorem endless_of_mem_foundCycles {r : Registry} {C : List String × String}
    (hC : C ∈ foundCycles r) {m : String} (hm : m ∈ C.1) : Endless r.entryJump? m := by
  have hf : (entryJumps r).find? = r.entryJump? := funext (entryJumps_find? r)
  obtain ⟨s, hw⟩ := mem_foundCycles hC
  obtain ⟨hs, -, hreach⟩ := walk_found _ (walkPath_start s) hw
  obtain ⟨i, hi⟩ := hreach m hm
  rw [hf] at hs hi
  exact hs.after hi

/-- **Every endless key reaches a kept cycle.** -/
theorem reaches_foundCycles_of_endless {r : Registry} {k : String}
    (hk : Endless r.entryJump? k) :
    ∃ C ∈ foundCycles r, ∃ m ∈ C.1, ∃ i, follow r.entryJump? i k = some m := by
  have hf : (entryJumps r).find? = r.entryJump? := funext (entryJumps_find? r)
  rw [← hf] at hk ⊢
  -- the key has a jump, so the search starts a walk from it, and that walk finds a cycle
  obtain ⟨k', hk'⟩ := hk.step
  obtain ⟨C, hw⟩ := Option.isSome_iff_exists.mp
    (walk_isSome hk ((entryJumps r).size + 1) (walkPath_start k) (List.nodup_singleton k)
      (by simp only [List.length_singleton]; omega))
  obtain ⟨-, hne, hreach⟩ := walk_found _ (walkPath_start k) hw
  obtain ⟨C', hC', hsame⟩ := foundCycles_covers (KeyMap.mem_keys_of_find? hk') hw
  obtain ⟨m, hm⟩ := List.exists_mem_of_ne_nil _ hne
  exact ⟨C', hC', m, (hsame m).mpr hm, hreach m hm⟩

end Check

end Colloquy
