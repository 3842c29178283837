import Mathlib.Data.List.Rotate
import Mathlib.Data.String.Basic
import Colloquy.Proofs.EntryJumps
/-!
# The check reports every entry-jump cycle once

The entry jumps of a registry form a partial map on keys (`Registry.entryJump?`): each key has
at most one next key. Its cycles (`Check.IsCycle`) are lists of keys without repeats, each
mapped to the next and the last to the first. In such a map two cycles that share a key are the
same cycle read from another key (`IsCycle.isRotated`), and from any key at most one cycle is
reached (`IsCycle.perm_of_reaches`).

The search of the check walks the entry jumps from every key that has one, in increasing order,
until a key comes back, and keeps the cycle found unless one with the same keys was kept. The
theorem here (`cycles_reported_once`) says what it reports:

* every report is a cycle in edge order, its message closed by its first key;
* every cycle of the entry jumps is reported, read from some key of its own;
* no two reports share a key, so no cycle is reported twice;
* each report is read from the first of its keys reached from the least key that reaches it,
  and the reports come in the order of those least keys;
* every walk stops by its own test, a key with no jump or a key it passed, within one more pass
  than there are keys with a jump (`Check.walkExits`).

One walk is proved first (`walk_cycle`): its path has no repeats and the part from the key that
came back is a cycle. The search is proved along the starts (`Search.foldl`): each kept cycle is
tagged with the first start whose walk found its keys.
-/

namespace Colloquy

/-- A key has a value exactly when it is one of the map's keys. -/
theorem KeyMap.mem_keys_iff_isSome {α : Type} {m : KeyMap α} {k : String} :
    k ∈ m.entries.map (·.1) ↔ (m.find? k).isSome := by
  constructor
  · intro hk
    obtain ⟨p, hp, rfl⟩ := List.mem_map.mp hk
    have hfind : (m.entries.find? (·.1 == p.1)).isSome := List.find?_isSome.mpr ⟨p, hp, by simp⟩
    simpa [KeyMap.find?] using hfind
  · intro hk
    obtain ⟨v, hv⟩ := Option.isSome_iff_exists.mp hk
    exact KeyMap.mem_keys_of_find? hv

namespace Check

/-! ### Cycles of a partial map -/

section Cycles

variable {f : String → Option String}

/-- **A cycle of a partial map**, in edge order: keys without repeats, each mapped to the next,
and the last to the first. -/
structure IsCycle (f : String → Option String) (l : List String) : Prop where
  ne_nil : l ≠ []
  nodup : l.Nodup
  next : ∀ i < l.length, l[i]?.bind f = l[(i + 1) % l.length]?

/-- Following from a key of a cycle goes round it. -/
theorem IsCycle.follow_getElem? {l : List String} (hl : IsCycle f l) {k : Nat} {m : String}
    (hm : l[k]? = some m) (n : Nat) : follow f n m = l[(k + n) % l.length]? := by
  have hk : k < l.length := by
    by_contra hk
    rw [List.getElem?_eq_none (by omega)] at hm
    cases hm
  induction n with
  | zero => rw [follow_zero, Nat.add_zero, Nat.mod_eq_of_lt hk, hm]
  | succ n ih =>
    have hlt : (k + n) % l.length < l.length := Nat.mod_lt _ (by omega)
    rw [follow_succ', ih, hl.next _ hlt, Nat.mod_add_mod, Nat.add_assoc]

/-- Following from a key of a cycle stays on it. -/
theorem IsCycle.follow_mem {c : List String} (hc : IsCycle f c) {m : String} (hm : m ∈ c)
    (n : Nat) : ∃ m' ∈ c, follow f n m = some m' := by
  obtain ⟨k, hk, rfl⟩ := List.mem_iff_getElem.mp hm
  have hlt : (k + n) % c.length < c.length := Nat.mod_lt _ (by omega)
  rw [hc.follow_getElem? (List.getElem?_eq_getElem hk) n]
  exact ⟨_, List.getElem_mem hlt, List.getElem?_eq_getElem hlt⟩

/-- Every key of a cycle is reached from every other. -/
theorem IsCycle.reaches {c : List String} (hc : IsCycle f c) {m m' : String} (hm : m ∈ c)
    (hm' : m' ∈ c) : ∃ n, follow f n m = some m' := by
  obtain ⟨k, hk, rfl⟩ := List.mem_iff_getElem.mp hm
  obtain ⟨k', hk', rfl⟩ := List.mem_iff_getElem.mp hm'
  refine ⟨k' + c.length - k, ?_⟩
  rw [hc.follow_getElem? (List.getElem?_eq_getElem hk),
    show k + (k' + c.length - k) = k' + c.length by omega, Nat.add_mod_right,
    Nat.mod_eq_of_lt hk', List.getElem?_eq_getElem hk']

/-- A key of a cycle is endless. -/
theorem IsCycle.endless {c : List String} (hc : IsCycle f c) {m : String} (hm : m ∈ c) :
    Endless f m := by
  intro n
  obtain ⟨m', -, hn⟩ := hc.follow_mem hm n
  rw [hn]
  rfl

theorem IsCycle.subset_of_mem {c c' : List String} (hc : IsCycle f c) (hc' : IsCycle f c')
    {m : String} (hm : m ∈ c) (hm' : m ∈ c') : c ⊆ c' := by
  intro x hx
  -- `x` is reached from `m` round `c`, and following from `m` stays on `c'`
  obtain ⟨n, hn⟩ := hc.reaches hm hx
  obtain ⟨y, hy, hny⟩ := hc'.follow_mem hm' n
  rw [hn, Option.some.injEq] at hny
  exact hny ▸ hy

/-- **Two cycles that share a key have the same keys.** -/
theorem IsCycle.perm_of_mem {c c' : List String} (hc : IsCycle f c) (hc' : IsCycle f c')
    {m : String} (hm : m ∈ c) (hm' : m ∈ c') : c.Perm c' :=
  (List.perm_ext_iff_of_nodup hc.nodup hc'.nodup).mpr fun _ =>
    ⟨fun hx => hc.subset_of_mem hc' hm hm' hx, fun hx => hc'.subset_of_mem hc hm' hm hx⟩

/-- A cycle read from its `k`-th key lists the keys reached in turn from that key. -/
theorem IsCycle.getElem?_rotate {l : List String} (hl : IsCycle f l) {k : Nat} {m : String}
    (hm : l[k]? = some m) {i : Nat} (hi : i < l.length) : (l.rotate k)[i]? = follow f i m := by
  rw [List.getElem?_rotate hi, hl.follow_getElem? hm i, Nat.add_comm]

/-- **Two cycles that share a key are rotations of each other.** -/
theorem IsCycle.isRotated {c c' : List String} (hc : IsCycle f c) (hc' : IsCycle f c')
    {m : String} (hm : m ∈ c) (hm' : m ∈ c') : List.IsRotated c c' := by
  obtain ⟨k, hk, hkm⟩ := List.mem_iff_getElem.mp hm
  obtain ⟨k', hk', hkm'⟩ := List.mem_iff_getElem.mp hm'
  have hlen : c.length = c'.length := (hc.perm_of_mem hc' hm hm').length_eq
  -- read from the shared key, both list the keys reached in turn from it
  have hrot : c.rotate k = c'.rotate k' := by
    apply List.ext_getElem?
    intro i
    by_cases hi : i < c.length
    · rw [hc.getElem?_rotate (by rw [List.getElem?_eq_getElem hk, hkm]) hi,
        hc'.getElem?_rotate (by rw [List.getElem?_eq_getElem hk', hkm']) (hlen ▸ hi)]
    · rw [List.getElem?_eq_none (by simp; omega), List.getElem?_eq_none (by simp; omega)]
  have hto : List.IsRotated c (c'.rotate k') := ⟨k, hrot⟩
  have hback : List.IsRotated c' (c'.rotate k') := ⟨k', rfl⟩
  exact hto.trans hback.symm

end Cycles

/-! ### Reaching a cycle -/

section Reach

variable {f : String → Option String}

/-- Following from `k` reaches a key of `c`. -/
def Reaches (f : String → Option String) (k : String) (c : List String) : Prop :=
  ∃ i m, follow f i k = some m ∧ m ∈ c

/-- `s` is the least key from which `c` is reached. -/
def LeastStart (f : String → Option String) (c : List String) (s : String) : Prop :=
  Reaches f s c ∧ ∀ k, Reaches f k c → s ≤ k

/-- `c` begins with its first key reached from `s`. -/
def StartsFrom (f : String → Option String) (c : List String) (s : String) : Prop :=
  ∃ j, follow f j s = c.head? ∧ ∀ i < j, ∀ m, follow f i s = some m → m ∉ c

theorem LeastStart.unique {c : List String} {s s' : String} (h : LeastStart f c s)
    (h' : LeastStart f c s') : s = s' :=
  le_antisymm (h.2 s' h'.1) (h'.2 s h.1)

theorem StartsFrom.reaches {c : List String} {s : String} (h : StartsFrom f c s) (hc : c ≠ []) :
    Reaches f s c := by
  obtain ⟨j, hj, -⟩ := h
  obtain ⟨m, rest, rfl⟩ := List.exists_cons_of_ne_nil hc
  exact ⟨j, m, hj, List.mem_cons_self⟩

/-- A key that reaches a cycle has a next key. -/
theorem IsCycle.isSome_of_reaches {c : List String} (hc : IsCycle f c) {k : String}
    (hk : Reaches f k c) : (f k).isSome := by
  obtain ⟨i, m, hi, hm⟩ := hk
  cases i with
  | zero =>
    -- `k` is on the cycle itself
    rw [follow_zero, Option.some.injEq] at hi
    obtain ⟨m', -, h1⟩ := hc.follow_mem hm 1
    rw [follow_succ', follow_zero, Option.bind_some] at h1
    rw [hi, h1]
    rfl
  | succ i =>
    cases hk : f k with
    | none => simp [follow, hk] at hi
    | some k' => rfl

/-- **From a key at most one cycle is reached**: two cycles reached from one key have the same
keys. -/
theorem IsCycle.perm_of_reaches {c c' : List String} (hc : IsCycle f c) (hc' : IsCycle f c')
    {k : String} (h : Reaches f k c) (h' : Reaches f k c') : c.Perm c' := by
  obtain ⟨i, m, hi, hm⟩ := h
  obtain ⟨i', m', hi', hm'⟩ := h'
  -- `i + i'` steps from `k` land on both cycles
  obtain ⟨x, hx, hfx⟩ := hc.follow_mem hm i'
  obtain ⟨x', hx', hfx'⟩ := hc'.follow_mem hm' i
  have h1 : follow f (i + i') k = some x := by rw [follow_add, hi, Option.bind_some, hfx]
  have h2 : follow f (i + i') k = some x' := by
    rw [Nat.add_comm, follow_add, hi', Option.bind_some, hfx']
  rw [h1, Option.some.injEq] at h2
  exact hc.perm_of_mem hc' hx (h2 ▸ hx')

end Reach

/-! ### What one walk finds -/

section Walk

variable {jumps : KeyMap String}

/-- Consecutive keys of a walk's path are one jump apart. -/
theorem WalkPath.getElem?_succ {s cur : String} {path : List String}
    (h : WalkPath jumps s path cur) {i : Nat} (hi : i + 1 < path.length) :
    path[i]?.bind jumps.find? = path[i + 1]? := by
  have h1 := h.iterates (i + 1) hi
  rw [follow_succ', h.iterates i (by omega), Option.bind_some] at h1
  rw [List.getElem?_eq_getElem (by omega), Option.bind_some, h1, List.getElem?_eq_getElem hi]

/-- The last key of a walk's path is the current one. -/
theorem WalkPath.getElem?_last {s cur : String} {path : List String}
    (h : WalkPath jumps s path cur) : path[path.length - 1]? = some cur := by
  have hlt : path.length - 1 < path.length := by have := h.pos; omega
  rw [List.getElem?_eq_getElem hlt, ← h.iterates _ hlt, h.last]

/-- Every key of a walk's path but the last has a jump. -/
theorem WalkPath.dropLast_subset {s cur : String} {path : List String}
    (h : WalkPath jumps s path cur) : path.dropLast ⊆ jumps.entries.map (·.1) := by
  intro x hx
  obtain ⟨i, hi, rfl⟩ := List.mem_iff_getElem.mp hx
  rw [List.length_dropLast] at hi
  have hstep := h.getElem?_succ (i := i) (by omega)
  rw [List.getElem?_eq_getElem (by omega), Option.bind_some,
    List.getElem?_eq_getElem (by omega)] at hstep
  rw [List.getElem_dropLast]
  exact KeyMap.mem_keys_of_find? hstep

/-- The walk stops by its own test within `fuel` passes: it finds a key with no jump, or a key
it passed; it does not stop for want of passes. -/
def walkExits (jumps : KeyMap String) : Nat → List String → String → Prop
  | 0, _, _ => False
  | fuel + 1, path, current =>
    match jumps.find? current with
    | none => True
    | some next =>
      match path.idxOf? next with
      | some _ => True
      | none => walkExits jumps fuel (path ++ [next]) next

/-- **A walk stops by its own test** while it has passes for every key with a jump and one more:
every key of its path but the last has a jump, and none repeats. -/
theorem walkExits_of_walkPath {s cur : String} {path : List String}
    (h : WalkPath jumps s path cur) (hnd : path.Nodup) (fuel : Nat)
    (hfuel : jumps.size + 2 ≤ path.length + fuel) : walkExits jumps fuel path cur := by
  induction fuel generalizing path cur with
  | zero =>
    -- the keys before the last are keys with a jump, without repeats: too many of them
    have hle := (hnd.sublist (List.dropLast_sublist path)).length_le_of_subset h.dropLast_subset
    rw [List.length_dropLast, List.length_map] at hle
    have hsize : jumps.size = jumps.entries.length := rfl
    omega
  | succ fuel ih =>
    rw [walkExits]
    cases hnext : jumps.find? cur with
    | none => trivial
    | some next =>
      simp only
      cases hp : path.idxOf? next with
      | some p => trivial
      | none =>
        have hnotin : next ∉ path := List.idxOf?_eq_none_iff.mp hp
        exact ih (h.push hnext) (nodup_append_of_not_mem hnd hnotin)
          (by rw [List.length_append, List.length_singleton]; omega)

/-- The part of a walk's path from the key that comes back is a cycle. -/
theorem WalkPath.isCycle_drop {s cur next : String} {path : List String}
    (h : WalkPath jumps s path cur) (hnd : path.Nodup) (hnext : jumps.find? cur = some next)
    {p : Nat} (hp : p < path.length) (hpath : path[p]? = some next) :
    IsCycle jumps.find? (path.drop p) := by
  refine ⟨by simp [List.drop_eq_nil_iff]; omega, hnd.sublist (List.drop_sublist _ _),
    fun i hi => ?_⟩
  rw [List.length_drop] at hi ⊢
  rw [List.getElem?_drop, List.getElem?_drop]
  by_cases hmid : p + i + 1 < path.length
  · -- inside the path: the next key is the next one on it
    rw [Nat.mod_eq_of_lt (by omega : i + 1 < path.length - p), ← Nat.add_assoc,
      h.getElem?_succ hmid]
  · -- at the end of the path: the next key is the one that came back
    have hlast : p + i = path.length - 1 := by omega
    have hwrap : (i + 1) % (path.length - p) = 0 := by
      rw [show i + 1 = path.length - p by omega, Nat.mod_self]
    rw [hlast, h.getElem?_last, Option.bind_some, hnext, hwrap, Nat.add_zero, hpath]

/-- The part of a path from its `p`-th key begins with the first of its keys reached. -/
theorem WalkPath.startsFrom_drop {s cur : String} {path : List String}
    (h : WalkPath jumps s path cur) (hnd : path.Nodup) {p : Nat} (hp : p < path.length) :
    StartsFrom jumps.find? (path.drop p) s := by
  refine ⟨p, by rw [h.iterates p hp, List.head?_drop, List.getElem?_eq_getElem hp], ?_⟩
  intro i hi m hm hmem
  rw [h.iterates i (by omega), Option.some.injEq] at hm
  subst hm
  -- a key before the `p`-th is not repeated after it
  obtain ⟨k, hk, hkeq⟩ := List.mem_iff_getElem.mp hmem
  rw [List.getElem_drop] at hkeq
  have := (hnd.getElem_inj_iff).mp hkeq
  omega

/-- **What a walk finds**: a cycle in edge order, closed by its first key, which is the first key
of the cycle reached from the start. -/
theorem walk_cycle {s : String} (fuel : Nat) {path : List String} {cur : String}
    {C : List String × String} (h : WalkPath jumps s path cur) (hnd : path.Nodup)
    (hw : walk jumps fuel path cur = some C) :
    IsCycle jumps.find? C.1 ∧ C.1.head? = some C.2 ∧ StartsFrom jumps.find? C.1 s := by
  obtain ⟨path', cur', p, h', hnd', hnext, hplt, hpath, hC⟩ := walk_eq_some fuel h hw
  rw [hC]
  exact ⟨h'.isCycle_drop (hnd' hnd) hnext hplt hpath, by rw [List.head?_drop, hpath],
    h'.startsFrom_drop (hnd' hnd) hplt⟩

/-- The walk of the search from `s`. -/
theorem walk_start_cycle {s : String} {C : List String × String}
    (hw : walk jumps (jumps.size + 1) [s] s = some C) :
    IsCycle jumps.find? C.1 ∧ C.1.head? = some C.2 ∧ StartsFrom jumps.find? C.1 s :=
  walk_cycle _ (walkPath_start s) (List.nodup_singleton s) hw

/-- A start that reaches a cycle walks into a cycle with the same keys. -/
theorem walk_start_of_reaches {s : String} {c : List String} (hc : IsCycle jumps.find? c)
    (hs : Reaches jumps.find? s c) :
    ∃ C, walk jumps (jumps.size + 1) [s] s = some C ∧ C.1.Perm c := by
  obtain ⟨i, m, hi, hm⟩ := hs
  have hend : Endless jumps.find? s := (hc.endless hm).of_reaches hi
  obtain ⟨C, hw⟩ := Option.isSome_iff_exists.mp
    (walk_isSome hend (jumps.size + 1) (walkPath_start s) (List.nodup_singleton s)
      (by rw [List.length_singleton]; omega))
  obtain ⟨hC, -, hfrom⟩ := walk_start_cycle hw
  exact ⟨C, hw, hC.perm_of_reaches hc (hfrom.reaches hC.ne_nil) ⟨i, m, hi, hm⟩⟩

end Walk

/-! ### Telling cycles apart by their sorted keys -/

/-- Two lists have the same sorted keys exactly when they have the same keys, counted. -/
theorem mergeSort_eq_iff_perm {c c' : List String} :
    c.mergeSort (fun a b => decide (a ≤ b)) = c'.mergeSort (fun a b => decide (a ≤ b)) ↔
      c.Perm c' := by
  have htrans : ∀ a b d : String, decide (a ≤ b) = true → decide (b ≤ d) = true →
      decide (a ≤ d) = true := by
    intro a b d hab hbd
    simp only [decide_eq_true_eq] at hab hbd ⊢
    exact le_trans hab hbd
  have htotal : ∀ a b : String, (decide (a ≤ b) || decide (b ≤ a)) = true := by
    simp [le_total]
  constructor
  · intro h
    exact (List.mergeSort_perm c _).symm.trans (h ▸ List.mergeSort_perm c' _)
  · intro h
    refine List.Perm.eq_of_pairwise ?_ (List.pairwise_mergeSort htrans htotal c)
      (List.pairwise_mergeSort htrans htotal c')
      ((List.mergeSort_perm c _).trans (h.trans (List.mergeSort_perm c' _).symm))
    intro a b _ _ hab hba
    exact le_antisymm (by simpa using hab) (by simpa using hba)

/-! ### The search over all starts -/

section Search

variable {jumps : KeyMap String}

/-- The kept cycle `C` came from the start `s` of `done`: the first start of `done` whose walk
found its keys. -/
def FirstFound (jumps : KeyMap String) (done : List String) (C : List String × String)
    (s : String) : Prop :=
  s ∈ done ∧ walk jumps (jumps.size + 1) [s] s = some C ∧
    ∀ s' ∈ done, s' < s → ∀ C', walk jumps (jumps.size + 1) [s'] s' = some C' →
      ¬ C'.1.Perm C.1

/-- What the search has done after the starts `done`: every remembered key list is that of a
kept cycle, the keys of every cycle walked into are remembered, and the kept cycles are those
first found, each tagged with its start, in the order of the starts. -/
structure Search (jumps : KeyMap String) (done : List String)
    (acc : List (List String) × List (List String × String)) : Prop where
  remembered : ∀ ms ∈ acc.1, ∃ C ∈ acc.2, C.1.mergeSort (fun a b => decide (a ≤ b)) = ms
  seen : ∀ s ∈ done, ∀ C, walk jumps (jumps.size + 1) [s] s = some C →
    C.1.mergeSort (fun a b => decide (a ≤ b)) ∈ acc.1
  tagged : ∃ ts : List (String × (List String × String)), acc.2 = ts.map (·.2) ∧
    (∀ t ∈ ts, FirstFound jumps done t.2 t.1) ∧ (ts.map (·.1)).Pairwise (· < ·)

theorem search_nil : Search jumps [] ([], []) :=
  ⟨fun _ h => by simp at h, fun _ h => by simp at h,
    ⟨[], rfl, fun _ h => by simp at h, by simp⟩⟩

/-- A start greater than all before it leaves what was first found first found. -/
theorem FirstFound.mono {done : List String} {C : List String × String} {t s : String}
    (h : FirstFound jumps done C t) (hs : ∀ d ∈ done, d < s) :
    FirstFound jumps (done ++ [s]) C t := by
  obtain ⟨ht, hw, hfirst⟩ := h
  refine ⟨List.mem_append_left _ ht, hw, fun s' hs' hlt => ?_⟩
  rcases List.mem_append.mp hs' with hs' | hs'
  · exact hfirst s' hs' hlt
  · rw [List.mem_singleton] at hs'
    subst hs'
    exact absurd (hs t ht) (lt_asymm hlt)

/-- A start whose walk finds nothing new leaves the search as it was. -/
theorem Search.skip {done : List String} {acc : List (List String) × List (List String × String)}
    (h : Search jumps done acc) {s : String} (hs : ∀ d ∈ done, d < s)
    (hseen : ∀ C, walk jumps (jumps.size + 1) [s] s = some C →
      C.1.mergeSort (fun a b => decide (a ≤ b)) ∈ acc.1) :
    Search jumps (done ++ [s]) acc := by
  obtain ⟨ts, hts, htag, hsort⟩ := h.tagged
  refine ⟨h.remembered, fun s' hs' C hC => ?_,
    ⟨ts, hts, fun t ht => (htag t ht).mono hs, hsort⟩⟩
  rcases List.mem_append.mp hs' with hs' | hs'
  · exact h.seen s' hs' C hC
  · rw [List.mem_singleton] at hs'
    subst hs'
    exact hseen C hC

/-- A start whose walk finds keys not remembered is the first start to find them. -/
theorem Search.firstFound_new {done : List String}
    {acc : List (List String) × List (List String × String)} (h : Search jumps done acc)
    {s : String} {C : List String × String} (hw : walk jumps (jumps.size + 1) [s] s = some C)
    (hnew : C.1.mergeSort (fun a b => decide (a ≤ b)) ∉ acc.1) :
    FirstFound jumps (done ++ [s]) C s := by
  refine ⟨List.mem_append_right _ (List.mem_singleton_self s), hw,
    fun s' hs' hlt C' hC' hperm => ?_⟩
  rcases List.mem_append.mp hs' with hs' | hs'
  · -- an earlier start that walked into the same keys would have them remembered
    apply hnew
    rw [← mergeSort_eq_iff_perm.mpr hperm]
    exact h.seen s' hs' C' hC'
  · rw [List.mem_singleton] at hs'
    exact lt_irrefl s (hs' ▸ hlt)

/-- A start whose walk finds a cycle with keys not remembered keeps it, tagged with the start. -/
theorem Search.keep {done : List String}
    {acc : List (List String) × List (List String × String)} (h : Search jumps done acc)
    {s : String} (hs : ∀ d ∈ done, d < s) {C : List String × String}
    (hw : walk jumps (jumps.size + 1) [s] s = some C)
    (hnew : C.1.mergeSort (fun a b => decide (a ≤ b)) ∉ acc.1) :
    Search jumps (done ++ [s])
      (C.1.mergeSort (fun a b => decide (a ≤ b)) :: acc.1, acc.2 ++ [C]) := by
  obtain ⟨ts, hts, htag, hsort⟩ := h.tagged
  refine ⟨fun ms hms => ?_, fun s' hs' C' hC' => ?_,
    ⟨ts ++ [(s, C)], by simp [hts], fun t ht => ?_, ?_⟩⟩
  · rcases List.mem_cons.mp hms with rfl | hms
    · exact ⟨C, by simp, rfl⟩
    · obtain ⟨C'', hC'', hkey⟩ := h.remembered ms hms
      exact ⟨C'', List.mem_append_left _ hC'', hkey⟩
  · rcases List.mem_append.mp hs' with hs' | hs'
    · exact List.mem_cons_of_mem _ (h.seen s' hs' C' hC')
    · rw [List.mem_singleton] at hs'
      subst hs'
      rw [hw, Option.some.injEq] at hC'
      subst hC'
      exact List.mem_cons_self
  · rcases List.mem_append.mp ht with ht | ht
    · exact (htag t ht).mono hs
    · rw [List.mem_singleton] at ht
      subst ht
      exact h.firstFound_new hw hnew
  · -- the new start comes after every tagged one
    rw [List.map_append, List.pairwise_append]
    refine ⟨hsort, by simp, fun a ha b hb => ?_⟩
    simp only [List.map_cons, List.map_nil, List.mem_singleton] at hb
    subst hb
    obtain ⟨t, ht, rfl⟩ := List.mem_map.mp ha
    exact hs t.1 (htag t ht).1

/-- **One more start**: the search skips it or keeps the cycle its walk finds. -/
theorem Search.step {done : List String} {acc : List (List String) × List (List String × String)}
    (h : Search jumps done acc) {s : String} (hs : ∀ d ∈ done, d < s) :
    Search jumps (done ++ [s]) (collectCycle jumps acc s) := by
  unfold collectCycle
  cases hw : walk jumps (jumps.size + 1) [s] s with
  | none => exact h.skip hs fun C hC => by rw [hw] at hC; cases hC
  | some C =>
    obtain ⟨cycle, back⟩ := C
    simp only
    split
    · -- a cycle with the same sorted keys was kept before
      rename_i hmem
      refine h.skip hs fun C' hC' => ?_
      rw [hw, Option.some.injEq] at hC'
      subst hC'
      exact List.contains_iff_mem.mp hmem
    · rename_i hnew
      exact h.keep hs hw fun hm => hnew (List.contains_iff_mem.mpr hm)

/-- The search over starts in increasing order. -/
theorem Search.foldl {done rest : List String}
    {acc : List (List String) × List (List String × String)} (h : Search jumps done acc)
    (hsort : (done ++ rest).Pairwise (· < ·)) :
    Search jumps (done ++ rest) (rest.foldl (collectCycle jumps) acc) := by
  induction rest generalizing done acc with
  | nil => simpa using h
  | cons s rest ih =>
    -- the next start is greater than every start before it
    have hs : ∀ d ∈ done, d < s := fun d hd =>
      (List.pairwise_append.mp hsort).2.2 d hd s List.mem_cons_self
    rw [List.foldl_cons, show done ++ s :: rest = (done ++ [s]) ++ rest by simp]
    exact ih (h.step hs) (by simpa using hsort)

end Search

/-! ### What the search reports -/

/-- **What the cycle reports `cs` say of the partial map `f`**: each is a cycle, every cycle is
reported once, read from the first of its keys reached from the least key that reaches it, and
the reports come in the order of those least keys. -/
structure CycleReport (f : String → Option String) (cs : List (List String)) : Prop where
  /-- Each report is a cycle of `f`, in edge order. -/
  cycle : ∀ c ∈ cs, IsCycle f c
  /-- Every cycle of `f` is reported, read from some key of its own. -/
  covers : ∀ c, IsCycle f c → ∃ c' ∈ cs, List.IsRotated c' c
  /-- No two reports share a key, so no cycle is reported twice. -/
  once : cs.Pairwise List.Disjoint
  /-- Each report begins with its first key reached from the least key that reaches it. -/
  first : ∀ c ∈ cs, ∃ s, LeastStart f c s ∧ StartsFrom f c s
  /-- The reports come in the order of their least keys. -/
  order : cs.Pairwise fun c c' => ∀ s s', LeastStart f c s → LeastStart f c' s' → s < s'

section Report

variable {jumps : KeyMap String} {starts : List String}
  {acc : List (List String) × List (List String × String)}

/-- A cycle first found by the search starts from the least key that reaches it, when every key
with a jump is a start. -/
theorem FirstFound.leastStart (hstarts : ∀ k, (jumps.find? k).isSome → k ∈ starts)
    {C : List String × String} {s : String} (hC : FirstFound jumps starts C s) :
    LeastStart jumps.find? C.1 s ∧ StartsFrom jumps.find? C.1 s := by
  obtain ⟨-, hw, hfirst⟩ := hC
  obtain ⟨hcyc, -, hfrom⟩ := walk_start_cycle hw
  refine ⟨⟨hfrom.reaches hcyc.ne_nil, fun k hk => not_lt.mp fun hlt => ?_⟩, hfrom⟩
  -- a smaller key that reaches the cycle is a start, and its walk finds the same keys
  obtain ⟨C', hw', hperm⟩ := walk_start_of_reaches hcyc hk
  exact hfirst k (hstarts k (hcyc.isSome_of_reaches hk)) hlt C' hw' hperm

theorem Search.firstFound (h : Search jumps starts acc) {C : List String × String}
    (hC : C ∈ acc.2) : ∃ s, FirstFound jumps starts C s := by
  obtain ⟨ts, hts, htag, -⟩ := h.tagged
  rw [hts] at hC
  obtain ⟨t, ht, rfl⟩ := List.mem_map.mp hC
  exact ⟨t.1, htag t ht⟩

/-- Every kept cycle is a cycle, closed by its first key. -/
theorem Search.isCycle (h : Search jumps starts acc) {C : List String × String}
    (hC : C ∈ acc.2) : IsCycle jumps.find? C.1 ∧ C.1.head? = some C.2 := by
  obtain ⟨s, -, hw, -⟩ := h.firstFound hC
  obtain ⟨hcyc, hhead, -⟩ := walk_start_cycle hw
  exact ⟨hcyc, hhead⟩

/-- Every cycle is kept, read from some key of its own, when every key with a jump is a start. -/
theorem Search.covers (h : Search jumps starts acc)
    (hstarts : ∀ k, (jumps.find? k).isSome → k ∈ starts) {c : List String}
    (hc : IsCycle jumps.find? c) : ∃ C ∈ acc.2, List.IsRotated C.1 c := by
  obtain ⟨m, hm⟩ := List.exists_mem_of_ne_nil _ hc.ne_nil
  have hreach : Reaches jumps.find? m c := ⟨0, m, rfl, hm⟩
  obtain ⟨C, hw, hperm⟩ := walk_start_of_reaches hc hreach
  -- the keys the walk from `m` found are those of a kept cycle
  obtain ⟨C', hC', hkey⟩ :=
    h.remembered _ (h.seen m (hstarts m (hc.isSome_of_reaches hreach)) C hw)
  have hperm' : C'.1.Perm c := (mergeSort_eq_iff_perm.mp hkey).trans hperm
  exact ⟨C', hC', (h.isCycle hC').1.isRotated hc (hperm'.mem_iff.mpr hm) hm⟩

/-- A relation that holds between cycles found first from starts in increasing order holds
between the kept cycles, in the order they are kept. -/
theorem Search.pairwise (h : Search jumps starts acc) {R : List String → List String → Prop}
    (hR : ∀ C C' s s', FirstFound jumps starts C s → FirstFound jumps starts C' s' → s < s' →
      R C.1 C'.1) :
    (acc.2.map (·.1)).Pairwise R := by
  obtain ⟨ts, hts, htag, hsort⟩ := h.tagged
  rw [hts]
  refine List.pairwise_map.mpr (List.pairwise_map.mpr
    ((List.pairwise_map.mp hsort).imp_of_mem fun {t t'} ht ht' hlt => ?_))
  exact hR t.2 t'.2 t.1 t'.1 (htag t ht) (htag t' ht') hlt

/-- Kept cycles share no key: a later start would have found the keys of an earlier one. -/
theorem Search.once (h : Search jumps starts acc) : (acc.2.map (·.1)).Pairwise List.Disjoint := by
  refine h.pairwise fun C C' s _ hC hC' hlt m hm hm' => ?_
  obtain ⟨hs, hw, -⟩ := hC
  obtain ⟨-, hw', hfirst⟩ := hC'
  exact hfirst s hs hlt C hw ((walk_start_cycle hw).1.perm_of_mem (walk_start_cycle hw').1 hm hm')

/-- Kept cycles come in the order of their least keys. -/
theorem Search.order (h : Search jumps starts acc)
    (hstarts : ∀ k, (jumps.find? k).isSome → k ∈ starts) :
    (acc.2.map (·.1)).Pairwise fun c c' =>
      ∀ s s', LeastStart jumps.find? c s → LeastStart jumps.find? c' s' → s < s' := by
  refine h.pairwise fun C C' s s' hC hC' hlt t t' ht ht' => ?_
  -- the least key of a kept cycle is the start that first found it
  rw [ht.unique (hC.leastStart hstarts).1, ht'.unique (hC'.leastStart hstarts).1]
  exact hlt

/-- **What the search reports**, once it has passed every key with a jump. -/
theorem Search.cycleReport (h : Search jumps starts acc)
    (hstarts : ∀ k, (jumps.find? k).isSome → k ∈ starts) :
    CycleReport jumps.find? (acc.2.map (·.1)) where
  cycle c hc := by
    obtain ⟨C, hC, rfl⟩ := List.mem_map.mp hc
    exact (h.isCycle hC).1
  covers c hc := by
    obtain ⟨C, hC, hrot⟩ := h.covers hstarts hc
    exact ⟨C.1, List.mem_map_of_mem hC, hrot⟩
  once := h.once
  first c hc := by
    obtain ⟨C, hC, rfl⟩ := List.mem_map.mp hc
    obtain ⟨s, hs⟩ := h.firstFound hC
    exact ⟨s, hs.leastStart hstarts⟩
  order := h.order hstarts

end Report

/-! ### The entry jumps of a registry -/

/-- There are as many keys with an entry jump as the check walks from. -/
theorem size_entryJumps (r : Registry) :
    (entryJumps r).size = (r.keys.filter fun k => (r.entryJump? k).isSome).length := by
  have hnd : ((entryJumps r).entries.map (·.1)).Nodup :=
    (List.pairwise_map.mpr (entryJumps r).sorted).nodup
  have hperm : ((entryJumps r).entries.map (·.1)).Perm
      (r.keys.filter fun k => (r.entryJump? k).isSome) := by
    refine (List.perm_ext_iff_of_nodup hnd (Registry.keys_nodup.filter _)).mpr fun k => ?_
    rw [KeyMap.mem_keys_iff_isSome, entryJumps_find? r, List.mem_filter]
    constructor
    · intro hk
      obtain ⟨k', hk'⟩ := Option.isSome_iff_exists.mp hk
      exact ⟨(Registry.entryJump?_mem_keys hk').1, hk⟩
    · exact fun hk => hk.2
  rw [← hperm.length_eq, List.length_map]
  rfl

/-- **What the check says of the entry-jump cycles of `r`**: its cycle diagnostics are one per
report of a list of cycle reports, each message listing the cycle and closing it with its first
key; and every walk of the search stops by its own test within one more pass than there are keys
with an entry jump. -/
structure ReportsCycles (r : Registry) : Prop where
  reports : ∃ cs : List (List String),
    cycles r = cs.map (fun c => cycleDiagnostic c (c.headD "")) ∧ CycleReport r.entryJump? cs
  exits : ∀ s,
    walkExits (entryJumps r) ((r.keys.filter fun k => (r.entryJump? k).isSome).length + 1) [s] s

/-- **The check reports every entry-jump cycle once, and nothing else.** For every registry, the
cycle diagnostics of the check are one per cycle of the entry jumps, each message
listing the cycle in edge order and closing it with its first key; every cycle is reported, read
from some key of its own; no key is in two reports; each report begins with its first key reached
from the least key that reaches it, and the reports come in the order of those least keys. Every
walk of the search stops by its own test within one more pass than there are keys with an entry
jump. -/
theorem cycles_reported_once (r : Registry) : ReportsCycles r := by
  have hf : (entryJumps r).find? = r.entryJump? := funext (entryJumps_find? r)
  have hsorted : ((entryJumps r).entries.map (·.1)).Pairwise (· < ·) :=
    List.pairwise_map.mpr (entryJumps r).sorted
  have hsearch := @Search.foldl (entryJumps r) []
    ((entryJumps r).entries.map fun p : String × String => p.1) ([], []) search_nil hsorted
  rw [List.nil_append] at hsearch
  have hstarts : ∀ k, ((entryJumps r).find? k).isSome → k ∈ (entryJumps r).entries.map (·.1) :=
    fun _ hk => KeyMap.mem_keys_iff_isSome.mpr hk
  refine ⟨⟨(foundCycles r).map (·.1), ?_, by rw [← hf]; exact hsearch.cycleReport hstarts⟩,
    fun s => ?_⟩
  · -- each kept cycle is closed by the key that came back, its first key
    rw [cycles, List.map_map]
    refine List.map_congr_left fun C hC => ?_
    have hhead : C.1.headD "" = C.2 := by
      rw [List.headD_eq_head?_getD, (hsearch.isCycle hC).2]
      rfl
    obtain ⟨cycle, back⟩ := C
    show cycleDiagnostic cycle back = cycleDiagnostic cycle (cycle.headD "")
    rw [hhead]
  · rw [← size_entryJumps r]
    exact walkExits_of_walkPath (walkPath_start s) (List.nodup_singleton s) _
      (by rw [List.length_singleton]; omega)

end Check

end Colloquy
