import Colloquy.Registry
import Colloquy.Diagnostic
/-!
# Checking a document without playing it

`Document.check` reports what would go wrong in play, without playing:

* a jump to an unknown conversation (`CHECK_JUMP_TARGET_NOT_FOUND`), and a choice leading to
  one (`CHECK_CHOICE_TARGET_NOT_FOUND`), conversation by conversation in key order, node by
  node;
* then every cycle of *entry jumps* (`CHECK_JUMP_CYCLE`). A conversation whose first node jumps
  to a known conversation is left before anything is shown. A cycle of such conversations
  would never show a line.

Cycles are found by walking the entry jumps from each conversation in key order until a key
comes back. A cycle is reported once, however many walks reach it: two walks find the same
cycle when they find the same set of keys.
-/

namespace Colloquy

namespace Check

/-- The dangling targets of one node, at a position of a conversation. -/
def danglingAt (r : Registry) (known : List String) (conv : String) (n : Node) (i : Nat) :
    List Diagnostic :=
  let here := conv ++ "[" ++ toString i ++ "]"
  let jump := match n.jumpTarget? with
    | some t =>
      if r.contains t then []
      else [Diagnostic.notFound "CHECK_JUMP_TARGET_NOT_FOUND" (here ++ " goto") t known]
    | none => []
  jump ++ n.choices.filterMap fun ch =>
    if r.contains ch.target then none
    else some (Diagnostic.notFound "CHECK_CHOICE_TARGET_NOT_FOUND" (here ++ " choice goto")
      ch.target known)

/-- The dangling targets of a registry, in key order and node order. -/
def dangling (r : Registry) : List Diagnostic :=
  let known := r.knownIds
  r.conversations.flatMap fun c =>
    c.nodes.zipIdx.flatMap fun (n, i) => danglingAt r known c.id n i

/-- The entry jumps: from the key of each conversation whose first node jumps to a known
conversation, to the key of that conversation. -/
def entryJumps (r : Registry) : KeyMap String :=
  let add := fun (m : KeyMap String) (c : Conversation) =>
    match ((c.node? 0).bind Node.jumpTarget?).bind r.lookup? with
    | some next => m.insert (Ident.key c.id) (Ident.key next.id)
    | none => m
  r.conversations.foldl add KeyMap.empty

/-- Walks the entry jumps from the end of a path. It finds the part of the path from the first
key that comes back, and the key that came back; or nothing if the walk stops first. -/
def walk (jumps : KeyMap String) : Nat → List String → String → Option (List String × String)
  | 0, _, _ => none
  | fuel + 1, path, current =>
    match jumps.find? current with
    | none => none
    | some next =>
      match path.idxOf? next with
      | some p => some (path.drop p, next)
      | none => walk jumps fuel (path ++ [next]) next

/-- The cycle diagnostic for a cycle and the key that closes it. -/
def cycleDiagnostic (cycle : List String) (back : String) : Diagnostic :=
  ⟨.jumpLimitExceeded, "CHECK_JUMP_CYCLE",
    "goto cycle never shows a line: " ++ " -> ".intercalate cycle ++ " -> " ++ back⟩

/-- The cycle search after one more start: the cycle its walk finds is kept, unless one with the
same keys was. The sorted keys of the kept cycles come first, the kept cycles second. -/
def collectCycle (jumps : KeyMap String) (acc : List (List String) × List (List String × String))
    (start : String) : List (List String) × List (List String × String) :=
  match walk jumps (jumps.size + 1) [start] start with
  | none => acc
  | some (cycle, back) =>
    let members := cycle.mergeSort (fun a b => decide (a ≤ b))
    if acc.1.contains members then acc
    else (members :: acc.1, acc.2 ++ [(cycle, back)])

/-- The entry-jump cycles of a registry, each once: a walk's cycle and the key that closes it. -/
def foundCycles (r : Registry) : List (List String × String) :=
  let jumps := entryJumps r
  ((jumps.entries.map (·.1)).foldl (collectCycle jumps) ([], [])).2

/-- The entry-jump cycles of a registry, each once. -/
def cycles (r : Registry) : List Diagnostic :=
  (foundCycles r).map fun (cycle, back) => cycleDiagnostic cycle back

end Check

/-- **Checks a document**: dangling targets, then entry-jump cycles. -/
def Document.check (d : Document) : List Diagnostic :=
  let r := Registry.ofDocument d
  Check.dangling r ++ Check.cycles r

end Colloquy
