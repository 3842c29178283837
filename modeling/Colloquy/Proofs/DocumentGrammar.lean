import Mathlib.Data.List.Forall2
import Colloquy.Document.Reader
/-!
# The grammar of documents

`Document.ofJson` checks a JSON value and turns it into a document. This module gives the
grammar it implements as relations that say what a value means, with no order of evaluation:

* `Grammar.DocumentOf v d`: `v` is a document, and `d` mirrors it: every conversation, node,
  choice and assignment in the order written, ids and targets trimmed, an absent or `null`
  speaker or text read as empty.
* `Grammar.FirstFault v f`: `v` is not a document, and `f` is its first fault in the reader's
  order: the root, the variables, the conversations section, then each conversation in order,
  each node in order, and within a node `speaker`, `text`, `choices`, `set` and `goto`.

A fault of a list is the fault of its first bad item, all the items before it being good
(`FirstBad`). The theorem `Document.ofJson_follows_grammar` says the reader succeeds exactly on
the grammar, with the document it describes, and fails exactly with the first fault.

Each reader is proved in two halves. Whatever it returns agrees with its grammar (`Agrees`,
composed step by step through the reader's `do` block by `Agrees.bind`), and every result the
grammar allows is the one it returns. Every list of the document is read by one pattern, an
item at its position and then the rest (`ReadsItems`), whose laws turn the two halves for one
item into the two halves for the list: once for scalars, choices, nodes and conversations.
-/

namespace Colloquy

open Json (Value)

/-! ### Readers against a grammar -/

/-- What a reader's result says against a grammar: a value it returns satisfies `Ok` and a
fault it reports satisfies `Fault`. -/
@[simp]
def Agrees {ε β : Type} (Ok : β → Prop) (Fault : ε → Prop) : Except ε β → Prop
  | .ok b => Ok b
  | .error f => Fault f

namespace Agrees

variable {ε α β : Type} {Ok : β → Prop} {Fault : ε → Prop} {x : Except ε β}

/-- A reader that agrees with a grammar, and returns each value the grammar allows, succeeds
exactly with the values `Ok` allows. -/
theorem eq_ok_iff (hx : Agrees Ok Fault x) {b : β} (hc : Ok b → x = .ok b) :
    x = .ok b ↔ Ok b :=
  ⟨fun h => by rw [h] at hx; exact hx, hc⟩

/-- Such a reader, reporting each fault the grammar allows, fails exactly with them. -/
theorem eq_error_iff (hx : Agrees Ok Fault x) {f : ε} (hc : Fault f → x = .error f) :
    x = .error f ↔ Fault f :=
  ⟨fun h => by rw [h] at hx; exact hx, hc⟩

/-- A result that agrees with one grammar agrees with a weaker one. -/
theorem imp {Ok' : β → Prop} {Fault' : ε → Prop} (hx : Agrees Ok Fault x)
    (hok : ∀ b, Ok b → Ok' b) (hfault : ∀ f, Fault f → Fault' f) : Agrees Ok' Fault' x := by
  cases x with
  | ok b => exact hok b hx
  | error f => exact hfault f hx

/-- **Reading in two steps**: a fault of the first step is a fault of the whole, and after each
value the first step allows, the rest agrees. -/
theorem bind {Ok₁ : α → Prop} {Fault₁ : ε → Prop} {y : Except ε α} {k : α → Except ε β}
    (hy : Agrees Ok₁ Fault₁ y) (hfault : ∀ f, Fault₁ f → Fault f)
    (hk : ∀ a, Ok₁ a → Agrees Ok Fault (k a)) : Agrees Ok Fault (y >>= k) := by
  cases y with
  | ok a => exact hk a hy
  | error f => exact hfault f hy

end Agrees

/-! ### Lists read item by item -/

/-- `F` reads a list item by item: the item at position `i` by `g i`, then the rest from
position `i + 1`. -/
structure ReadsItems {α β ε : Type} (g : Nat → α → Except ε β)
    (F : Nat → List α → Except ε (List β)) : Prop where
  nil : ∀ i, F i [] = .ok []
  cons : ∀ i x xs, F i (x :: xs) =
    (g i x).bind fun y => (F (i + 1) xs).bind fun ys => .ok (y :: ys)

/-- The first bad item of a list, every item before it good; `Bad` is told its position,
counted from `i`. -/
inductive FirstBad {α ε : Type} (Good : α → Prop) (Bad : Nat → α → ε → Prop) :
    Nat → List α → ε → Prop
  | here {i : Nat} {x : α} {xs : List α} {f : ε} : Bad i x f → FirstBad Good Bad i (x :: xs) f
  | next {i : Nat} {x : α} {xs : List α} {f : ε} : Good x → FirstBad Good Bad (i + 1) xs f →
      FirstBad Good Bad i (x :: xs) f

/-- First bad items of the same list agree for equivalent kinds of good and bad items. -/
theorem FirstBad.congr {α ε : Type} {Good Good' : α → Prop} {Bad Bad' : Nat → α → ε → Prop}
    (hgood : ∀ a, Good a ↔ Good' a) (hbad : ∀ i a f, Bad i a f ↔ Bad' i a f) {i : Nat}
    {l : List α} {f : ε} : FirstBad Good Bad i l f ↔ FirstBad Good' Bad' i l f := by
  constructor
  · intro h
    induction h with
    | here hb => exact .here ((hbad _ _ _).mp hb)
    | next hg _ ih => exact .next ((hgood _).mp hg) ih
  · intro h
    induction h with
    | here hb => exact .here ((hbad _ _ _).mpr hb)
    | next hg _ ih => exact .next ((hgood _).mpr hg) ih

namespace ReadsItems

variable {α β ε : Type} {g : Nat → α → Except ε β} {F : Nat → List α → Except ε (List β)}
  {R : α → β → Prop} {Bad : Nat → α → ε → Prop}

/-- **A list reads as its items**: when every item read agrees with `R` or `Bad`, the list read
agrees with `R` item by item, or fails at its first bad item. -/
theorem agrees (h : ReadsItems g F) (hg : ∀ i x, Agrees (R x) (Bad i x) (g i x)) (i : Nat)
    (l : List α) :
    Agrees (List.Forall₂ R l) (FirstBad (fun a => ∃ b, R a b) Bad i l) (F i l) := by
  induction l generalizing i with
  | nil =>
    rw [h.nil]
    exact List.Forall₂.nil
  | cons x xs ih =>
    rw [h.cons]
    have hx := hg i x
    cases hgx : g i x with
    | error f =>
      rw [hgx] at hx
      exact FirstBad.here hx
    | ok y =>
      -- a good first item: the list ends as the rest does
      rw [hgx] at hx
      have hxs := ih (i + 1)
      cases hF : F (i + 1) xs with
      | error f =>
        rw [hF] at hxs
        exact FirstBad.next ⟨y, hx⟩ hxs
      | ok ys =>
        rw [hF] at hxs
        exact List.Forall₂.cons hx hxs

/-- **A list of good items is read**, once each good item is. -/
theorem eq_ok (h : ReadsItems g F) (hok : ∀ i x y, R x y → g i x = .ok y) (i : Nat) {l : List α}
    {ys : List β} (hys : List.Forall₂ R l ys) : F i l = .ok ys := by
  induction hys generalizing i with
  | nil => exact h.nil i
  | cons hxy _ ih =>
    rw [h.cons, hok _ _ _ hxy, ih (i + 1)]
    rfl

/-- **A list fails at its first bad item**, once each good item is read and each bad one
fails. -/
theorem eq_error (h : ReadsItems g F) (hok : ∀ i x y, R x y → g i x = .ok y)
    (hbad : ∀ i x f, Bad i x f → g i x = .error f) {i : Nat} {l : List α} {f : ε}
    (hf : FirstBad (fun a => ∃ b, R a b) Bad i l f) : F i l = .error f := by
  induction hf with
  | here hb =>
    rw [h.cons, hbad _ _ _ hb]
    rfl
  | next hgood _ ih =>
    obtain ⟨y, hy⟩ := hgood
    rw [h.cons, hok _ _ _ hy, ih]
    rfl

end ReadsItems

/-! ### The grammar -/

namespace Grammar

/-- A value that is neither `null` nor a string. -/
def NonString (u : Value) : Prop :=
  u ≠ .null ∧ ∀ s, u ≠ .string s

/-- **A scalar** as a document reads it: a boolean, a string, or a number, which is whole when
it was read as a whole number in the 64-bit signed range and a binary64 value otherwise. -/
inductive ScalarOf : Value → Scalar → Prop
  | bool (b : Bool) : ScalarOf (.bool b) (.bool b)
  | int (n : Nat) : n ≤ Nat.pow 2 63 - 1 → ScalarOf (.number (.nat n)) (.int n)
  | large (n : Nat) : Nat.pow 2 63 - 1 < n →
      ScalarOf (.number (.nat n)) (.number (Decimal.nearest false n 1))
  | negative (n : Int) : ScalarOf (.number (.neg n)) (.int n)
  | float (x : Float) : ScalarOf (.number (.float x)) (.number x)
  | string (s : String) : ScalarOf (.string s) (.string s)

/-- An optional string field: absent or `null` is none. -/
inductive StringField : Option Value → Option String → Prop
  | absent : StringField none none
  | null : StringField (some .null) none
  | present (s : String) : StringField (some (.string s)) (some s)

/-- An object of scalars, entry by entry in order; absent or `null` is empty. -/
inductive ScalarsField : Option Value → List (String × Scalar) → Prop
  | absent : ScalarsField none []
  | null : ScalarsField (some .null) []
  | object {entries : List (String × Value)} {bs : List (String × Scalar)} :
      List.Forall₂ (fun e b => b.1 = e.1 ∧ ScalarOf e.2 b.2) entries bs →
      ScalarsField (some (.object entries)) bs

/-- **A choice**: an object with a string `text` and a string `goto`, the target trimmed. -/
inductive ChoiceOf : Value → Choice → Prop
  | mk {fields : List (String × Value)} {text target : String} :
      StringField (Value.lookup fields "text") (some text) →
      StringField (Value.lookup fields "goto") (some target) →
      ChoiceOf (.object fields) ⟨text, Text.trim target⟩

/-- The choices of a node, in order; absent or `null` is none. -/
inductive ChoicesField : Option Value → List Choice → Prop
  | absent : ChoicesField none []
  | null : ChoicesField (some .null) []
  | list {items : List Value} {cs : List Choice} : List.Forall₂ ChoiceOf items cs →
      ChoicesField (some (.array items)) cs

/-- **A node**: an object whose `speaker`, `text` and `goto` are optional strings, `choices` a
list of choices and `set` an object of scalars. An absent speaker or text is empty and the
jump target is trimmed. -/
inductive NodeOf : Value → Node → Prop
  | mk {fields : List (String × Value)} {speaker text goto : Option String} {cs : List Choice}
      {assignments : List (String × Scalar)} :
      StringField (Value.lookup fields "speaker") speaker →
      StringField (Value.lookup fields "text") text →
      ChoicesField (Value.lookup fields "choices") cs →
      ScalarsField (Value.lookup fields "set") assignments →
      StringField (Value.lookup fields "goto") goto →
      NodeOf (.object fields)
        { speaker := speaker.getD "", text := text.getD "", choices := cs,
          assignments := assignments, goto := goto.map Text.trim }

/-- **A conversation**: an entry whose value is a list of nodes; its id is trimmed. -/
inductive ConversationOf : String × Value → Conversation → Prop
  | mk {rawId : String} {items : List Value} {nodes : List Node} :
      List.Forall₂ NodeOf items nodes → ConversationOf (rawId, .array items) ⟨Text.trim rawId, nodes⟩

/-- The conversations section: an object of conversations, in order. -/
inductive ConversationsField : Option Value → List Conversation → Prop
  | object {entries : List (String × Value)} {cs : List Conversation} :
      List.Forall₂ ConversationOf entries cs → ConversationsField (some (.object entries)) cs

/-- **A document**: an object whose `variables` is an object of scalars and whose
`conversations` is an object of conversations. -/
inductive DocumentOf : Value → Document → Prop
  | mk {root : List (String × Value)} {bindings : List (String × Scalar)} {cs : List Conversation} :
      ScalarsField (Value.lookup root "variables") bindings →
      ConversationsField (Value.lookup root "conversations") cs →
      DocumentOf (.object root) { bindings := bindings, conversations := cs }

/-! ### The first fault -/

/-- A field that should be a string when present and is another kind of value. -/
inductive StringFieldFault (path key : String) : Option Value → DocumentFault → Prop
  | mk {u : Value} : NonString u → StringFieldFault path key (some u) (.notString path key u.kind)

/-- The first fault of an object of scalars at `path`: a value of another kind, named by
`notObject`, or the first entry that is no scalar. -/
inductive ScalarsFieldFault (notObject : String → DocumentFault) (path : String) :
    Option Value → DocumentFault → Prop
  | notObject {u : Value} : u ≠ .null → (∀ entries, u ≠ .object entries) →
      ScalarsFieldFault notObject path (some u) (notObject u.kind)
  | entry {entries : List (String × Value)} {f : DocumentFault} :
      FirstBad (fun e => ∃ s, ScalarOf e.2 s)
        (fun _ e f => (∀ s, ¬ ScalarOf e.2 s) ∧ f = .valueUnsupported path e.1 e.2.kind) 0
        entries f →
      ScalarsFieldFault notObject path (some (.object entries)) f

/-- The first fault of a choice at `path`, in order: not an object, then its `text`, then its
`goto`. -/
inductive ChoiceFault (path : String) : Value → DocumentFault → Prop
  | notObject {v : Value} : (∀ fields, v ≠ .object fields) →
      ChoiceFault path v (.notObject path v.kind)
  | text {fields : List (String × Value)} {f : DocumentFault} :
      StringFieldFault path "text" (Value.lookup fields "text") f →
      ChoiceFault path (.object fields) f
  | textMissing {fields : List (String × Value)} :
      StringField (Value.lookup fields "text") none →
      ChoiceFault path (.object fields) (.choiceTextMissing path)
  | target {fields : List (String × Value)} {text : String} {f : DocumentFault} :
      StringField (Value.lookup fields "text") (some text) →
      StringFieldFault path "goto" (Value.lookup fields "goto") f →
      ChoiceFault path (.object fields) f
  | targetMissing {fields : List (String × Value)} {text : String} :
      StringField (Value.lookup fields "text") (some text) →
      StringField (Value.lookup fields "goto") none →
      ChoiceFault path (.object fields) (.choiceTargetMissing path text)

/-- The first fault of the choices of a node at `path`: not a list, or the first bad choice. -/
inductive ChoicesFieldFault (path : String) : Option Value → DocumentFault → Prop
  | notList {u : Value} : u ≠ .null → (∀ items, u ≠ .array items) →
      ChoicesFieldFault path (some u) (.choicesNotList path u.kind)
  | choice {items : List Value} {f : DocumentFault} :
      FirstBad (fun v => ∃ c, ChoiceOf v c)
        (fun k v f => ChoiceFault (path ++ ".choices[" ++ toString k ++ "]") v f) 0 items f →
      ChoicesFieldFault path (some (.array items)) f

/-- The first fault of a node at `path`, in order: not an object, then `speaker`, `text`,
`choices`, `set` and `goto`, each after the ones before are good. -/
inductive NodeFault (path : String) : Value → DocumentFault → Prop
  | notObject {v : Value} : (∀ fields, v ≠ .object fields) →
      NodeFault path v (.notObject path v.kind)
  | speaker {fields : List (String × Value)} {f : DocumentFault} :
      StringFieldFault path "speaker" (Value.lookup fields "speaker") f →
      NodeFault path (.object fields) f
  | text {fields : List (String × Value)} {speaker : Option String} {f : DocumentFault} :
      StringField (Value.lookup fields "speaker") speaker →
      StringFieldFault path "text" (Value.lookup fields "text") f →
      NodeFault path (.object fields) f
  | choices {fields : List (String × Value)} {speaker text : Option String} {f : DocumentFault} :
      StringField (Value.lookup fields "speaker") speaker →
      StringField (Value.lookup fields "text") text →
      ChoicesFieldFault path (Value.lookup fields "choices") f →
      NodeFault path (.object fields) f
  | set {fields : List (String × Value)} {speaker text : Option String} {cs : List Choice}
      {f : DocumentFault} :
      StringField (Value.lookup fields "speaker") speaker →
      StringField (Value.lookup fields "text") text →
      ChoicesField (Value.lookup fields "choices") cs →
      ScalarsFieldFault (.setNotObject path) (path ++ ".set") (Value.lookup fields "set") f →
      NodeFault path (.object fields) f
  | goto {fields : List (String × Value)} {speaker text : Option String} {cs : List Choice}
      {assignments : List (String × Scalar)} {f : DocumentFault} :
      StringField (Value.lookup fields "speaker") speaker →
      StringField (Value.lookup fields "text") text →
      ChoicesField (Value.lookup fields "choices") cs →
      ScalarsField (Value.lookup fields "set") assignments →
      StringFieldFault path "goto" (Value.lookup fields "goto") f →
      NodeFault path (.object fields) f

/-- The first fault of a conversation: not a list, or its first bad node. -/
inductive ConversationFault : String × Value → DocumentFault → Prop
  | notList {rawId : String} {v : Value} : (∀ items, v ≠ .array items) →
      ConversationFault (rawId, v) (.conversationNotList (Text.trim rawId) v.kind)
  | node {rawId : String} {items : List Value} {f : DocumentFault} :
      FirstBad (fun v => ∃ n, NodeOf v n)
        (fun k v f => NodeFault ("conversations." ++ Text.trim rawId ++ "[" ++ toString k ++ "]")
          v f) 0 items f →
      ConversationFault (rawId, .array items) f

/-- The first fault of the conversations section: absent or `null`, not an object, or its first
bad conversation. -/
inductive ConversationsFieldFault : Option Value → DocumentFault → Prop
  | absent : ConversationsFieldFault none .conversationsMissing
  | null : ConversationsFieldFault (some .null) .conversationsMissing
  | notObject {u : Value} : u ≠ .null → (∀ entries, u ≠ .object entries) →
      ConversationsFieldFault (some u) (.conversationsNotObject u.kind)
  | conversation {entries : List (String × Value)} {f : DocumentFault} :
      FirstBad (fun e => ∃ c, ConversationOf e c) (fun _ e f => ConversationFault e f) 0 entries f →
      ConversationsFieldFault (some (.object entries)) f

/-- **The first fault of a document**, in order: the root, the variables, then the
conversations. -/
inductive FirstFault : Value → DocumentFault → Prop
  | root {v : Value} : (∀ root, v ≠ .object root) → FirstFault v .rootNotObject
  | bindings {root : List (String × Value)} {f : DocumentFault} :
      ScalarsFieldFault .variablesNotObject "variables" (Value.lookup root "variables") f →
      FirstFault (.object root) f
  | conversations {root : List (String × Value)} {bindings : List (String × Scalar)}
      {f : DocumentFault} :
      ScalarsField (Value.lookup root "variables") bindings →
      ConversationsFieldFault (Value.lookup root "conversations") f →
      FirstFault (.object root) f

end Grammar

/-! ### The reader agrees with the grammar

For each reader: it agrees with its grammar (`agrees_*`), and every result the grammar allows is
the one it returns (`*_eq_ok`, `*_eq_error`). -/

namespace Document

open Grammar

/-- A value reads as a scalar exactly as `ScalarOf` says. -/
theorem scalarOf?_eq_some_iff {v : Value} {s : Scalar} : scalarOf? v = some s ↔ ScalarOf v s := by
  constructor
  · intro h
    cases v with
    | bool b =>
      cases h
      exact .bool b
    | number n =>
      cases n with
      | nat n =>
        by_cases hn : n ≤ Nat.pow 2 63 - 1
        · simp only [scalarOf?, hn, if_true, Option.some.injEq] at h
          subst h
          exact .int n hn
        · simp only [scalarOf?, hn, if_false, Option.some.injEq] at h
          subst h
          exact .large n (Nat.lt_of_not_le hn)
      | neg n =>
        cases h
        exact .negative n
      | float x =>
        cases h
        exact .float x
    | string s' =>
      cases h
      exact .string s'
    | null => cases h
    | array _ => cases h
    | object _ => cases h
  · intro h
    cases h with
    | bool b => rfl
    | int n hn => simp [scalarOf?, hn]
    | large n hn => simp [scalarOf?, Nat.not_le.mpr hn]
    | negative n => rfl
    | float x => rfl
    | string s => rfl

theorem scalarOf?_eq_none_iff {v : Value} : scalarOf? v = none ↔ ∀ s, ¬ ScalarOf v s := by
  simp only [Option.eq_none_iff_forall_ne_some, ne_eq, scalarOf?_eq_some_iff]

/-! #### Fields -/

theorem agrees_optionalString (fields : List (String × Value)) (key path : String) :
    Agrees (StringField (Value.lookup fields key))
      (StringFieldFault path key (Value.lookup fields key)) (optionalString fields key path) := by
  unfold optionalString
  generalize Value.lookup fields key = o
  rcases o with _ | u
  · exact StringField.absent
  · cases u with
    | null => exact StringField.null
    | string s => exact StringField.present s
    | _ => exact StringFieldFault.mk ⟨by simp, by simp⟩

section Fields

variable {fields : List (String × Value)} {key path : String}

theorem optionalString_eq_ok {r : Option String} (h : StringField (Value.lookup fields key) r) :
    optionalString fields key path = .ok r := by
  unfold optionalString
  generalize Value.lookup fields key = o at h ⊢
  cases h <;> rfl

theorem optionalString_eq_error {f : DocumentFault}
    (h : StringFieldFault path key (Value.lookup fields key) f) :
    optionalString fields key path = .error f := by
  unfold optionalString
  generalize Value.lookup fields key = o at h ⊢
  obtain ⟨⟨hnull, hstring⟩⟩ := h
  rename_i u
  cases u with
  | null => exact absurd rfl hnull
  | string s => exact absurd rfl (hstring s)
  | _ => rfl

end Fields

/-! #### Objects of scalars -/

theorem agrees_scalarEntry (path : String) (e : String × Value) :
    Agrees (fun b => b.1 = e.1 ∧ ScalarOf e.2 b.2)
      (fun f => (∀ s, ¬ ScalarOf e.2 s) ∧ f = .valueUnsupported path e.1 e.2.kind)
      (scalarEntry path e) := by
  obtain ⟨name, v⟩ := e
  rw [scalarEntry]
  cases h : scalarOf? v with
  | some s => exact ⟨rfl, scalarOf?_eq_some_iff.mp h⟩
  | none => exact ⟨scalarOf?_eq_none_iff.mp h, rfl⟩

theorem scalarEntry_eq_ok {path : String} {e : String × Value} {b : String × Scalar}
    (h : b.1 = e.1 ∧ ScalarOf e.2 b.2) : scalarEntry path e = .ok b := by
  obtain ⟨name, v⟩ := e
  obtain ⟨rfl, hb⟩ := h
  rw [scalarEntry, scalarOf?_eq_some_iff.mpr hb]
  rfl

theorem scalarEntry_eq_error {path : String} {e : String × Value} {f : DocumentFault}
    (h : (∀ s, ¬ ScalarOf e.2 s) ∧ f = .valueUnsupported path e.1 e.2.kind) :
    scalarEntry path e = .error f := by
  obtain ⟨name, v⟩ := e
  obtain ⟨hnone, rfl⟩ := h
  rw [scalarEntry, scalarOf?_eq_none_iff.mpr hnone]
  rfl

theorem readsItems_scalars (path : String) :
    ReadsItems (fun _ => scalarEntry path) (fun _ => scalars path) :=
  ⟨fun _ => rfl, fun _ _ _ => rfl⟩

/-- An entry is good when it reads as some scalar, whatever name it is paired with. -/
theorem scalarEntry_good_iff (e : String × Value) :
    (∃ b : String × Scalar, b.1 = e.1 ∧ ScalarOf e.2 b.2) ↔ ∃ s, ScalarOf e.2 s :=
  ⟨fun ⟨b, _, hb⟩ => ⟨b.2, hb⟩, fun ⟨s, hs⟩ => ⟨(e.1, s), rfl, hs⟩⟩

theorem agrees_scalarsField (notObject : String → DocumentFault) (path : String)
    (o : Option Value) :
    Agrees (ScalarsField o) (ScalarsFieldFault notObject path o)
      (scalarsField notObject path o) := by
  rcases o with _ | u
  · exact ScalarsField.absent
  · cases u with
    | null => exact ScalarsField.null
    | object entries =>
      exact ((readsItems_scalars path).agrees (fun _ e => agrees_scalarEntry path e) 0 entries).imp
        (fun _ => ScalarsField.object)
        (fun _ h => ScalarsFieldFault.entry
          ((FirstBad.congr scalarEntry_good_iff (fun _ _ _ => Iff.rfl)).mp h))
    | _ => exact ScalarsFieldFault.notObject (by simp) (by simp)

section ScalarsField

variable {notObject : String → DocumentFault} {path : String} {o : Option Value}

theorem scalarsField_eq_ok {bs : List (String × Scalar)} (h : ScalarsField o bs) :
    scalarsField notObject path o = .ok bs := by
  cases h with
  | absent => rfl
  | null => rfl
  | object hbs => exact (readsItems_scalars path).eq_ok (fun _ _ _ => scalarEntry_eq_ok) 0 hbs

theorem scalarsField_eq_error {f : DocumentFault} (h : ScalarsFieldFault notObject path o f) :
    scalarsField notObject path o = .error f := by
  cases h with
  | notObject hnull hobject =>
    rename_i u
    cases u with
    | null => exact absurd rfl hnull
    | object entries => exact absurd rfl (hobject entries)
    | _ => rfl
  | entry hbad =>
    exact (readsItems_scalars path).eq_error (fun _ _ _ => scalarEntry_eq_ok)
      (fun _ _ _ => scalarEntry_eq_error)
      ((FirstBad.congr scalarEntry_good_iff (fun _ _ _ => Iff.rfl)).mpr hbad)

end ScalarsField

/-! #### Choices -/

theorem agrees_choiceOf (path : String) (v : Value) :
    Agrees (ChoiceOf v) (ChoiceFault path v) (choiceOf path v) := by
  cases v with
  | object fields =>
    rw [choiceOf]
    -- `text` first, then `goto`; a missing one has its own fault
    refine (agrees_optionalString fields "text" path).bind (fun _ => ChoiceFault.text) ?_
    rintro (_ | text) htext
    · exact ChoiceFault.textMissing htext
    refine (agrees_optionalString fields "goto" path).bind (fun _ => ChoiceFault.target htext) ?_
    rintro (_ | target) hgoto
    · exact ChoiceFault.targetMissing htext hgoto
    exact ChoiceOf.mk htext hgoto
  | _ => exact ChoiceFault.notObject (by simp)

section Choice

variable {path : String} {v : Value}

theorem choiceOf_eq_ok {c : Choice} (h : ChoiceOf v c) : choiceOf path v = .ok c := by
  obtain ⟨htext, hgoto⟩ := h
  rw [choiceOf, optionalString_eq_ok htext, optionalString_eq_ok hgoto]
  rfl

theorem choiceOf_eq_error {f : DocumentFault} (h : ChoiceFault path v f) :
    choiceOf path v = .error f := by
  cases h with
  | notObject hv =>
    cases v with
    | object fields => exact absurd rfl (hv fields)
    | _ => rfl
  | text htext =>
    rw [choiceOf, optionalString_eq_error htext]
    rfl
  | textMissing htext =>
    rw [choiceOf, optionalString_eq_ok htext]
    rfl
  | target htext hgoto =>
    rw [choiceOf, optionalString_eq_ok htext, optionalString_eq_error hgoto]
    rfl
  | targetMissing htext hgoto =>
    rw [choiceOf, optionalString_eq_ok htext, optionalString_eq_ok hgoto]
    rfl

end Choice

theorem readsItems_choicesFrom (path : String) :
    ReadsItems (fun i => choiceOf (path ++ ".choices[" ++ toString i ++ "]")) (choicesFrom path) :=
  ⟨fun _ => rfl, fun _ _ _ => rfl⟩

theorem agrees_choicesField (path : String) (o : Option Value) :
    Agrees (ChoicesField o) (ChoicesFieldFault path o) (choicesField path o) := by
  rcases o with _ | u
  · exact ChoicesField.absent
  · cases u with
    | null => exact ChoicesField.null
    | array items =>
      exact ((readsItems_choicesFrom path).agrees (fun _ v => agrees_choiceOf _ v) 0 items).imp
        (fun _ => ChoicesField.list) (fun _ => ChoicesFieldFault.choice)
    | _ => exact ChoicesFieldFault.notList (by simp) (by simp)

section ChoicesField

variable {path : String} {o : Option Value}

theorem choicesField_eq_ok {cs : List Choice} (h : ChoicesField o cs) :
    choicesField path o = .ok cs := by
  cases h with
  | absent => rfl
  | null => rfl
  | list hcs => exact (readsItems_choicesFrom path).eq_ok (fun _ _ _ => choiceOf_eq_ok) 0 hcs

theorem choicesField_eq_error {f : DocumentFault} (h : ChoicesFieldFault path o f) :
    choicesField path o = .error f := by
  cases h with
  | notList hnull hlist =>
    rename_i u
    cases u with
    | null => exact absurd rfl hnull
    | array items => exact absurd rfl (hlist items)
    | _ => rfl
  | choice hbad =>
    exact (readsItems_choicesFrom path).eq_error (fun _ _ _ => choiceOf_eq_ok)
      (fun _ _ _ => choiceOf_eq_error) hbad

end ChoicesField

/-! #### Nodes and conversations -/

theorem agrees_nodeOf (path : String) (v : Value) :
    Agrees (NodeOf v) (NodeFault path v) (nodeOf path v) := by
  cases v with
  | object fields =>
    rw [nodeOf]
    -- the fields in the reader's order, each fault naming the good fields before it
    refine (agrees_optionalString fields "speaker" path).bind (fun _ => NodeFault.speaker) ?_
    intro speaker hspeaker
    refine (agrees_optionalString fields "text" path).bind (fun _ => NodeFault.text hspeaker) ?_
    intro text htext
    refine (agrees_choicesField path _).bind (fun _ => NodeFault.choices hspeaker htext) ?_
    intro cs hcs
    refine (agrees_scalarsField (.setNotObject path) (path ++ ".set") _).bind
      (fun _ => NodeFault.set hspeaker htext hcs) ?_
    intro assignments hset
    refine (agrees_optionalString fields "goto" path).bind
      (fun _ => NodeFault.goto hspeaker htext hcs hset) ?_
    intro goto hgoto
    exact NodeOf.mk hspeaker htext hcs hset hgoto
  | _ => exact NodeFault.notObject (by simp)

section Node

variable {path : String} {v : Value}

theorem nodeOf_eq_ok {n : Node} (h : NodeOf v n) : nodeOf path v = .ok n := by
  obtain ⟨hspeaker, htext, hcs, hset, hgoto⟩ := h
  rw [nodeOf, optionalString_eq_ok hspeaker, optionalString_eq_ok htext, choicesField_eq_ok hcs,
    scalarsField_eq_ok hset, optionalString_eq_ok hgoto]
  rfl

theorem nodeOf_eq_error {f : DocumentFault} (h : NodeFault path v f) :
    nodeOf path v = .error f := by
  cases h with
  | notObject hv =>
    cases v with
    | object fields => exact absurd rfl (hv fields)
    | _ => rfl
  | speaker hspeaker =>
    rw [nodeOf, optionalString_eq_error hspeaker]
    rfl
  | text hspeaker htext =>
    rw [nodeOf, optionalString_eq_ok hspeaker, optionalString_eq_error htext]
    rfl
  | choices hspeaker htext hcs =>
    rw [nodeOf, optionalString_eq_ok hspeaker, optionalString_eq_ok htext,
      choicesField_eq_error hcs]
    rfl
  | set hspeaker htext hcs hset =>
    rw [nodeOf, optionalString_eq_ok hspeaker, optionalString_eq_ok htext, choicesField_eq_ok hcs,
      scalarsField_eq_error hset]
    rfl
  | goto hspeaker htext hcs hset hgoto =>
    rw [nodeOf, optionalString_eq_ok hspeaker, optionalString_eq_ok htext, choicesField_eq_ok hcs,
      scalarsField_eq_ok hset, optionalString_eq_error hgoto]
    rfl

end Node

theorem readsItems_nodesFrom (id : String) :
    ReadsItems (fun i => nodeOf ("conversations." ++ id ++ "[" ++ toString i ++ "]"))
      (nodesFrom id) :=
  ⟨fun _ => rfl, fun _ _ _ => rfl⟩

theorem agrees_conversationOf (e : String × Value) :
    Agrees (ConversationOf e) (ConversationFault e) (conversationOf e.1 e.2) := by
  obtain ⟨rawId, v⟩ := e
  cases v with
  | array items =>
    rw [conversationOf]
    exact ((readsItems_nodesFrom _).agrees (fun _ v => agrees_nodeOf _ v) 0 items).bind
      (fun _ => ConversationFault.node) (fun _ => ConversationOf.mk)
  | _ => exact ConversationFault.notList (by simp)

section Conversation

variable {e : String × Value}

theorem conversationOf_eq_ok {c : Conversation} (h : ConversationOf e c) :
    conversationOf e.1 e.2 = .ok c := by
  obtain ⟨hnodes⟩ := h
  rw [conversationOf, (readsItems_nodesFrom _).eq_ok (fun _ _ _ => nodeOf_eq_ok) 0 hnodes]
  rfl

theorem conversationOf_eq_error {f : DocumentFault} (h : ConversationFault e f) :
    conversationOf e.1 e.2 = .error f := by
  cases h with
  | notList hv =>
    rename_i v
    cases v with
    | array items => exact absurd rfl (hv items)
    | _ => rfl
  | node hbad =>
    rw [conversationOf, (readsItems_nodesFrom _).eq_error (fun _ _ _ => nodeOf_eq_ok)
      (fun _ _ _ => nodeOf_eq_error) hbad]
    rfl

end Conversation

theorem readsItems_conversationsOf :
    ReadsItems (fun _ e => conversationOf e.1 e.2) (fun _ => conversationsOf) :=
  ⟨fun _ => rfl, fun _ _ _ => rfl⟩

theorem agrees_conversationsField (o : Option Value) :
    Agrees (ConversationsField o) (ConversationsFieldFault o) (conversationsField o) := by
  rcases o with _ | u
  · exact ConversationsFieldFault.absent
  · cases u with
    | null => exact ConversationsFieldFault.null
    | object entries =>
      exact (readsItems_conversationsOf.agrees (fun _ e => agrees_conversationOf e) 0 entries).imp
        (fun _ => ConversationsField.object) (fun _ => ConversationsFieldFault.conversation)
    | _ => exact ConversationsFieldFault.notObject (by simp) (by simp)

section ConversationsField

variable {o : Option Value}

theorem conversationsField_eq_ok {cs : List Conversation} (h : ConversationsField o cs) :
    conversationsField o = .ok cs := by
  obtain ⟨hcs⟩ := h
  exact readsItems_conversationsOf.eq_ok (fun _ _ _ => conversationOf_eq_ok) 0 hcs

theorem conversationsField_eq_error {f : DocumentFault} (h : ConversationsFieldFault o f) :
    conversationsField o = .error f := by
  cases h with
  | absent => rfl
  | null => rfl
  | notObject hnull hobject =>
    rename_i u
    cases u with
    | null => exact absurd rfl hnull
    | object entries => exact absurd rfl (hobject entries)
    | _ => rfl
  | conversation hbad =>
    exact readsItems_conversationsOf.eq_error (fun _ _ _ => conversationOf_eq_ok)
      (fun _ _ _ => conversationOf_eq_error) hbad

end ConversationsField

/-! #### Documents -/

theorem agrees_ofJson (v : Value) : Agrees (DocumentOf v) (FirstFault v) (ofJson v) := by
  cases v with
  | object root =>
    rw [ofJson]
    refine (agrees_scalarsField .variablesNotObject "variables" _).bind
      (fun _ => FirstFault.bindings) ?_
    intro bindings hbindings
    exact (agrees_conversationsField _).bind (fun _ => FirstFault.conversations hbindings)
      (fun _ => DocumentOf.mk hbindings)
  | _ => exact FirstFault.root (by simp)

theorem ofJson_eq_ok {v : Value} {d : Document} (h : DocumentOf v d) : ofJson v = .ok d := by
  obtain ⟨hbindings, hcs⟩ := h
  rw [ofJson, scalarsField_eq_ok hbindings, conversationsField_eq_ok hcs]
  rfl

theorem ofJson_eq_error {v : Value} {f : DocumentFault} (h : FirstFault v f) :
    ofJson v = .error f := by
  cases h with
  | root hv =>
    cases v with
    | object root => exact absurd rfl (hv root)
    | _ => rfl
  | bindings hbindings =>
    rw [ofJson, scalarsField_eq_error hbindings]
    rfl
  | conversations hbindings hcs =>
    rw [ofJson, scalarsField_eq_ok hbindings, conversationsField_eq_error hcs]
    rfl

/-- **The reader follows the grammar.** A JSON value reads as a document exactly when it is one,
and the document is the one it describes; otherwise the reader reports its first fault. -/
theorem ofJson_follows_grammar (v : Value) :
    (∀ d, ofJson v = .ok d ↔ DocumentOf v d) ∧ (∀ f, ofJson v = .error f ↔ FirstFault v f) :=
  ⟨fun _ => (agrees_ofJson v).eq_ok_iff ofJson_eq_ok,
    fun _ => (agrees_ofJson v).eq_error_iff ofJson_eq_error⟩

/-- Of two bad fields of a node, the one read first is reported. -/
example :
    ofJson (.object [("conversations", .object [(" a ", .array
      [.object [("goto", .bool true), ("text", .number (.nat 3))]])])]) =
      .error (.notString "conversations.a[0]" "text" "number") := by
  rfl

end Document

end Colloquy
