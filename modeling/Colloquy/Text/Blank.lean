/-!
# Blank characters and trimming

The blank characters are those with the Unicode White_Space property. They are the ASCII tab,
line feed, vertical tab, form feed, carriage return and space, plus NEL, the no-break space,
the Ogham space mark, the spaces U+2000 to U+200A, the line and paragraph separators, the
narrow no-break space, the medium mathematical space and the ideographic space. The zero-width
space and the byte-order mark are not blank.

`trim` drops blanks from both ends of a text, and trimming twice trims once (`trim_trim`).
-/

namespace Colloquy.Text

/-- **Blank**: the White_Space property. -/
def isBlank (c : Char) : Bool :=
  let n := c.toNat
  (0x09 ≤ n ∧ n ≤ 0x0D) ∨ n = 0x20 ∨ n = 0x85 ∨ n = 0xA0 ∨ n = 0x1680 ∨
  (0x2000 ≤ n ∧ n ≤ 0x200A) ∨ n = 0x2028 ∨ n = 0x2029 ∨ n = 0x202F ∨ n = 0x205F ∨
  n = 0x3000

/-- Drops leading blanks. -/
def dropBlanks (cs : List Char) : List Char :=
  cs.dropWhile isBlank

/-- Drops blanks from both ends of a character list. -/
def trimList (cs : List Char) : List Char :=
  (dropBlanks (dropBlanks cs).reverse).reverse

/-- **Trim**: the text without blanks at either end. -/
def trim (s : String) : String :=
  String.ofList (trimList s.toList)

/-- Drops blanks at the end only. -/
def trimEnd (s : String) : String :=
  String.ofList (dropBlanks s.toList.reverse).reverse

/-! ### Trimming is idempotent -/

theorem dropBlanks_dropBlanks (cs : List Char) : dropBlanks (dropBlanks cs) = dropBlanks cs := by
  induction cs with
  | nil => rfl
  | cons c cs ih =>
    by_cases h : isBlank c
    · simp only [dropBlanks, List.dropWhile_cons_of_pos h] at ih ⊢
      exact ih
    · simp [dropBlanks, List.dropWhile_cons_of_neg h]

/-- A prefix of a list with its leading blanks dropped has no leading blank either. -/
theorem dropBlanks_prefix_eq {p cs : List Char} (hp : p <+: dropBlanks cs) :
    dropBlanks p = p := by
  obtain ⟨t, ht⟩ := hp
  cases p with
  | nil => rfl
  | cons c p =>
    have hne : dropBlanks cs ≠ [] := by simp [← ht]
    have hhead : (dropBlanks cs).head hne = c := by simp [← ht]
    have hc : isBlank c = false := hhead ▸ List.head_dropWhile_not isBlank hne
    exact List.dropWhile_cons_of_neg (by simp [hc])

theorem trimList_trimList (cs : List Char) : trimList (trimList cs) = trimList cs := by
  -- the trimmed list is a prefix of `cs` without its leading blanks
  have hsuffix : dropBlanks (dropBlanks cs).reverse <:+ (dropBlanks cs).reverse :=
    List.dropWhile_suffix isBlank
  have hpre : (dropBlanks (dropBlanks cs).reverse).reverse <+: dropBlanks cs := by
    have h := List.reverse_prefix.mpr hsuffix
    rwa [List.reverse_reverse] at h
  unfold trimList
  rw [dropBlanks_prefix_eq hpre, List.reverse_reverse, dropBlanks_dropBlanks]

@[simp] theorem trim_trim (s : String) : trim (trim s) = trim s := by
  simp [trim, String.toList_ofList, trimList_trimList]

end Colloquy.Text
