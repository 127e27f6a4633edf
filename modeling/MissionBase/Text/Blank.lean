/-!
# Blank characters

White space as the Unicode property `White_Space` has it: the ASCII controls from tab to
carriage return, the space, and nineteen characters beyond ASCII. `trim` cuts them off at both
ends of a text and nowhere else.
-/

namespace MissionBase.Text

/-- The characters with the property `White_Space`. -/
def isBlank (c : Char) : Bool :=
  let n := c.toNat
  (9 ≤ n && n ≤ 13) || n == 0x20 || n == 0x85 || n == 0xa0 || n == 0x1680 ||
    (0x2000 ≤ n && n ≤ 0x200a) || n == 0x2028 || n == 0x2029 || n == 0x202f || n == 0x205f ||
    n == 0x3000

/-- Every element up to the last one that fails `p`. -/
def dropTrailing {α : Type} (p : α → Bool) (xs : List α) : List α :=
  (xs.reverse.dropWhile p).reverse

/-- A text without the blanks before and after it. -/
def trimChars (cs : List Char) : List Char :=
  dropTrailing isBlank (cs.dropWhile isBlank)

/-- `trimChars` on strings. -/
def trim (s : String) : String := String.ofList (trimChars s.toList)

/-- No character but blanks, possibly none at all. -/
def isBlankText (cs : List Char) : Bool := cs.all isBlank

@[simp] theorem dropTrailing_nil {α : Type} (p : α → Bool) : dropTrailing p [] = [] := rfl

/-- A last element that passes is dropped. -/
theorem dropTrailing_concat_of_pos {α : Type} {p : α → Bool} {x : α} (h : p x = true)
    (xs : List α) : dropTrailing p (xs ++ [x]) = dropTrailing p xs := by
  simp [dropTrailing, h]

/-- A last element that fails keeps everything before it. -/
theorem dropTrailing_concat_of_neg {α : Type} {p : α → Bool} {x : α} (h : p x = false)
    (xs : List α) : dropTrailing p (xs ++ [x]) = xs ++ [x] := by
  simp [dropTrailing, h]

end MissionBase.Text
