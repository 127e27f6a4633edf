import MissionBase.Text.Octets
import Mathlib

/-!
# The numbers of octets and of their digits

Octets are a number, the most significant one first, and so are the hexadecimal digits that they are
read from. Reading keeps the number: a pair of digits is an octet, a zero in front of an odd number
of digits changes nothing, and neither do the zeros that fill up a pattern on its left. What reading
does not do is make a pattern smaller. So a pattern is within the bits of its field exactly if its
digits are (`octets?_withinBits_iff`).

A text is read if each of its pairs is two digits, or a plus sign and a digit. So all numerals are
read, and of the other texts those with a plus sign where a pair may have one (`readsNumeral_iff`).
-/

namespace MissionBase.Text

/-- The number that octets are, the most significant one first. -/
def bigEndian (octets : List UInt8) : Nat := Nat.ofDigits 256 (octets.map UInt8.toNat).reverse

/-- The value of a hexadecimal digit. A plus sign, which may stand where the first of two digits
would, has the value of a zero. -/
def hexValue (c : Char) : Nat := (digit? 16 c).getD 0

example : "0123456789abcdef".toList.map hexValue = List.range 16 := by decide

/-- The number of hexadecimal digits. -/
def hexNumber (cs : List Char) : Nat := Nat.ofDigits 16 (cs.map hexValue).reverse

/-- Octets for a field of some bits: as many as it takes, and a number that it can hold. -/
def WithinBits (octets : List UInt8) (size : Nat) : Prop :=
  octets.length = octetsFor size ∧ bigEndian octets < 2 ^ size

/-- A hexadecimal text for a field of some bits: it has no more digits than the octets of the field,
and its number is one that the field can hold. -/
def Fits (text : String) (size : Nat) : Prop :=
  (trimChars text.toList).length ≤ 2 * octetsFor size ∧ hexNumber (trimChars text.toList) < 2 ^ size

/-- A hexadecimal digit, of either case. -/
def IsHexDigit (c : Char) : Prop :=
  '0' ≤ c ∧ c ≤ '9' ∨ 'a' ≤ c ∧ c ≤ 'f' ∨ 'A' ≤ c ∧ c ≤ 'F'

/-- A hexadecimal numeral: digits between blanks, possibly none, and no sign. -/
def HexNumeral (text : String) : Prop := ∀ c ∈ trimChars text.toList, IsHexDigit c

/-- Reading is right about a text: it gives octets exactly for a numeral, and then as many as the
digits and the bits take, with the number of the digits. -/
def ReadsNumeral (text : String) (size : Nat) : Prop :=
  ((octets? text size).isSome ↔ HexNumeral text) ∧
    ∀ octets, octets? text size = some octets →
      octets.length = max (octetsFor size) (((trimChars text.toList).length + 1) / 2) ∧
        bigEndian octets = hexNumber (trimChars text.toList)

/-- Pairs of characters that are octets: two digits, or a plus sign and a digit. -/
inductive HexPairs : List Char → Prop
  | nil : HexPairs []
  | digits {a b : Char} {cs : List Char} :
      IsHexDigit a → IsHexDigit b → HexPairs cs → HexPairs (a :: b :: cs)
  | plus {b : Char} {cs : List Char} : IsHexDigit b → HexPairs cs → HexPairs ('+' :: b :: cs)

/-! ## Numbers -/

@[simp] theorem bigEndian_nil : bigEndian [] = 0 := rfl

@[simp] theorem bigEndian_cons (o : UInt8) (octets : List UInt8) :
    bigEndian (o :: octets) = 256 ^ octets.length * o.toNat + bigEndian octets := by
  simp [bigEndian, Nat.ofDigits_append, Nat.add_comm]

@[simp] theorem hexNumber_nil : hexNumber [] = 0 := rfl

@[simp] theorem hexNumber_cons (c : Char) (cs : List Char) :
    hexNumber (c :: cs) = 16 ^ cs.length * hexValue c + hexNumber cs := by
  simp [hexNumber, Nat.ofDigits_append, Nat.add_comm]

theorem bigEndian_zeros (count : Nat) (octets : List UInt8) :
    bigEndian (List.replicate count 0 ++ octets) = bigEndian octets := by
  induction count with
  | zero => rfl
  | succ count ih => simp [List.replicate_succ, ih]

theorem bigEndian_padLeft (count : Nat) (octets : List UInt8) :
    bigEndian (padLeft count octets) = bigEndian octets := bigEndian_zeros _ _

theorem length_padLeft (count : Nat) (octets : List UInt8) :
    (padLeft count octets).length = max count octets.length := by
  unfold padLeft
  rw [List.length_append, List.length_replicate]
  omega

/-- Zeros for a field are within its bits. -/
theorem zeros_withinBits (size : Nat) : WithinBits (List.replicate (octetsFor size) 0) size := by
  refine ⟨List.length_replicate, ?_⟩
  have hzero := bigEndian_zeros (octetsFor size) []
  rw [List.append_nil] at hzero
  rw [hzero, bigEndian_nil]
  exact Nat.two_pow_pos size

/-! ## Digits -/

theorem lt_of_digit? {radix : Nat} {c : Char} {n : Nat} (h : digit? radix c = some n) :
    n < radix := by
  obtain ⟨hlt, heq⟩ := Option.ite_none_right_eq_some.mp h
  rw [← Option.some.inj heq]
  exact hlt

/-- A pair of digits is an octet, and so is a plus sign with a digit. -/
theorem natural?_pair {a b : Char} {n : Nat} (h : natural? 16 [a, b] = some n) :
    n = 16 * hexValue a + hexValue b ∧ n < 256 := by
  unfold hexValue
  unfold natural? at h
  split at h
  · rename_i hcs
    cases hcs
    -- a plus sign in front of one digit
    cases hb : digit? 16 b with
    | none => simp [digits?, digitsAfter?, hb] at h
    | some y =>
        have hy := lt_of_digit? hb
        simp only [digits?, digitsAfter?, hb, Option.some.injEq] at h
        have hplus : digit? 16 '+' = none := by decide
        rw [hplus, Option.getD_none, Option.getD_some]
        omega
  · cases ha : digit? 16 a with
    | none => simp [digits?, digitsAfter?, ha] at h
    | some x =>
        cases hb : digit? 16 b with
        | none => simp [digits?, digitsAfter?, ha, hb] at h
        | some y =>
            have hx := lt_of_digit? ha
            have hy := lt_of_digit? hb
            simp only [digits?, digitsAfter?, ha, hb, Option.some.injEq] at h
            rw [Option.getD_some, Option.getD_some]
            omega

/-- **Pairs of digits are octets with the same number.** -/
theorem octetPairs?_number : ∀ {cs : List Char} {octets : List UInt8},
    octetPairs? cs = some octets →
      cs.length = 2 * octets.length ∧ bigEndian octets = hexNumber cs
  | [], _, h => by
      cases h
      exact ⟨rfl, rfl⟩
  | [_], _, h => by cases h
  | a :: b :: rest, octets, h => by
      rw [octetPairs?] at h
      split at h
      · rename_i n os hpair hrest
        cases h
        obtain ⟨hlength, hnumber⟩ := octetPairs?_number hrest
        obtain ⟨rfl, hlt⟩ := natural?_pair hpair
        -- an octet weighs as much as the two digits that it stands for
        have hweight : 256 ^ os.length = 16 ^ rest.length := by
          rw [hlength, Nat.pow_mul]
        refine ⟨?_, ?_⟩
        · rw [List.length_cons, List.length_cons, List.length_cons, hlength]
          omega
        · rw [bigEndian_cons, hexNumber_cons, hexNumber_cons, hnumber,
            UInt8.toNat_ofNat_of_lt' hlt, hweight, List.length_cons, Nat.pow_succ]
          ring
      · cases h

/-- A zero in front changes no number. -/
theorem hexNumber_evenly (cs : List Char) : hexNumber (evenly cs) = hexNumber cs := by
  unfold evenly
  split
  · have hzero : hexValue '0' = 0 := by decide
    rw [hexNumber_cons, hzero, Nat.mul_zero, Nat.zero_add]
  · rfl

/-! ## Patterns -/

/-- **A pattern is the number of its digits**, in as many octets as the field or the digits take. -/
theorem octets?_number {text : String} {size : Nat} {octets : List UInt8}
    (h : octets? text size = some octets) :
    octets.length = max (octetsFor size) (((trimChars text.toList).length + 1) / 2) ∧
      bigEndian octets = hexNumber (trimChars text.toList) := by
  obtain ⟨pairs, hpairs, rfl⟩ := Option.map_eq_some_iff.mp h
  obtain ⟨hlength, hnumber⟩ := octetPairs?_number hpairs
  rw [length_padLeft, bigEndian_padLeft, hnumber, hexNumber_evenly]
  refine ⟨?_, rfl⟩
  have heven : (evenly (trimChars text.toList)).length =
      2 * (((trimChars text.toList).length + 1) / 2) := by
    unfold evenly
    split
    · rw [List.length_cons]
      omega
    · omega
  omega

/-- **A pattern is within the bits of its field exactly if its text fits.** -/
theorem octets?_withinBits_iff {text : String} {size : Nat} {octets : List UInt8}
    (h : octets? text size = some octets) : WithinBits octets size ↔ Fits text size := by
  obtain ⟨hlength, hnumber⟩ := octets?_number h
  unfold WithinBits Fits
  rw [hlength, hnumber]
  have hcount : max (octetsFor size) (((trimChars text.toList).length + 1) / 2) = octetsFor size ↔
      (trimChars text.toList).length ≤ 2 * octetsFor size := by omega
  rw [hcount]

/-! ## Numerals -/

theorem isHexDigit_zero : IsHexDigit '0' := by
  unfold IsHexDigit
  decide

theorem not_isHexDigit_plus : ¬ IsHexDigit '+' := by
  unfold IsHexDigit
  decide

theorem digit?_isSome_iff {c : Char} : (digit? 16 c).isSome ↔ IsHexDigit c := by
  have hle : ∀ a b : Char, a ≤ b ↔ a.toNat ≤ b.toNat := fun a b => UInt32.le_iff_toNat_le
  have hcodes : '0'.toNat = 48 ∧ '9'.toNat = 57 ∧ 'a'.toNat = 97 ∧ 'f'.toNat = 102 ∧
      'A'.toNat = 65 ∧ 'F'.toNat = 70 := by decide
  obtain ⟨h0, h9, ha, hf, hA, hF⟩ := hcodes
  unfold IsHexDigit digit?
  simp only [hle, h0, h9, ha, hf, hA, hF, Bool.and_eq_true, decide_eq_true_eq]
  generalize c.toNat = n
  split_ifs with hdecimal hlower hvalue hupper hvalue hvalue <;> simp <;> omega

/-- A pair has a value exactly if it is two digits or a plus sign and a digit. -/
theorem natural?_pair_isSome_iff {a b : Char} :
    (natural? 16 [a, b]).isSome ↔ (IsHexDigit a ∨ a = '+') ∧ IsHexDigit b := by
  rw [← digit?_isSome_iff, ← digit?_isSome_iff]
  unfold natural?
  split
  · rename_i hcs
    cases hcs
    cases hb : digit? 16 b <;> simp [digits?, digitsAfter?, hb]
  · rename_i hplus
    have hne : a ≠ '+' := fun h => hplus [b] (by rw [h])
    cases ha : digit? 16 a with
    | none => simp [digits?, digitsAfter?, ha, hne]
    | some x => cases hb : digit? 16 b <;> simp [digits?, digitsAfter?, ha, hb]

theorem hexPairs_cons_cons {a b : Char} {cs : List Char} :
    HexPairs (a :: b :: cs) ↔ ((IsHexDigit a ∨ a = '+') ∧ IsHexDigit b) ∧ HexPairs cs := by
  constructor
  · intro h
    cases h with
    | digits ha hb hcs => exact ⟨⟨.inl ha, hb⟩, hcs⟩
    | plus hb hcs => exact ⟨⟨.inr rfl, hb⟩, hcs⟩
  · rintro ⟨⟨ha | rfl, hb⟩, hcs⟩
    · exact .digits ha hb hcs
    · exact .plus hb hcs

theorem octetPairs?_isSome_iff : ∀ {cs : List Char}, (octetPairs? cs).isSome ↔ HexPairs cs
  | [] => ⟨fun _ => .nil, fun _ => rfl⟩
  | [_] => ⟨nofun, nofun⟩
  | a :: b :: rest => by
      rw [hexPairs_cons_cons, ← natural?_pair_isSome_iff, ← octetPairs?_isSome_iff, octetPairs?]
      cases natural? 16 [a, b] <;> cases octetPairs? rest <;> simp

/-- Reading gives octets exactly for texts of such pairs. -/
theorem octets?_isSome_iff {text : String} {size : Nat} :
    (octets? text size).isSome ↔ HexPairs (evenly (trimChars text.toList)) := by
  rw [octets?, Option.isSome_map, octetPairs?_isSome_iff]

theorem hexPairs_of_digits : ∀ {cs : List Char}, cs.length % 2 = 0 → (∀ c ∈ cs, IsHexDigit c) →
    HexPairs cs
  | [], _, _ => .nil
  | [_], heven, _ => by cases heven
  | a :: b :: rest, heven, hdigits => by
      have hrest : rest.length % 2 = 0 := by
        rw [List.length_cons, List.length_cons] at heven
        omega
      exact .digits (hdigits a (by simp)) (hdigits b (by simp))
        (hexPairs_of_digits hrest fun c hc => hdigits c (by simp [hc]))

/-- Pairs without a plus sign are of digits. -/
theorem HexPairs.isHexDigit {cs : List Char} (h : HexPairs cs) (hplus : '+' ∉ cs) :
    ∀ c ∈ cs, IsHexDigit c := by
  induction h with
  | nil => nofun
  | digits ha hb _ ih =>
      simp only [List.mem_cons, not_or] at hplus
      simp only [List.forall_mem_cons]
      exact ⟨ha, hb, ih hplus.2.2⟩
  | plus => simp at hplus

theorem length_evenly (cs : List Char) : (evenly cs).length % 2 = 0 := by
  unfold evenly
  split
  · rw [List.length_cons]
    omega
  · omega

/-- What holds of a zero holds of the characters exactly if it holds with the zero in front. -/
theorem forall_mem_evenly {p : Char → Prop} (hzero : p '0') (cs : List Char) :
    (∀ c ∈ evenly cs, p c) ↔ ∀ c ∈ cs, p c := by
  unfold evenly
  split
  · rw [List.forall_mem_cons, and_iff_right hzero]
  · rfl

/-- **Numerals are read.** -/
theorem HexNumeral.isSome {text : String} (h : HexNumeral text) (size : Nat) :
    (octets? text size).isSome := by
  rw [octets?_isSome_iff]
  refine hexPairs_of_digits (length_evenly _) ?_
  rw [forall_mem_evenly isHexDigit_zero]
  exact h

/-- A text that is read is a numeral exactly if it has no plus sign. -/
theorem hexNumeral_iff_of_pairs {text : String}
    (h : HexPairs (evenly (trimChars text.toList))) :
    HexNumeral text ↔ '+' ∉ trimChars text.toList := by
  constructor
  · intro hnumeral hplus
    exact not_isHexDigit_plus (hnumeral '+' hplus)
  · intro hplus
    have hevenly : '+' ∉ evenly (trimChars text.toList) := by
      intro hmem
      exact (forall_mem_evenly (p := (· ≠ '+')) (by decide) _).mpr
        (fun c hc heq => hplus (heq ▸ hc)) '+' hmem rfl
    exact (forall_mem_evenly isHexDigit_zero _).mp (h.isHexDigit hevenly)

/-- **Reading is right about a text exactly if the text has no plus sign that is taken for a zero.**
A plus sign is refused as the second character of a pair and at the end of a text, but not in front
of a digit that completes a pair: there the text is read although it is no numeral. -/
theorem readsNumeral_iff {text : String} {size : Nat} :
    ReadsNumeral text size ↔
      ¬ (HexPairs (evenly (trimChars text.toList)) ∧ '+' ∈ trimChars text.toList) := by
  have hnumber : ∀ octets, octets? text size = some octets →
      octets.length = max (octetsFor size) (((trimChars text.toList).length + 1) / 2) ∧
        bigEndian octets = hexNumber (trimChars text.toList) := fun _ => octets?_number
  unfold ReadsNumeral
  rw [and_iff_left hnumber, octets?_isSome_iff]
  constructor
  · rintro hreads ⟨hpairs, hplus⟩
    exact (hexNumeral_iff_of_pairs hpairs).mp (hreads.mp hpairs) hplus
  · intro hsigned
    constructor
    · intro hpairs
      exact (hexNumeral_iff_of_pairs hpairs).mpr fun hplus => hsigned ⟨hpairs, hplus⟩
    · intro hnumeral
      exact octets?_isSome_iff.mp (hnumeral.isSome size)

/-- The text `+f` is an octet, and no numeral. -/
theorem signedDigit_read :
    octets? "+f" 8 = some [15] ∧ ¬ HexNumeral "+f" ∧ ¬ ReadsNumeral "+f" 8 := by
  refine ⟨by decide, ?_, ?_⟩
  · intro h
    exact not_isHexDigit_plus (h '+' (by decide))
  · rw [readsNumeral_iff, not_not]
    have hpairs : HexPairs ['+', 'f'] := .plus (digit?_isSome_iff.mp (by decide)) .nil
    exact ⟨hpairs, by decide⟩

end MissionBase.Text
