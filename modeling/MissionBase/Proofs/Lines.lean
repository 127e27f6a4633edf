import MissionBase.Table.Lines
import Mathlib

/-!
# Reading undoes writing

A table is written as lines, each a record, blanks, or a comment on the first line, in UTF-8 and
with one of two line ends; the last line may do without. Reading such a file gives the records that
were written and nothing else, each with the number of its line (`readRows_written`).

The argument goes line by line. The octet of a line feed is part of no other character, so a file
falls apart where its lines end (`splitLines_line`), and each line is decoded to the characters that
it was written with (`decodeLine_octets`). What is left is one line (`rowOfLine?_line`).
-/

namespace MissionBase

/-! ## Written tables -/

/-- What ends a line: a line feed, a carriage return before it, or the end of the file. -/
inductive LineEnd
  | feed
  | returnFeed
  | missing

/-- A line of a table. -/
inductive Line
  | blanks (text : List Char)
  | comment (text : List Char)
  | record (fields : List String)

/-- The characters that end a line. -/
def LineEnd.chars : LineEnd → List Char
  | .feed => ['\n']
  | .returnFeed => ['\r', '\n']
  | .missing => []

/-- The characters of a line without its end. -/
def Line.chars (separator : Char) : Line → List Char
  | .blanks text => text
  | .comment text => '#' :: text
  | .record fields => [separator].intercalate (fields.map String.toList)

/-- A record that can be told from other lines, and its columns from one another. -/
structure Line.Separable (separator : Char) (number : Nat) (fields : List String) : Prop where
  /-- There is a column. -/
  nonempty : fields ≠ []
  /-- No column has a separator in it. -/
  columns : ∀ field ∈ fields, separator ∉ field.toList
  /-- No column has a line feed in it. -/
  unbroken : ∀ field ∈ fields, '\n' ∉ field.toList
  /-- There is more than blanks. -/
  visible : Text.isBlankText ((Line.record fields).chars separator) = false
  /-- No carriage return could belong to the end of the line. -/
  closed : ((Line.record fields).chars separator).getLast? ≠ some '\r'
  /-- On the first line it does not look like a comment. -/
  plain : number = 1 → ((Line.record fields).chars separator).head? ≠ some '#'

/-- A line that may have this number. -/
def Line.MayStand (separator : Char) (number : Nat) : Line → Prop
  | .blanks text => Text.isBlankText text = true ∧ '\n' ∉ text
  | .comment text => number = 1 ∧ '\n' ∉ text
  | .record fields => Separable separator number fields

/-- Lines of which the first has this number and only the last may have no end. -/
inductive Lines (separator : Char) : Nat → List (Line × LineEnd) → Prop
  | nil {number : Nat} : Lines separator number []
  | last {number : Nat} {line : Line} :
      line.MayStand separator number → Lines separator number [(line, .missing)]
  | cons {number : Nat} {line : Line} {ending : LineEnd} {lines : List (Line × LineEnd)} :
      line.MayStand separator number → ending ≠ .missing → Lines separator (number + 1) lines →
      Lines separator number ((line, ending) :: lines)

/-- The octets of characters in UTF-8. -/
def octetsOf (cs : List Char) : List UInt8 := (String.ofList cs).toUTF8.data.toList

/-- The file that lines are written to. -/
def written (separator : Char) (lines : List (Line × LineEnd)) : List UInt8 :=
  octetsOf (lines.flatMap fun (line, ending) => line.chars separator ++ ending.chars)

/-- The record of a line with a number. -/
def Line.row? (file : String) (number : Nat) : Line → Option Row
  | .record fields => some ⟨fields, file, number⟩
  | _ => none

/-- The records among lines, the first of which has the number given. -/
def recordsFrom (file : String) (number : Nat) (lines : List (Line × LineEnd)) : List Row :=
  (lines.zipIdx number).filterMap fun (line, n) => line.1.row? file n

/-! ## Octets -/

@[simp] theorem octetsOf_nil : octetsOf [] = [] := rfl

theorem octetsOf_eq (cs : List Char) : octetsOf cs = cs.flatMap String.utf8EncodeChar := by
  rw [octetsOf, String.toUTF8_eq_toByteArray, String.toByteArray_ofList, List.utf8Encode,
    List.toList_data_toByteArray]

theorem octetsOf_append (cs ds : List Char) : octetsOf (cs ++ ds) = octetsOf cs ++ octetsOf ds := by
  simp only [octetsOf_eq, List.flatMap_append]

theorem octetsOf_feed : octetsOf ['\n'] = [10] := by
  rw [octetsOf_eq]
  rfl

/-- Only the line feed has the octet of a line feed: the octets of a character beyond ASCII are all
beyond it too. -/
theorem eq_feed_of_mem {c : Char} (h : (10 : UInt8) ∈ String.utf8EncodeChar c) : c = '\n' := by
  have hoctet : ∀ n : Nat, n < 256 → (10 : UInt8) = UInt8.ofNat n → n = 10 := by
    intro n hn heq
    have hval := congrArg UInt8.toNat heq
    rw [UInt8.toNat_ofNat_of_lt' hn] at hval
    exact hval.symm
  unfold String.utf8EncodeChar at h
  simp only at h
  split_ifs at h with hone htwo hthree <;>
    simp only [List.mem_cons, List.not_mem_nil, or_false] at h
  · have hcode := hoctet _ (by omega) h
    exact Char.ext (UInt32.toNat_inj.mp hcode)
  · rcases h with h | h <;> have := hoctet _ (by omega) h <;> omega
  · rcases h with h | h | h <;> have := hoctet _ (by omega) h <;> omega
  · rcases h with h | h | h | h <;> have := hoctet _ (by omega) h <;> omega

theorem not_mem_octetsOf {cs : List Char} (h : '\n' ∉ cs) : (10 : UInt8) ∉ octetsOf cs := by
  rw [octetsOf_eq]
  intro hmem
  obtain ⟨c, hc, hoctet⟩ := List.mem_flatMap.mp hmem
  exact h (eq_feed_of_mem hoctet ▸ hc)

/-- **Decoding undoes encoding.** -/
theorem decodeLine_octets (cs : List Char) : decodeLine (octetsOf cs) = cs := by
  have hread : String.fromUTF8? ⟨(octetsOf cs).toArray⟩ = some (String.ofList cs) := by
    unfold octetsOf String.fromUTF8?
    rw [Array.toArray_toList, String.toUTF8_eq_toByteArray, dif_pos (String.isValidUTF8 _)]
    rfl
  unfold decodeLine
  rw [hread]
  exact String.toList_ofList

/-! ## Splitting -/

theorem splitLines_cons (b : UInt8) (bytes : List UInt8) :
    splitLines (b :: bytes) =
      match splitLines bytes with
      | [] => [[b]]
      | line :: lines => if b = 10 then [b] :: line :: lines else (b :: line) :: lines := rfl

/-- Up to its line feed, a file is a line. -/
theorem splitLines_line {line : List UInt8} (h : (10 : UInt8) ∉ line) (rest : List UInt8) :
    splitLines (line ++ 10 :: rest) = (line ++ [10]) :: splitLines rest := by
  induction line with
  | nil =>
      rw [List.nil_append, splitLines_cons]
      cases splitLines rest <;> rfl
  | cons b line ih =>
      rw [List.mem_cons, not_or] at h
      rw [List.cons_append, splitLines_cons, ih h.2]
      exact if_neg fun hb => h.1 hb.symm

/-- Octets without a line feed are a line, unless there are none. -/
theorem splitLines_last {line : List UInt8} (h : (10 : UInt8) ∉ line) :
    splitLines line = if line = [] then [] else [line] := by
  induction line with
  | nil => rfl
  | cons b line ih =>
      rw [List.mem_cons, not_or] at h
      rw [splitLines_cons, ih h.2, if_neg (List.cons_ne_nil b line)]
      by_cases hline : line = []
      · rw [if_pos hline, hline]
      · rw [if_neg hline]
        exact if_neg fun hb => h.1 hb.symm

theorem splitFields_eq_splitOn (separator : Char) (cs : List Char) :
    splitFields separator cs = cs.splitOn separator := by
  induction cs with
  | nil => rfl
  | cons c cs ih =>
      rw [splitFields, ih, List.splitOn_cons_eq_if_modifyHead]
      by_cases hc : c = separator
      · rw [if_pos hc, if_pos (beq_iff_eq.mpr hc)]
      · rw [if_neg hc, if_neg (by simpa using hc)]
        cases hsplit : cs.splitOn separator with
        | nil => exact absurd hsplit (List.splitOn_ne_nil separator cs)
        | cons field fields => rfl

/-! ## Ends of lines -/

namespace Text

/-- Nothing is dropped after a last element that fails. -/
theorem dropTrailing_of_getLast? {α : Type} {p : α → Bool} {xs : List α}
    (h : ∀ x ∈ xs.getLast?, p x = false) : dropTrailing p xs = xs := by
  rcases List.eq_nil_or_concat xs with rfl | ⟨ys, y, rfl⟩
  · rfl
  · rw [List.concat_eq_append] at h ⊢
    exact dropTrailing_concat_of_neg (h y (by simp)) ys

theorem dropTrailing_sublist {α : Type} (p : α → Bool) (xs : List α) :
    (dropTrailing p xs).Sublist xs := by
  have h := (List.dropWhile_sublist p (l := xs.reverse)).reverse
  rwa [List.reverse_reverse] at h

theorem isBlankText_of_sublist {cs ds : List Char} (h : cs.Sublist ds)
    (hds : isBlankText ds = true) : isBlankText cs = true := by
  unfold isBlankText at hds ⊢
  rw [List.all_eq_true] at hds ⊢
  exact fun c hc => hds c (h.subset hc)

end Text

/-- The character that ends a line is dropped, if it is there. -/
theorem dropTrailing_ending {last : Char} {cs ending : List Char} (h : cs.getLast? ≠ some last)
    (hending : ending = [] ∨ ending = [last]) :
    Text.dropTrailing (· = last) (cs ++ ending) = cs := by
  have hcs : Text.dropTrailing (· = last) cs = cs := by
    refine Text.dropTrailing_of_getLast? fun c hc => ?_
    rw [decide_eq_false_iff_not]
    rintro rfl
    exact h hc
  rcases hending with rfl | rfl
  · rw [List.append_nil, hcs]
  · exact (Text.dropTrailing_concat_of_pos (p := (· = last)) (decide_eq_true rfl) cs).trans hcs

/-! ## One line -/

theorem not_mem_intercalate {c separator : Char} (hc : c ≠ separator) :
    ∀ {columns : List (List Char)}, (∀ column ∈ columns, c ∉ column) →
      c ∉ [separator].intercalate columns
  | [], _ => by simp
  | [column], h => by simpa using h column
  | column :: next :: columns, h => by
      rw [List.intercalate_cons_cons, List.mem_append, List.mem_append, List.mem_singleton]
      rintro ((hcolumn | hsep) | hrest)
      · exact h column (by simp) hcolumn
      · exact hc hsep
      · exact not_mem_intercalate hc (fun column hmem => h column (List.mem_cons_of_mem _ hmem))
          hrest

/-- A line that may stand somewhere has no line feed in it. -/
theorem Line.MayStand.unbroken {separator : Char} (hsep : separator ≠ '\n') {number : Nat}
    {line : Line} (h : line.MayStand separator number) : '\n' ∉ line.chars separator := by
  cases line with
  | blanks text => exact h.2
  | comment text =>
      rw [Line.chars, List.mem_cons, not_or]
      exact ⟨by decide, h.2⟩
  | record fields =>
      refine not_mem_intercalate hsep.symm fun column hcolumn => ?_
      obtain ⟨field, hfield, rfl⟩ := List.mem_map.mp hcolumn
      exact Line.Separable.unbroken h field hfield

/-- The columns of a record are found again. -/
theorem Line.Separable.splitFields {separator : Char} {number : Nat} {fields : List String}
    (h : Separable separator number fields) :
    (splitFields separator ((Line.record fields).chars separator)).map String.ofList = fields := by
  have hcolumns : ∀ column ∈ fields.map String.toList, separator ∉ column := by
    intro column hcolumn
    obtain ⟨field, hfield, rfl⟩ := List.mem_map.mp hcolumn
    exact h.columns field hfield
  have hne : fields.map String.toList ≠ [] := fun hnil => h.nonempty (List.map_eq_nil_iff.mp hnil)
  rw [splitFields_eq_splitOn, Line.chars, List.splitOn_intercalate separator hcolumns hne,
    List.map_map]
  exact (List.map_congr_left fun field _ => String.ofList_toList).trans (List.map_id fields)

/-- What a line is taken for, once it is decoded and has lost its line feed. -/
theorem rowOfLine?_octets {file : String} {separator : Char} {number : Nat}
    {body feed : List Char} (hbody : '\n' ∉ body) (hfeed : feed = [] ∨ feed = ['\n']) :
    rowOfLine? file separator number (octetsOf (body ++ feed)) =
      if number = 1 ∧ body.head? = some '#' then none
      else if Text.isBlankText (Text.dropTrailing (· = '\r') body) then none
      else some ⟨(splitFields separator (Text.dropTrailing (· = '\r') body)).map String.ofList,
        file, number⟩ := by
  have hdrop : Text.dropTrailing (· = '\n') (body ++ feed) = body :=
    dropTrailing_ending (fun hlast => hbody (List.mem_of_getLast? hlast)) hfeed
  unfold rowOfLine?
  rw [decodeLine_octets]
  simp only [hdrop]

/-- **A line is taken for what it was written as**, whatever ends it. -/
theorem rowOfLine?_line (file : String) {separator : Char} (hsep : separator ≠ '\n')
    {number : Nat} {line : Line} (h : line.MayStand separator number) {back feed : List Char}
    (hback : back = [] ∨ back = ['\r']) (hfeed : feed = [] ∨ feed = ['\n']) :
    rowOfLine? file separator number (octetsOf (line.chars separator ++ back ++ feed)) =
      line.row? file number := by
  have hbody : '\n' ∉ line.chars separator ++ back := by
    rw [List.mem_append, not_or]
    refine ⟨h.unbroken hsep, ?_⟩
    rcases hback with rfl | rfl <;> decide
  rw [rowOfLine?_octets hbody hfeed]
  cases line with
  | blanks text =>
      -- a carriage return is a blank, so with it or without the line is blanks only
      have hblank : Text.isBlankText (text ++ back) = true := by
        unfold Text.isBlankText
        rw [List.all_append, Bool.and_eq_true]
        refine ⟨h.1, ?_⟩
        rcases hback with rfl | rfl <;> decide
      have hdropped : Text.isBlankText (Text.dropTrailing (· = '\r') (text ++ back)) = true :=
        Text.isBlankText_of_sublist (Text.dropTrailing_sublist _ _) hblank
      rw [Line.chars, if_pos hdropped, ite_self]
      rfl
  | comment text => exact if_pos ⟨h.1, rfl⟩
  | record fields =>
      have hdrop : Text.dropTrailing (· = '\r') ((Line.record fields).chars separator ++ back) =
          (Line.record fields).chars separator := dropTrailing_ending h.closed hback
      have hhead : ¬ (number = 1 ∧
          ((Line.record fields).chars separator ++ back).head? = some '#') := by
        rintro ⟨hfirst, hcomment⟩
        refine h.plain hfirst ?_
        have hvisible := h.visible
        cases hchars : (Line.record fields).chars separator with
        | nil =>
            rw [hchars] at hvisible
            cases hvisible
        | cons c cs =>
            rw [hchars] at hcomment
            exact hcomment
      rw [if_neg hhead, hdrop, h.visible, if_neg Bool.false_ne_true, h.splitFields]
      rfl

/-! ## Whole files -/

theorem recordsFrom_cons (file : String) (number : Nat) (line : Line) (ending : LineEnd)
    (lines : List (Line × LineEnd)) :
    recordsFrom file number ((line, ending) :: lines) =
      (line.row? file number).toList ++ recordsFrom file (number + 1) lines := by
  unfold recordsFrom
  simp only [List.zipIdx_cons, List.filterMap_cons]
  cases line.row? file number <;> rfl

theorem rowsOfLines_cons (file : String) (separator : Char) (number : Nat) (line : List UInt8)
    (lines : List (List UInt8)) :
    rowsOfLines file separator number (line :: lines) =
      (rowOfLine? file separator number line).toList ++
        rowsOfLines file separator (number + 1) lines := by
  rw [rowsOfLines]
  cases rowOfLine? file separator number line <;> rfl

theorem written_cons (separator : Char) (line : Line) (ending : LineEnd)
    (lines : List (Line × LineEnd)) :
    written separator ((line, ending) :: lines) =
      octetsOf (line.chars separator ++ ending.chars) ++ written separator lines := by
  unfold written
  rw [List.flatMap_cons, octetsOf_append]

/-- An end of a line is a line feed, and maybe a carriage return before it. -/
theorem LineEnd.chars_eq {ending : LineEnd} (h : ending ≠ .missing) :
    ∃ back, (back = [] ∨ back = ['\r']) ∧ ending.chars = back ++ ['\n'] := by
  cases ending with
  | feed => exact ⟨[], .inl rfl, rfl⟩
  | returnFeed => exact ⟨['\r'], .inr rfl, rfl⟩
  | missing => exact absurd rfl h

/-- **The records of lines**, wherever in a file the lines stand. -/
theorem rowsOfLines_written {file : String} {separator : Char} (hsep : separator ≠ '\n')
    {number : Nat} {lines : List (Line × LineEnd)} (h : Lines separator number lines) :
    rowsOfLines file separator number (splitLines (written separator lines)) =
      recordsFrom file number lines := by
  induction h with
  | nil => rfl
  | @last number line hline =>
      have hrow := rowOfLine?_line file hsep hline (.inl rfl) (.inl rfl)
      rw [List.append_nil, List.append_nil] at hrow
      have hunbroken := not_mem_octetsOf (hline.unbroken hsep)
      rw [written_cons, LineEnd.chars, List.append_nil, written, List.flatMap_nil, octetsOf_nil,
        List.append_nil, splitLines_last hunbroken, recordsFrom_cons]
      split_ifs with hempty
      · -- no octets are no line, and what was written is a line of no blanks at all
        have hblanks : (Line.blanks []).MayStand separator number := ⟨rfl, List.not_mem_nil⟩
        have hnone : rowOfLine? file separator number (octetsOf []) = none :=
          rowOfLine?_line file hsep hblanks (.inl rfl) (.inl rfl)
        rw [hempty, ← octetsOf_nil, hnone] at hrow
        rw [← hrow]
        rfl
      · rw [rowsOfLines_cons, hrow]
        rfl
  | @cons number line ending lines hline hending hlines ih =>
      obtain ⟨back, hback, hchars⟩ := LineEnd.chars_eq hending
      have hrow := rowOfLine?_line file hsep hline hback (.inr rfl)
      have hunbroken : (10 : UInt8) ∉ octetsOf (line.chars separator ++ back) := by
        refine not_mem_octetsOf ?_
        rw [List.mem_append, not_or]
        refine ⟨hline.unbroken hsep, ?_⟩
        rcases hback with rfl | rfl <;> decide
      rw [octetsOf_append, octetsOf_feed] at hrow
      rw [written_cons, hchars, ← List.append_assoc, octetsOf_append, octetsOf_feed,
        List.append_assoc, List.singleton_append, splitLines_line hunbroken, rowsOfLines_cons, hrow,
        ih, recordsFrom_cons]

/-- **Reading undoes writing.** For every separator other than a line feed, a file of lines that may
stand where they do is read as the records among them, in order, with their columns, and each with
the number of its line. -/
theorem readRows_written (file : String) {separator : Char} (hsep : separator ≠ '\n')
    {lines : List (Line × LineEnd)} (h : Lines separator 1 lines) :
    readRows file separator (written separator lines) = recordsFrom file 1 lines :=
  rowsOfLines_written hsep h

/-- The records below a comment, above and below a line of blanks, and at the end of the file. -/
theorem fiveLines_read :
    readRows "pcf.dat" '\t' (octetsOf "# PNAME\tDESCR\nP1\t\n \t \r\n\tP2 \r\nP3\tµA".toList) =
      [⟨["P1", ""], "pcf.dat", 2⟩, ⟨["", "P2 "], "pcf.dat", 4⟩, ⟨["P3", "µA"], "pcf.dat", 5⟩] := by
  have hlines : Lines '\t' 1
      [(.comment " PNAME\tDESCR".toList, .feed), (.record ["P1", ""], .feed),
        (.blanks " \t ".toList, .returnFeed), (.record ["", "P2 "], .returnFeed),
        (.record ["P3", "µA"], .missing)] := by
    refine .cons ⟨rfl, by decide⟩ nofun (.cons ?_ nofun (.cons ⟨by decide, by decide⟩ nofun
      (.cons ?_ nofun (.last ?_))))
    all_goals constructor <;> decide
  exact readRows_written "pcf.dat" (by decide) hlines

end MissionBase
