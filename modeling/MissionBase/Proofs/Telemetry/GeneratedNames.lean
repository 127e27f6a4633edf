import MissionBase.Proofs.Numeral
import MissionBase.Proofs.Telemetry.Identification

/-!
# Names that no table gives

The container of a kind of packets and its two fields have names that are made up from what tells
the kind from others: the application in decimal, the type and the subtype in hexadecimal. Types and
subtypes of packets are octets, so each takes two digits, and the name says which kind it is of.

A name that is taken is made up anew with the number of its packet after it. Such names end in a
number that follows an underscore, which the names of kinds never do, so the two are never the same.
-/

namespace MissionBase

/-- The parameters that the root shows. -/
def PacketHeader.names : List String := [apidName, sequenceName, typeName, subtypeName]

/-- The parameters that the packets of service 1 show. -/
def PacketHeader.echoedNames : List String := [echoedApidName, echoedSequenceName]

/-- The type and the subtype are octets. -/
structure PacketKey.Octets (k : PacketKey) : Prop where
  type : 0 ≤ k.type ∧ k.type ≤ 255
  subtype : 0 ≤ k.subtype ∧ k.subtype ≤ 255

theorem PacketKey.octets_iff (k : PacketKey) :
    k.Octets ↔ (0 ≤ k.type ∧ k.type ≤ 255) ∧ 0 ≤ k.subtype ∧ k.subtype ≤ 255 :=
  ⟨fun h => ⟨h.type, h.subtype⟩, fun h => ⟨h.1, h.2⟩⟩

instance : DecidablePred PacketKey.Octets := fun k => decidable_of_iff _ k.octets_iff.symm

/-- The names of the identification fields of a kind. -/
def PacketKey.fieldNames (k : PacketKey) : List String :=
  [k.groupName ++ "_pi1", k.groupName ++ "_pi2"]

/-! ## Octets in hexadecimal -/

theorem digits?_hexText : ∀ n : Fin 256, (hexText n.val).toList.length = 2 ∧
    Text.digits? 16 (hexText n.val).toList = some n.val := by
  decide +kernel

theorem exists_octet {n : Int} (h : 0 ≤ n ∧ n ≤ 255) : ∃ m : Fin 256, n = m.val :=
  ⟨⟨n.toNat, by omega⟩, by simp [h.1]⟩

theorem length_hexText {n : Int} (h : 0 ≤ n ∧ n ≤ 255) : (hexText n).toList.length = 2 := by
  obtain ⟨m, rfl⟩ := exists_octet h
  exact (digits?_hexText m).1

/-- **Two digits stand for one octet.** -/
theorem hexText_inj {m n : Int} (hm : 0 ≤ m ∧ m ≤ 255) (hn : 0 ≤ n ∧ n ≤ 255)
    (h : (hexText m).toList = (hexText n).toList) : m = n := by
  obtain ⟨i, rfl⟩ := exists_octet hm
  obtain ⟨j, rfl⟩ := exists_octet hn
  have hi := (digits?_hexText i).2
  rw [h, (digits?_hexText j).2] at hi
  exact congrArg Int.ofNat (Option.some.inj hi).symm

/-- Among the digits of octets there is no underscore. -/
theorem ne_underscore_of_mem_hexText {n : Int} (h : 0 ≤ n ∧ n ≤ 255) :
    ∀ c ∈ (hexText n).toList, c ≠ '_' := by
  have hall : ∀ m : Fin 256, '_' ∉ (hexText m.val).toList := by decide +kernel
  obtain ⟨m, rfl⟩ := exists_octet h
  rintro c hc rfl
  exact hall m hc

/-! ## Names of kinds -/

namespace PacketKey

variable {k k' : PacketKey}

theorem toList_groupName (k : PacketKey) :
    k.groupName.toList = ("pus_".toList ++ (toString k.apid).toList) ++
      '_' :: ((hexText k.type).toList ++ (hexText k.subtype).toList) := by
  simp [groupName, String.toList_append, toString]

/-- **The name of a kind says which kind it is of.** -/
theorem groupName_inj (h : k.Octets) (h' : k'.Octets) (hname : k.groupName = k'.groupName) :
    k = k' := by
  have hlist := congrArg String.toList hname
  rw [toList_groupName, toList_groupName] at hlist
  -- four digits after the last underscore, two of the type and two of the subtype
  have hdigits : ((hexText k.type).toList ++ (hexText k.subtype).toList).length =
      ((hexText k'.type).toList ++ (hexText k'.subtype).toList).length := by
    rw [List.length_append, List.length_append, length_hexText h.type, length_hexText h.subtype,
      length_hexText h'.type, length_hexText h'.subtype]
  obtain ⟨hfront, hback⟩ := List.append_inj' hlist (congrArg (· + 1) hdigits)
  obtain ⟨htype, hsubtype⟩ := List.append_inj' (List.cons.inj hback).2
    ((length_hexText h.subtype).trans (length_hexText h'.subtype).symm)
  have hapid := String.toList_inj.mp (List.append_cancel_left hfront)
  exact PacketKey.ext (Text.toString_int_injective hapid) (hexText_inj h.type h'.type htype)
    (hexText_inj h.subtype h'.subtype hsubtype)

/-! ### Their fields -/

theorem getLast?_of_mem_fieldNames {name : String} (h : name ∈ k.fieldNames) :
    name.toList.getLast? = some '1' ∨ name.toList.getLast? = some '2' := by
  rcases List.mem_cons.mp h with rfl | h
  · exact .inl (by simp [String.toList_append])
  · obtain rfl := List.mem_singleton.mp h
    exact .inr (by simp [String.toList_append])

/-- The parameters that packets show in their headers are no fields. -/
theorem not_mem_fieldNames_of_header {name : String}
    (h : name ∈ PacketHeader.names ++ PacketHeader.echoedNames) : name ∉ k.fieldNames := by
  have hlast : ∀ n ∈ PacketHeader.names ++ PacketHeader.echoedNames,
      n.toList.getLast? ≠ some '1' ∧ n.toList.getLast? ≠ some '2' := by decide +kernel
  intro hfield
  rcases getLast?_of_mem_fieldNames hfield with hone | htwo
  · exact (hlast name h).1 hone
  · exact (hlast name h).2 htwo

/-- A name of a field is that of the kind with four letters after it. -/
theorem exists_suffix_of_mem_fieldNames {name : String} (h : name ∈ k.fieldNames) :
    ∃ suffix : List Char, suffix.length = 4 ∧ name.toList = k.groupName.toList ++ suffix := by
  rcases List.mem_cons.mp h with rfl | h
  · exact ⟨"_pi1".toList, by decide, String.toList_append⟩
  · obtain rfl := List.mem_singleton.mp h
    exact ⟨"_pi2".toList, by decide, String.toList_append⟩

/-- **Different kinds have different fields.** -/
theorem not_mem_fieldNames_of_ne (h : k.Octets) (h' : k'.Octets) (hne : k ≠ k') {name : String}
    (hname : name ∈ k.fieldNames) : name ∉ k'.fieldNames := by
  intro hname'
  obtain ⟨suffix, hlength, hlist⟩ := exists_suffix_of_mem_fieldNames hname
  obtain ⟨suffix', hlength', hlist'⟩ := exists_suffix_of_mem_fieldNames hname'
  have hgroup := (List.append_inj' (hlist.symm.trans hlist') (hlength.trans hlength'.symm)).1
  exact hne (groupName_inj h h' (String.toList_inj.mp hgroup))

theorem pi1_ne_pi2 (k : PacketKey) : k.groupName ++ "_pi1" ≠ k.groupName ++ "_pi2" := by
  intro h
  exact absurd ((String.append_right_inj _).mp h) (by decide)

end PacketKey

/-! ## Names with the number of a packet -/

/-- A name with the number of a packet after it. -/
def withNumber (name : String) (spid : Int) : String := s!"{name}_spid_{spid}"

/-- A name that looks as if the number of a packet came after it. -/
def Suffixed (name : String) : Prop := ∃ base spid, name = withNumber base spid

theorem mem_toString_int {n : Int} {c : Char} (h : c ∈ (toString n).toList) :
    c.isDigit = true ∨ c = '-' := by
  have hdigit {m : Nat} (hc : c ∈ (Nat.repr m).toList) : c.isDigit = true := by
    rw [Nat.toList_repr] at hc
    exact Nat.isDigit_of_mem_toDigits (by decide) (by decide) hc
  cases n with
  | ofNat m => exact .inl (hdigit h)
  | negSucc m =>
      have hc : c ∈ ("-" ++ (m + 1).repr).toList := h
      rw [String.toList_append] at hc
      rcases List.mem_append.mp hc with hc | hc
      · exact .inr (by simpa using hc)
      · exact .inl (hdigit hc)

theorem ne_underscore_of_mem_int {n : Int} : ∀ c ∈ (toString n).toList, c ≠ '_' := by
  rintro c hc rfl
  exact absurd (mem_toString_int hc) (by decide)

/-- A list has one last underscore. -/
theorem append_underscore_inj {xs ys xs' ys' : List Char}
    (h : xs ++ '_' :: ys = xs' ++ '_' :: ys') (hy : ∀ c ∈ ys, c ≠ '_') (hy' : ∀ c ∈ ys', c ≠ '_') :
    xs = xs' ∧ ys = ys' := by
  have hlast (xs : List Char) {ys : List Char} (hy : ∀ c ∈ ys, c ≠ '_') :
      (xs ++ '_' :: ys).reverse.takeWhile (· ≠ '_') = ys.reverse := by
    rw [List.reverse_append, List.reverse_cons, List.append_assoc, List.takeWhile_append_of_pos
      fun c hc => decide_eq_true (hy c (List.mem_reverse.mp hc))]
    simp
  have hback := hlast xs hy
  rw [h, hlast _ hy', List.reverse_inj] at hback
  subst hback
  exact ⟨List.append_cancel_right h, rfl⟩

theorem toList_withNumber (name : String) (spid : Int) :
    (withNumber name spid).toList =
      (name.toList ++ "_spid".toList) ++ '_' :: (toString spid).toList := by
  simp [withNumber, String.toList_append, toString]

/-- **A name with a number says which number.** -/
theorem withNumber_inj {name name' : String} {m n : Int}
    (h : withNumber name m = withNumber name' n) : m = n := by
  have hlist := congrArg String.toList h
  rw [toList_withNumber, toList_withNumber] at hlist
  have hback := (append_underscore_inj hlist ne_underscore_of_mem_int ne_underscore_of_mem_int).2
  exact Text.toString_int_injective (String.toList_inj.mp hback)

/-- Before the last underscore of the name of a kind there is a digit, and no letter. -/
theorem PacketKey.not_suffixed_groupName {k : PacketKey} (h : k.Octets) :
    ¬ Suffixed k.groupName := by
  rintro ⟨base, spid, hname⟩
  have hlist := congrArg String.toList hname
  rw [toList_groupName, toList_withNumber] at hlist
  have hdigits : ∀ c ∈ (hexText k.type).toList ++ (hexText k.subtype).toList, c ≠ '_' := by
    intro c hc
    rcases List.mem_append.mp hc with hc | hc
    · exact ne_underscore_of_mem_hexText h.type c hc
    · exact ne_underscore_of_mem_hexText h.subtype c hc
  have hfront := (append_underscore_inj hlist hdigits ne_underscore_of_mem_int).1
  have hne : (toString k.apid).toList ≠ [] := by
    intro hnil
    have hread := Text.integer?_toString k.apid
    rw [hnil] at hread
    cases hread
  have hlast := congrArg List.getLast? hfront
  rw [List.getLast?_append_of_ne_nil _ hne, List.getLast?_append_of_ne_nil _ (by decide)] at hlast
  have hmem : 'd' ∈ (toString k.apid).toList := List.mem_of_getLast? hlast
  exact absurd (mem_toString_int hmem) (by decide)

theorem not_suffixed_root : ¬ Suffixed rootContainerName := by
  rintro ⟨base, spid, hname⟩
  have hmem : '_' ∈ rootContainerName.toList := by
    rw [hname, toList_withNumber]
    exact List.mem_append_right _ List.mem_cons_self
  exact absurd hmem (by decide)

theorem PacketKey.groupName_ne_root (k : PacketKey) : k.groupName ≠ rootContainerName := by
  intro hname
  have hmem : '_' ∈ rootContainerName.toList := by
    rw [← hname, toList_groupName]
    exact List.mem_append_right _ List.mem_cons_self
  exact absurd hmem (by decide)

end MissionBase
