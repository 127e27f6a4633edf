import MissionBase.Proofs.Compatibility
import MissionBase.Proofs.Turns

/-!
# Where records have their turn

What can be refused at a record is judged by the draft where the record has its turn. Such a point
is there whether or not the scan gets to its end. It is also said here which numbers can be refused
for their type: none for want of a natural one.
-/

namespace MissionBase

namespace Run

variable {σ : Type} {setting : Setting} {unit : Row → Build σ Unit} {table : String} {row : Row}
  {d t : Draft σ}

/-- A record of a table has its turn in a draft, in a scan that begins in another one. -/
def ScanReaches (setting : Setting) (table : String) (unit : Row → Build σ Unit) (d : Draft σ)
    (row : Row) (t : Draft σ) : Prop :=
  ∃ rows, Build.rows setting table = .ok rows ∧ (row, t) ∈ turns setting unit rows d

/-- What every record keeps, however it ends, holds at every turn. -/
theorem turns_keep {P : Draft σ → Prop}
    (hrecord : ∀ d e, P d → P { d with errors := d.errors ++ [e] })
    (hunit : ∀ row d, P d → Ends (unit row) d (fun _ => P) P) :
    ∀ {rows : List Row} {d : Draft σ}, P d → ∀ turn ∈ turns setting unit rows d, P turn.2
  | [], _, _, _, hmem => nomatch hmem
  | row :: rest, d, hd, turn, hmem => by
      unfold turns at hmem
      rcases List.mem_cons.mp hmem with rfl | hmem
      · exact hd
      · split at hmem
        · rename_i u hu
          obtain ⟨_, hu⟩ := after?_eq_some.mp hu
          have hnext : P u := ((hunit row d hd).recover hrecord).of_ok hu
          exact turns_keep hrecord hunit hnext turn hmem
        · cases hmem

/-- **What every record keeps, however it ends, holds where a record has its turn.** -/
theorem ScanReaches.keeps {P : Draft σ → Prop} (h : ScanReaches setting table unit d row t)
    (hrecord : ∀ d e, P d → P { d with errors := d.errors ++ [e] })
    (hunit : ∀ row d, P d → Ends (unit row) d (fun _ => P) P) (hd : P d) : P t := by
  obtain ⟨rows, -, hmem⟩ := h
  exact turns_keep hrecord hunit hd (row, t) hmem

/-- A record that is refused, found among the turns of a scan. -/
theorem exists_refused (h : ((Build.rows setting table).toOption.any fun rows =>
    (turns setting unit rows d).any fun turn => (error? (unit turn.1) turn.2).isSome) = true) :
    ∃ row t e u, ScanReaches setting table unit d row t ∧ unit row t = .error e u := by
  obtain ⟨rows, hrows, h⟩ := (Option.any_eq_true _ _).mp h
  obtain ⟨⟨row, t⟩, hturn, h⟩ := List.any_eq_true.mp h
  obtain ⟨e, he⟩ := Option.isSome_iff_exists.mp h
  obtain ⟨u, hu⟩ := error?_eq_some.mp he
  exact ⟨row, t, e, u, ⟨rows, eq_ok_of_toOption hrows, hturn⟩, hu⟩

/-- A sequence of results that may be errors fails where one of its parts does. -/
theorem except_bind_eq_error {α β : Type} {x : Except Error α} {f : α → Except Error β}
    {e : Error} :
    (x >>= f) = .error e ↔ x = .error e ∨ ∃ a, x = .ok a ∧ f a = .error e := by
  cases x with
  | ok a =>
      show f a = .error e ↔ _
      simp
  | error e' =>
      show (Except.error e' : Except Error β) = .error e ↔ _
      simp

end Run

/-- A key that has been set is there, and those that were there stay. -/
theorem Index.has_set {κ α : Type} [DecidableEq κ] {index : Index κ α} {key k : κ} (x : α)
    (h : index.has k = true ∨ k = key) : (index.set key x).has k = true := by
  unfold Index.has at h ⊢
  by_cases hk : k = key
  · rw [hk, Index.find?_set_self]
    rfl
  · rw [Index.find?_set_of_ne index hk]
    exact h.resolve_right hk

/-! ## Numbers have a natural type -/

/-- An encoding of numbers has a natural type. -/
theorem ValueType.exists_natural {e : Encoding} (h : e.isNumeric = true) :
    ∃ value, natural? e = some value := by
  cases e with
  | unsignedInteger size => exact ⟨_, rfl⟩
  | signedInteger size => exact ⟨_, rfl⟩
  | float size format => exact ⟨_, rfl⟩
  | _ => cases h

namespace ParameterRecord

open Run

variable {r : ParameterRecord} {calibrations : Registry} {epoch : Epoch} {e : Error}

/-- **A number is refused for its encoding or for its calibration**, and never for want of a natural
type. -/
theorem numericType_eq_error (h : r.numericType calibrations epoch = .error e)
    (hptc : 2 ≤ r.ptc ∧ r.ptc ≤ 5) :
    r.encoding = .error e ∨ ∃ encoding, r.encoding = .ok encoding ∧
      r.calibratedType calibrations encoding = .error e := by
  unfold numericType at h
  rcases except_bind_eq_error.mp h with hencoding | ⟨encoding, hencoding, h⟩
  · exact .inl hencoding
  · refine .inr ⟨encoding, hencoding, ?_⟩
    dsimp only at h
    rw [if_neg (by omega), if_pos hptc] at h
    split at h
    · exact h
    · obtain ⟨value, hvalue⟩ := ValueType.exists_natural (isNumeric_of_encoding hencoding hptc)
      rw [hvalue] at h
      cases h

end ParameterRecord

/-- **A natural argument that is a number has a natural type.** -/
theorem CommandParameter.exists_naturalValue {p : CommandParameter} {tag : Int}
    {encoding : Encoding} (epoch : Epoch) (h : p.encoding tag = .ok encoding)
    (hptc : 2 ≤ p.ptc ∧ p.ptc ≤ 5) : ∃ value, p.naturalValue epoch encoding = .ok value := by
  obtain ⟨value, hvalue⟩ := ValueType.exists_natural (isNumeric_of_encoding h hptc)
  refine ⟨value, ?_⟩
  unfold naturalValue
  rw [if_neg (by omega), if_pos hptc, hvalue]

end MissionBase
