import MissionBase.Proofs.Telemetry.Expansion
import MissionBase.Proofs.Telemetry.Reading

/-!
# Where the elements of a packet stand

The containers of a structure put every item where its element says, with one exception. A group
of one element that counts nothing becomes a repeated entry with no bits between its occurrences,
so the offset of the element is kept before the first occurrence only. A nested container keeps the
offset of its first element inside, and there it counts every time.

The argument has two halves. `lay` is `decode` with that one exception; walking the containers of
a committed plan does exactly what `lay` does, by induction on the plan. And `lay` agrees with
`decode` precisely while no offset is dropped: both read equally many items whatever the offsets
are, so the first place where they differ is never made up for.
-/

namespace MissionBase.Telemetry

variable (item : VariableElement → EntryItem) (c : Content)

/-! ## With gaps dropped -/

/-- An item that is read again and again, with its gap before the first time only. -/
def layLone (x : EntryItem) (gap : Int) : Nat → Reading → Reading
  | 0, r => r
  | n + 1, r => (fun r => r.next c x (r.stop + 0))^[n] (r.next c x (r.stop + gap))

/-- Reads elements like `decode`, except for groups of one element that counts nothing. -/
def lay : List VariableElement → Reading → Reading
  | [], r => r
  | e :: rest, r =>
    lay (rest.drop e.groupSize)
      (match plainElement? (rest.take e.groupSize) with
        | some member =>
          layLone c (item member) member.offset (timesOf c e r.seen.length)
            (r.next c (item e) (r.stop + e.offset))
        | none =>
          (lay (rest.take e.groupSize))^[timesOf c e r.seen.length]
            (r.next c (item e) (r.stop + e.offset)))
  termination_by elements => elements.length
  decreasing_by all_goals simp only [List.length_cons, List.length_take, List.length_drop]; omega

/-- A condition on every one of some repetitions. -/
def EachTime (condition : Reading → Prop) (f : Reading → Reading) : Nat → Reading → Prop
  | 0, _ => True
  | n + 1, r => condition r ∧ EachTime condition f n (f r)

/--
**No gap is dropped.** Whenever a group of one element that counts nothing is reached, it is read
at most once or its element has no offset.
-/
def Steady : List VariableElement → Reading → Prop
  | [], _ => True
  | e :: rest, r =>
    (match plainElement? (rest.take e.groupSize) with
      | some member => timesOf c e r.seen.length ≤ 1 ∨ member.offset = 0
      | none =>
        EachTime (Steady (rest.take e.groupSize)) (decode item c (rest.take e.groupSize))
          (timesOf c e r.seen.length) (r.next c (item e) (r.stop + e.offset))) ∧
    Steady (rest.drop e.groupSize)
      ((decode item c (rest.take e.groupSize))^[timesOf c e r.seen.length]
        (r.next c (item e) (r.stop + e.offset)))
  termination_by elements => elements.length
  decreasing_by all_goals simp only [List.length_cons, List.length_take, List.length_drop]; omega

/-! ## Readers that differ in positions only -/

/--
Two readers that add equally many items to what has been read, and the same ones at the same bits
exactly under a condition.
-/
structure Twins (f g : Reading → Reading) (condition : Reading → Prop) : Prop where
  /-- Numbers of items do not depend on bits. -/
  length : ∀ r q, r.seen.length = q.seen.length → (f r).seen.length = (g q).seen.length
  left : ∀ r, r.seen <+: (f r).seen
  right : ∀ r, r.seen <+: (g r).seen
  agree : ∀ r, condition r → f r = g r
  differ : ∀ r, (f r).seen = (g r).seen → condition r

namespace Twins

variable {f g f' g' : Reading → Reading} {S T : Reading → Prop}

theorem congr (h : Twins f g S) (hf : ∀ r, f' r = f r) (hg : ∀ r, g' r = g r)
    (hiff : ∀ r, T r ↔ S r) : Twins f' g' T := by
  obtain rfl : f' = f := funext hf
  obtain rfl : g' = g := funext hg
  exact ⟨h.length, h.left, h.right, fun r hr => h.agree r ((hiff r).mp hr),
    fun r hr => (hiff r).mpr (h.differ r hr)⟩

theorem refl : Twins (fun r => r) (fun r => r) (fun _ => True) :=
  ⟨fun _ _ h => h, fun _ => List.prefix_rfl, fun _ => List.prefix_rfl, fun _ _ => rfl,
    fun _ _ => trivial⟩

/-- **Once apart, never together again.** What is read first stays a beginning of what is read in
the end, and has the same length on both sides. -/
theorem comp (h : Twins f g S) (h' : Twins f' g' T) :
    Twins (fun r => f' (f r)) (fun r => g' (g r)) (fun r => S r ∧ T (g r)) where
  length r q hrq := h'.length _ _ (h.length r q hrq)
  left r := (h.left r).trans (h'.left (f r))
  right r := (h.right r).trans (h'.right (g r))
  agree r hr := by rw [h.agree r hr.1, h'.agree (g r) hr.2]
  differ r hr := by
    have hleft : (f r).seen <+: (g' (g r)).seen := hr ▸ h'.left (f r)
    have hfirst : (f r).seen = (g r).seen :=
      (List.prefix_of_prefix_length_le hleft (h'.right (g r))
        (Nat.le_of_eq (h.length r r rfl))).eq_of_length (h.length r r rfl)
    have hS := h.differ r hfirst
    refine ⟨hS, h'.differ (g r) ?_⟩
    rw [← hr, h.agree r hS]

theorem iterate (h : Twins f g S) : ∀ n, Twins (f^[n]) (g^[n]) (EachTime S g n)
  | 0 => refl
  | n + 1 => by
      rw [Function.iterate_succ, Function.iterate_succ]
      exact h.comp (iterate h n)

/-- Readers may choose what to do by the number of items read so far. -/
theorem choice {F G : Nat → Reading → Reading} {C : Nat → Reading → Prop}
    (h : ∀ n, Twins (F n) (G n) (C n)) :
    Twins (fun r => F r.seen.length r) (fun r => G r.seen.length r)
      (fun r => C r.seen.length r) where
  length r q hrq := by
    show (F r.seen.length r).seen.length = (G q.seen.length q).seen.length
    rw [hrq]
    exact (h _).length r q hrq
  left r := (h _).left r
  right r := (h _).right r
  agree r hr := (h _).agree r hr
  differ r hr := (h _).differ r hr

/-- The same item after two gaps. -/
theorem next (x : EntryItem) (a b : Int) :
    Twins (fun r => r.next c x (r.stop + a)) (fun r => r.next c x (r.stop + b))
      (fun _ => a = b) where
  length r q hrq := by simp [hrq]
  left r := List.prefix_append _ _
  right r := List.prefix_append _ _
  agree r hr := by rw [hr]
  differ r hr := by
    have hlast := (List.append_inj_right hr rfl)
    simp only [List.cons.injEq, Prod.mk.injEq, true_and, and_true] at hlast
    omega

end Twins

theorem eachTime_const {p : Prop} (f : Reading → Reading) :
    ∀ (n : Nat) (r : Reading), EachTime (fun _ => p) f n r ↔ n = 0 ∨ p
  | 0, _ => by simp [EachTime]
  | n + 1, r => by
      rw [EachTime, eachTime_const f n (f r)]
      constructor
      · rintro ⟨hp, _⟩; exact Or.inr hp
      · rintro (h | hp)
        · omega
        · exact ⟨hp, Or.inr hp⟩

/-- A repeated item keeps its place when it is read at most once or has no gap. -/
theorem twins_layLone (x : EntryItem) (gap : Int) (n : Nat) :
    Twins (layLone c x gap n) ((fun r => r.next c x (r.stop + gap))^[n])
      (fun _ => n ≤ 1 ∨ gap = 0) := by
  cases n with
  | zero => exact Twins.refl.congr (fun _ => rfl) (fun _ => rfl) fun _ => by simp
  | succ n =>
      have h := (Twins.next c x gap gap).comp ((Twins.next c x 0 gap).iterate n)
      refine h.congr (fun _ => rfl) (fun r => by rw [Function.iterate_succ_apply]) fun r => ?_
      rw [eachTime_const]
      omega

theorem decode_singleton {e : VariableElement} (he : e.groupSize = 0) :
    decode item c [e] = fun r => r.next c (item e) (r.stop + e.offset) := by
  funext r
  have hnil : ∀ n : Nat, (decode item c [])^[n] = id := by
    intro n
    have hid : decode item c [] = id := by funext q; rw [decode]; rfl
    rw [hid, Function.iterate_id]
  rw [decode, he, List.take_zero, List.drop_zero, hnil, decode]
  rfl

/-- The repetitions of a group, with its gaps dropped where `lay` drops them. -/
theorem twins_group {members : List VariableElement}
    (h : Twins (lay item c members) (decode item c members) (Steady item c members)) (n : Nat) :
    Twins
      (fun r => match plainElement? members with
        | some member => layLone c (item member) member.offset n r
        | none => (lay item c members)^[n] r)
      ((decode item c members)^[n])
      (fun r => match plainElement? members with
        | some member => n ≤ 1 ∨ member.offset = 0
        | none => EachTime (Steady item c members) (decode item c members) n r) := by
  cases hplain : plainElement? members with
  | some member =>
      obtain ⟨rfl, hmember⟩ := plainElement?_eq_some.mp hplain
      rw [decode_singleton item c hmember]
      exact twins_layLone c (item member) member.offset n
  | none => exact h.iterate n

/-- **Dropped gaps are all that tells `lay` from `decode`.** -/
theorem twins_lay (elements : List VariableElement) :
    Twins (lay item c elements) (decode item c elements) (Steady item c elements) := by
  match elements with
  | [] =>
      exact Twins.refl.congr (fun r => by rw [lay]) (fun r => by rw [decode])
        fun r => by rw [Steady]
  | e :: rest =>
      have hbegin := Twins.next c (item e) e.offset e.offset
      have hgroup := twins_group item c (twins_lay (rest.take e.groupSize))
      have hdrop := twins_lay (rest.drop e.groupSize)
      have h := Twins.choice fun n => (hbegin.comp (hgroup (timesOf c e n))).comp hdrop
      refine h.congr (fun r => by rw [lay]) (fun r => by rw [decode]) fun r => ?_
      rw [Steady, eq_self, true_and]
  termination_by elements.length
  decreasing_by all_goals simp only [List.length_cons, List.length_take, List.length_drop]; omega

/-! ## Plans in the database -/

/--
`Realizes db low limit planned entries`: the entries are the planned ones, with the containers of
groups in the database. Their numbers lie in `[low, limit)`, and those of containers inside a
container are lower than its own, so that no container is inside itself.
-/
inductive Realizes (db : Database) (low : Nat) :
    Nat → List PlannedEntry → List Entry → Prop where
  | nil {limit : Nat} : Realizes db low limit [] []
  | single {limit : Nat} {entry : Entry} {planned : List PlannedEntry} {entries : List Entry} :
      Realizes db low limit planned entries →
      Realizes db low limit (.single entry :: planned) (entry :: entries)
  | nested {limit : Nat} {name : String} {inner planned : List PlannedEntry}
      {repetition : Repeat} {k : ContainerRef} {container : Container} {entries : List Entry} :
      low ≤ k.index → k.index < limit → db.containers.get? k = some container →
      Realizes db low k.index inner container.entries →
      Realizes db low limit planned entries →
      Realizes db low limit (.nested name inner repetition :: planned)
        ({ place := .previous 0, repetition := some repetition, item := .container k } :: entries)

/-- Only the containers in the range matter, and a wider range will do. -/
theorem Realizes.mono {db db' : Database} {low low' limit : Nat} {planned : List PlannedEntry}
    {entries : List Entry} (h : Realizes db low limit planned entries) (hlow : low' ≤ low) :
    ∀ {limit' : Nat}, limit ≤ limit' →
    (∀ k : ContainerRef, low ≤ k.index → k.index < limit →
      db'.containers.get? k = db.containers.get? k) →
    Realizes db' low' limit' planned entries := by
  induction h with
  | nil => intro _ _ _; exact .nil
  | single _ ih => intro _ hle hsame; exact .single (ih hle hsame)
  | nested hk hlimit hget _ _ ihInner ih =>
      intro limit' hle hsame
      refine .nested (by omega) (by omega) ((hsame _ hk hlimit).trans hget) ?_ (ih hle hsame)
      exact ihInner (Nat.le_refl _) fun k h1 h2 => hsame k h1 (by omega)

/-- A draft whose containers are those of another one, and more after them. -/
structure Extends (d d' : Draft TelemetryState) : Prop where
  size : d.database.containers.size ≤ d'.database.containers.size
  same : ∀ k : ContainerRef, k.index < d.database.containers.size →
    d'.database.containers.get? k = d.database.containers.get? k

theorem Extends.refl (d : Draft TelemetryState) : Extends d d := ⟨Nat.le_refl _, fun _ _ => rfl⟩

theorem Extends.trans {d d' d'' : Draft TelemetryState} (h : Extends d d') (h' : Extends d' d'') :
    Extends d d'' :=
  ⟨Nat.le_trans h.size h'.size, fun k hk =>
    (h'.same k (Nat.lt_of_lt_of_le hk h.size)).trans (h.same k hk)⟩

theorem extends_withGroup (d : Draft TelemetryState) (name : String) (entries : List Entry) :
    Extends d (withGroup d name entries) :=
  ⟨by simp [withGroup], fun _ hk => Catalog.get?_push_of_lt _ _ hk⟩

/-- **Committing a plan realizes it**, with new containers only. -/
theorem Commitment.realizes {planned : List PlannedEntry} {entries : List Entry}
    {d d' : Draft TelemetryState} (h : Commitment planned d entries d') :
    Extends d d' ∧ Realizes d'.database d.database.containers.size d'.database.containers.size
      planned entries := by
  induction h with
  | nil d => exact ⟨Extends.refl d, .nil⟩
  | single _ ih => exact ⟨ih.1, .single ih.2⟩
  | @nested name inner rest repetition inside entries d d₁ d' _ _ _ ihInner ih =>
      obtain ⟨hext₁, hreal₁⟩ := ihInner
      obtain ⟨hext₃, hreal₃⟩ := ih
      have hext₂ := extends_withGroup d₁ name inside
      -- the new container comes after those inside it and before those of the other entries
      have hnext : d₁.database.containers.next.index = d₁.database.containers.size := rfl
      have hsize : (withGroup d₁ name inside).database.containers.size =
          d₁.database.containers.size + 1 := Catalog.size_push _ _
      have hsize₁ := hext₁.size
      have hsize₃ := hext₃.size
      have hget := (hext₃.same d₁.database.containers.next (by omega)).trans
        (Catalog.get?_push_next _ _)
      refine ⟨hext₁.trans (hext₂.trans hext₃), .nested ?_ ?_ hget ?_ ?_⟩
      · omega
      · omega
      · refine hreal₁.mono (Nat.le_refl _) (by omega) fun q _ hq => ?_
        exact (hext₃.same q (by omega)).trans (hext₂.same q hq)
      · exact hreal₃.mono (by omega) (Nat.le_refl _) fun _ _ _ => rfl

/-! ## Walking a realized plan -/

theorem timesOf_eq {counter : VariableElement} {x : EntryItem} {count : RepeatCount}
    (h : Counts counter x count) (gap : Nat) (seen : List (EntryItem × Int)) (bit : Int) :
    occurrences? c (seen ++ [(x, bit)]) (some ⟨count, gap⟩) =
      some (timesOf c counter seen.length) := by
  cases count with
  | fixed n =>
      obtain ⟨hpos, heq, _⟩ := h
      rw [timesOf, if_pos hpos, heq]
      rfl
  | dynamic p =>
      obtain ⟨hle, rfl⟩ := h
      rw [timesOf, if_neg (by omega)]
      show (latest? p _).map c.value = _
      rw [latest?_concat]
      rfl

/-- Items that are no containers are read as they stand. -/
theorem walkItem_eq {db : Database} {x : EntryItem} (hx : ∀ k, x ≠ .container k)
    (inside : List Entry → Int → Reading → Option Reading) (bit : Int) (r : Reading) :
    walkItem db c inside x bit r = some (r.next c x bit) := by
  cases x with
  | container k => exact absurd rfl (hx k)
  | parameter p => rfl
  | indirect s space => rfl

/-- Repetitions without gaps are an iteration. -/
theorem repeated_eq_iterate {read : Int → Reading → Option Reading} {f : Reading → Reading}
    (h : ∀ r, read r.stop r = some (f r)) :
    ∀ (n : Nat) (r : Reading), repeated read 0 n r.stop r = some (f^[n] r)
  | 0, _ => rfl
  | n + 1, r => by
      have hgap : (f r).stop + ((0 : Nat) : Int) = (f r).stop := by omega
      rw [repeated, h r, Option.bind_some, hgap, repeated_eq_iterate h n (f r),
        Function.iterate_succ_apply]

theorem repeated_eq_layLone {read : Int → Reading → Option Reading} {x : EntryItem}
    (h : ∀ bit r, read bit r = some (r.next c x bit)) (gap : Int) (n : Nat) (r : Reading) :
    repeated read 0 n (r.stop + gap) r = some (layLone c x gap n r) := by
  cases n with
  | zero => rfl
  | succ n =>
      have hgap : ∀ q : Reading, q.stop + ((0 : Nat) : Int) = q.stop := fun q => by omega
      rw [repeated, h, Option.bind_some, hgap, layLone]
      refine repeated_eq_iterate (fun q => ?_) n _
      rw [h, Int.add_zero]

theorem lay_plain {e : VariableElement} {rest : List VariableElement} (h : e.groupSize = 0)
    (r : Reading) :
    lay item c (e :: rest) r = lay item c rest (r.next c (item e) (r.stop + e.offset)) := by
  have hnil : lay item c [] = id := by funext q; rw [lay]; rfl
  have hnone : plainElement? [] = none := rfl
  rw [lay, h, List.take_zero, List.drop_zero, hnone]
  dsimp only
  rw [hnil, Function.iterate_id]
  rfl

theorem lay_lone {counter e : VariableElement} {rest : List VariableElement}
    (h : counter.groupSize = 1) (he : e.groupSize = 0) (r : Reading) :
    lay item c (counter :: e :: rest) r =
      lay item c rest (layLone c (item e) e.offset (timesOf c counter r.seen.length)
        (r.next c (item counter) (r.stop + counter.offset))) := by
  have hplain : plainElement? ((e :: rest).take counter.groupSize) = some e := by
    rw [h]; exact plainElement?_eq_some.mpr ⟨rfl, he⟩
  rw [lay, hplain, h]
  rfl

theorem lay_nest {counter : VariableElement} {members rest : List VariableElement}
    (hlength : members.length = counter.groupSize) (hplain : plainElement? members = none)
    (r : Reading) :
    lay item c (counter :: (members ++ rest)) r =
      lay item c rest ((lay item c members)^[timesOf c counter r.seen.length]
        (r.next c (item counter) (r.stop + counter.offset))) := by
  rw [lay, ← hlength, List.take_left, List.drop_left, hplain]

/-- The entry of an element that is not repeated. -/
theorem walkEntry_element {db : Database} {x : EntryItem} (hx : ∀ k, x ≠ .container k)
    (inside : List Entry → Int → Reading → Option Reading) {start : Option Int} {origin : Int}
    {r : Reading} (hstart : ∀ bit, start = some bit → r.stop = origin + bit)
    (e : VariableElement) :
    walkEntry db c inside origin r ⟨placeOf start e, none, x⟩ =
      some (r.next c x (r.stop + e.offset)) := by
  have hbit : bitOf origin r.stop (placeOf start e) = r.stop + e.offset := by
    cases start with
    | none => rfl
    | some bit =>
        have := hstart bit rfl
        show origin + (bit + e.offset) = _
        omega
  show repeated (walkItem db c inside x) 0 1 (bitOf origin r.stop (placeOf start e)) r = _
  rw [hbit, repeated, walkItem_eq c hx]
  rfl

/-- A repeated entry right after its counter. The counter is the item read last, so a count by its
parameter is its value. -/
theorem walkEntry_counted {counter : VariableElement} {x : EntryItem} {count : RepeatCount}
    (hcount : Counts counter x count) (db : Database)
    (inside : List Entry → Int → Reading → Option Reading) (origin bit gap : Int) (y : EntryItem)
    (r : Reading) :
    walkEntry db c inside origin (r.next c x bit) ⟨.previous gap, some ⟨count, 0⟩, y⟩ =
      repeated (walkItem db c inside y) 0 (timesOf c counter r.seen.length)
        ((r.next c x bit).stop + gap) (r.next c x bit) := by
  have htimes := timesOf_eq c hcount 0 r.seen bit
  rw [← Reading.seen_next] at htimes
  show (occurrences? c (r.next c x bit).seen (some ⟨count, 0⟩)).bind _ = _
  rw [htimes]
  rfl

/--
**Walking a realized plan is laying its elements.** The induction is on the plan. A nested container
is walked with less depth, which suffices because the containers in it have lower numbers.
-/
theorem walk_realized {s : Surroundings} (hitem : ∀ e x, s.item e.name e.location = .ok x →
      item e = x ∧ ∀ k, x ≠ .container k)
    {db : Database} {low : Nat} {parent : String} {start : Option Int} {n m : Nat}
    {elements : List VariableElement} {planned : List PlannedEntry}
    (hplan : Planned s parent start n elements planned m) :
    ∀ {limit depth : Nat} {entries : List Entry}, Realizes db low limit planned entries →
    limit ≤ depth → ∀ (origin : Int) (r : Reading),
    (∀ bit, start = some bit → r.stop = origin + bit) →
    entries.foldlM (walkEntry db c (walk db c depth) origin) r = some (lay item c elements r) := by
  induction hplan with
  | nil =>
      intro limit depth entries hreal _ origin r _
      cases hreal
      rw [lay]
      rfl
  | @plain _ _ _ _ e x rest _ hsize hx _ ih =>
      intro limit depth entries hreal hdepth origin r hstart
      obtain ⟨rfl, hcontainer⟩ := hitem e x hx
      cases hreal with
      | single hreal =>
          rw [List.foldlM_cons, walkEntry_element c hcontainer _ hstart, lay_plain item c hsize]
          exact ih hreal hdepth origin _ fun _ h => absurd h (by simp)
  | @lone _ _ _ _ counter e count x y rest _ hsize he hx hcount hy _ ih =>
      intro limit depth entries hreal hdepth origin r hstart
      obtain ⟨rfl, hcontainer⟩ := hitem counter x hx
      obtain ⟨rfl, hcontainer'⟩ := hitem e y hy
      cases hreal with
      | single hreal =>
        cases hreal with
        | single hreal =>
          rw [List.foldlM_cons, walkEntry_element c hcontainer _ hstart, lay_lone item c hsize he]
          show List.foldlM _ _ _ = _
          rw [List.foldlM_cons, walkEntry_counted c hcount,
            repeated_eq_layLone c (walkItem_eq c hcontainer' _)]
          exact ih hreal hdepth origin _ fun _ h => absurd h (by simp)
  | @nest _ _ _ _ _ counter count x members rest inner _ hpos hlength hplain hx hcount _ _ _
      ihInner ih =>
      intro limit depth entries hreal hdepth origin r hstart
      obtain ⟨rfl, hcontainer⟩ := hitem counter x hx
      cases hreal with
      | single hreal =>
        cases hreal with
        | @nested _ _ _ _ _ k container _ hlow hlimit hget hinner hreal =>
          obtain ⟨depth, rfl⟩ : ∃ n, depth = n + 1 := ⟨depth - 1, by omega⟩
          have hgroup : ∀ q : Reading, walkItem db c (walk db c (depth + 1)) (.container k) q.stop q
              = some (lay item c members q) := by
            intro q
            rw [walkItem, hget, Option.bind_some, walk]
            refine ihInner hinner (by omega) q.stop q fun bit hbit => ?_
            cases hbit
            omega
          rw [List.foldlM_cons, walkEntry_element c hcontainer _ hstart,
            lay_nest item c hlength hplain]
          show List.foldlM _ _ _ = _
          rw [List.foldlM_cons, walkEntry_counted c hcount, Int.add_zero,
            repeated_eq_iterate hgroup]
          exact ih hreal hdepth origin _ fun _ h => absurd h (by simp)

/-- Where the first entry stands at a bit, it does not matter where the reading before it ended. -/
theorem walk_started {s : Surroundings} (hitem : ∀ e x, s.item e.name e.location = .ok x →
      item e = x ∧ ∀ k, x ≠ .container k)
    {db : Database} {low limit depth : Nat} {parent : String} {start : Int} {n m : Nat}
    {elements : List VariableElement} {planned : List PlannedEntry} {entries : List Entry}
    (hplan : Planned s parent (some start) n elements planned m)
    (hreal : Realizes db low limit planned entries) (hdepth : limit ≤ depth)
    (origin : Int) (r : Reading) :
    ∃ r', walk db c (depth + 1) entries origin r = some r' ∧
      r'.seen = (lay item c elements { r with stop := origin + start }).seen := by
  have hwalk := walk_realized item c hitem hplan hreal hdepth origin
    { r with stop := origin + start } fun bit hbit => by cases hbit; rfl
  have hfirst : ∀ (e : VariableElement) (x : EntryItem), s.item e.name e.location = .ok x →
      ∀ es : List Entry,
      walk db c (depth + 1) (⟨placeOf (some start) e, none, x⟩ :: es) origin r =
        walk db c (depth + 1) (⟨placeOf (some start) e, none, x⟩ :: es) origin
          { r with stop := origin + start } := by
    intro e x hx es
    have hcontainer := (hitem e x hx).2
    have hentry : ∀ q : Reading, walkEntry db c (walk db c depth) origin q
        ⟨placeOf (some start) e, none, x⟩ = some (q.next c x (origin + (start + e.offset))) := by
      intro q
      show repeated (walkItem db c _ x) 0 1 (origin + (start + e.offset)) q = _
      rw [repeated, walkItem_eq c hcontainer]
      rfl
    rw [walk, List.foldlM_cons, hentry, walk, List.foldlM_cons, hentry]
    rfl
  cases hplan with
  | nil =>
      cases hreal
      exact ⟨r, rfl, by rw [lay]⟩
  | plain _ hx _ =>
      cases hreal with
      | single hreal => exact ⟨_, (hfirst _ _ hx _).trans hwalk, rfl⟩
  | lone _ _ hx _ _ _ =>
      cases hreal with
      | single hreal => exact ⟨_, (hfirst _ _ hx _).trans hwalk, rfl⟩
  | nest _ _ _ hx _ _ _ _ =>
      cases hreal with
      | single hreal => exact ⟨_, (hfirst _ _ hx _).trans hwalk, rfl⟩

/-! ## The layout of a structure -/

theorem entryItem_ne_container {state : TelemetryState} {db : Database} {name : String}
    {l : Location} {x : EntryItem} (h : entryItem state db name l = .ok x) (k : ContainerRef) :
    x ≠ .container k := by
  rintro rfl
  unfold entryItem at h
  cases hdeduced : state.deduced.find? name with
  | some record =>
      rw [hdeduced] at h
      dsimp only at h
      split at h <;> cases h
  | none =>
      rw [hdeduced] at h
      dsimp only at h
      split at h <;> cases h

/-- A plan runs on the numbers of groups alone. -/
theorem planned_eq_ok {α : Type} {plan : Plan α} {x : α} {d d' : Draft TelemetryState} :
    planned plan d = .ok x d' ↔ ∃ m, plan d.stage.groupCount = .ok x m ∧
      { d with stage := { d.stage with groupCount := m } } = d' := by
  unfold planned
  rw [Run.bind_eq_ok]
  constructor
  · rintro ⟨_, _, h1, h⟩
    obtain ⟨rfl, rfl⟩ := Run.stage_eq_ok.mp h1
    cases hplan : plan d.stage.groupCount with
    | error e m =>
        rw [hplan] at h
        obtain ⟨_, _, _, h⟩ := Run.bind_eq_ok.mp h
        exact (Run.throw_eq_ok.mp h).elim
    | ok y m =>
        rw [hplan] at h
        obtain ⟨_, _, h2, h⟩ := Run.bind_eq_ok.mp h
        obtain ⟨rfl, rfl⟩ := Run.pure_eq_ok.mp h
        exact ⟨m, rfl, Run.changeStage_eq_ok.mp h2⟩
  · rintro ⟨m, hplan, rfl⟩
    refine ⟨d.stage, d, Run.stage_eq_ok.mpr ⟨rfl, rfl⟩, ?_⟩
    rw [hplan]
    exact Run.bind_eq_ok.mpr
      ⟨(), _, Run.changeStage_eq_ok.mpr rfl, Run.pure_eq_ok.mpr ⟨rfl, rfl⟩⟩

/-- A structure that is accepted is a plan, realized and put after the entries of its container. -/
theorem expandStructure_eq_ok {container : ContainerRef} {start : Int}
    {elements : List VariableElement} {d d' : Draft TelemetryState}
    (h : expandStructure container start elements d = .ok () d') {k : Container}
    (hk : d.database.containers.get? container = some k) :
    ∃ planned m entries,
      Planned ⟨entryItem d.stage d.database, d.database.containers.has⟩ k.name (some start)
        d.stage.groupCount elements planned m ∧
      d'.database.containers.get? container = some { k with entries := k.entries ++ entries } ∧
      Realizes d'.database d.database.containers.size d'.database.containers.size planned
        entries := by
  unfold expandStructure at h
  obtain ⟨_, _, h1, h⟩ := Run.bind_eq_ok.mp h
  obtain ⟨rfl, rfl⟩ := Run.stage_eq_ok.mp h1
  obtain ⟨_, _, h2, h⟩ := Run.bind_eq_ok.mp h
  obtain ⟨rfl, rfl⟩ := Run.database_eq_ok.mp h2
  obtain ⟨planned, d1, h3, h⟩ := Run.bind_eq_ok.mp h
  obtain ⟨entries, d2, h4, h5⟩ := Run.bind_eq_ok.mp h
  rw [hk] at h3
  obtain ⟨m, hplan, rfl⟩ := planned_eq_ok.mp h3
  obtain ⟨hext, hreal⟩ := (commitment_of_eq_ok planned h4).realizes
  cases Run.changeDatabase_eq_ok.mp h5
  refine ⟨planned, m, entries, planned_of_eq_ok hplan, ?_, ?_⟩
  · have hsame := hext.same container (Catalog.lt_size_of_get? hk)
    show (d2.database.containers.modify container _).get? container = _
    rw [Catalog.get?_modify_self, hsame, hk]
    rfl
  · -- the container of the structure was there before all containers of groups
    have hlt := Catalog.lt_size_of_get? hk
    show Realizes _ d.database.containers.size
      (d2.database.containers.modify container _).size planned entries
    rw [Catalog.size_modify]
    have hother : ∀ q : ContainerRef, d.database.containers.size ≤ q.index →
        container.index ≠ q.index := fun q hq => by omega
    exact hreal.mono (Nat.le_refl _) (Nat.le_refl _) fun q hq _ =>
      Catalog.get?_modify_of_ne _ (hother q hq) _

/--
**Walking the containers of a structure gives what its elements say exactly while no gap is
dropped.** Whatever a packet holds, wherever its container begins and whatever was read before, the
walk goes through; it reads the elements where `decode` does if and only if no group of one element
with an offset is read more than once.
-/
theorem readEntries_eq_decode_iff {container : ContainerRef} {start : Int}
    {elements : List VariableElement} {d d' : Draft TelemetryState} {k : Container}
    (hk : d.database.containers.get? container = some k)
    (h : expandStructure container start elements d = .ok () d') :
    ∃ (item : VariableElement → EntryItem) (entries : List Entry),
      (∀ e ∈ elements, entryItem d.stage d.database e.name e.location = .ok (item e)) ∧
      d'.database.containers.get? container = some { k with entries := k.entries ++ entries } ∧
      ∀ (c : Content) (origin : Int) (r : Reading),
        ∃ r', readEntries d'.database c entries origin r = some r' ∧
          (r'.seen = (decode item c elements { r with stop := origin + start }).seen ↔
            Steady item c elements { r with stop := origin + start }) := by
  obtain ⟨planned, m, entries, hplan, hget, hreal⟩ := expandStructure_eq_ok h hk
  let item : VariableElement → EntryItem := fun e =>
    ((entryItem d.stage d.database e.name e.location).toOption).getD (.parameter ⟨0⟩)
  have hitem : ∀ (e : VariableElement) (x : EntryItem),
      entryItem d.stage d.database e.name e.location = .ok x →
        item e = x ∧ ∀ k, x ≠ .container k := by
    intro e x hx
    refine ⟨?_, entryItem_ne_container hx⟩
    show ((entryItem d.stage d.database e.name e.location).toOption).getD _ = x
    rw [hx]
    rfl
  refine ⟨item, entries, fun e he => ?_, hget, fun c origin r => ?_⟩
  · obtain ⟨x, hx⟩ := hplan.plannable.resolved e he
    rw [(hitem e x hx).1]
    exact hx
  · obtain ⟨r', hwalk, hseen⟩ :=
      walk_started item c hitem hplan hreal (Nat.le_refl _) origin r
    have htwins := twins_lay item c elements
    refine ⟨r', hwalk, ?_⟩
    rw [hseen]
    exact ⟨htwins.differ _, fun hsteady => by rw [htwins.agree _ hsteady]⟩

/-- A counter, and one element that it repeats, after a gap. -/
def countedPair (gap : Int) : List VariableElement :=
  [⟨⟨"vpd.dat", 1⟩, 1, 1, "N", 1, 0, 0⟩, ⟨⟨"vpd.dat", 2⟩, 1, 2, "A", 0, 0, gap⟩]

/-- A packet and two parameters without a layout. -/
def pairDraft : Draft TelemetryState where
  database := {
    name := "MIB"
    parameters := ⟨#[{ name := "N", type := ⟨0⟩ }, { name := "A", type := ⟨0⟩ }]⟩
    containers := ⟨#[{ name := "P" }]⟩ }
  stage := {}

/-- Two occurrences of an element with a gap do not stand where the element says. -/
theorem readEntries_ne_decode :
    ∃ d', expandStructure ⟨0⟩ 0 (countedPair 8) pairDraft = .ok () d' ∧
      pairDraft.database.containers.get? ⟨0⟩ = some { name := "P" } ∧
      ∃ (item : VariableElement → EntryItem) (entries : List Entry) (c : Content) (r' : Reading),
        (∀ e ∈ countedPair 8,
          entryItem pairDraft.stage pairDraft.database e.name e.location = .ok (item e)) ∧
        d'.database.containers.get? ⟨0⟩ = some { name := "P", entries := entries } ∧
        (∀ n, 1 ≤ c.value n) ∧ readEntries d'.database c entries 0 { stop := 0 } = some r' ∧
        r'.seen ≠ (decode item c (countedPair 8) { stop := 0 }).seen := by
  have hk : pairDraft.database.containers.get? ⟨0⟩ = some { name := "P" } := rfl
  have hok : (Run.after? (expandStructure ⟨0⟩ 0 (countedPair 8)) pairDraft).isSome = true := by
    decide +kernel
  obtain ⟨d', hafter⟩ := Option.isSome_iff_exists.mp hok
  obtain ⟨_, hrun⟩ := Run.after?_eq_some.mp hafter
  obtain ⟨item, entries, hitem, hget, hread⟩ := readEntries_eq_decode_iff hk hrun
  obtain ⟨r', hr', hiff⟩ := hread ⟨fun _ _ => 8, fun _ => 2⟩ 0 { stop := 0 }
  refine ⟨d', hrun, hk, item, entries, _, r', hitem, hget, fun _ => Nat.le_succ 1, hr', ?_⟩
  intro heq
  have hsteady := hiff.mp heq
  rw [countedPair, Steady] at hsteady
  rcases hsteady.1 with hle | hgap
  · exact absurd hle (by decide)
  · exact absurd hgap (by decide)

end MissionBase.Telemetry
