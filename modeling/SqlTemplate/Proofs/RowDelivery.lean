import Mathlib.Data.List.Forall2
import SqlTemplate.Batch

/-!
# What a row leaves in a handle

Handing a row to a handle empties the handle and then writes the prepared arguments one after the
other. So the handle holds the arguments of this row as far as they could be prepared, and nothing
else, whatever it held before. A row that does not exist is refused before the handle is touched.

The handles here accept what they are given; the rows, the registries and the adapters in them are
arbitrary.
-/

namespace SqlTemplate

namespace Handle

/-- The handle fills every slot and can be emptied. -/
def Obliging (h : Handle) : Prop :=
  h.refusedSlot = none ∧ h.refusesClear = false

/-- The slots hold the prepared arguments from the first slot on, and nothing else. -/
def Holds (h : Handle) (r : Registry) (arguments : List Resolved) : Prop :=
  ∀ slot, h.slots.get? slot = arguments[slot]?.bind fun argument => (r.prepare argument).toOption

/-- Handles that hold the same arguments have the same slots. -/
theorem Holds.unique {h h' : Handle} {r : Registry} {arguments : List Resolved}
    (hh : h.Holds r arguments) (hh' : h'.Holds r arguments) : h.slots = h'.slots :=
  Table.ext_get? fun slot => (hh slot).trans (hh' slot).symm

/-! ## Writing -/

/-- The handle with a value in a slot, which it does not refuse. -/
def write (h : Handle) (slot : Nat) (v : Value) : Handle :=
  { h with slots := h.slots.insert slot v, calls := h.calls ++ [.bind slot] }

/-- The handle with values in the slots from `slot` on. -/
def writeAll (h : Handle) (slot : Nat) : List Value → Handle
  | [] => h
  | v :: vs => (h.write slot v).writeAll (slot + 1) vs

/-- The handle with all slots empty. -/
def emptied (h : Handle) : Handle :=
  { h with slots := ∅, calls := h.calls ++ [.clear] }

section

variable {h : Handle}

theorem Obliging.bind (hh : h.Obliging) (slot : Nat) (v : Value) :
    h.bind slot v = .ok (h.write slot v) := by
  simp [Handle.bind, hh.1, write]

theorem Obliging.clear (hh : h.Obliging) : h.clear = .ok h.emptied := by
  simp [Handle.clear, hh.2, emptied]

theorem obliging_writeAll_iff (slot : Nat) (vs : List Value) :
    (h.writeAll slot vs).Obliging ↔ h.Obliging := by
  induction vs generalizing h slot with
  | nil => rfl
  | cons v vs ih => exact ih (slot + 1)

/-- A slot has the value that was written to it, or else what it had before. -/
theorem get?_writeAll (slot : Nat) (vs : List Value) (i : Nat) :
    (h.writeAll slot vs).slots.get? i =
      (if slot ≤ i then vs[i - slot]? else none).or (h.slots.get? i) := by
  induction vs generalizing h slot with
  | nil => simp [writeAll]
  | cons v vs ih =>
      rw [writeAll, ih, write, Table.get?_insert]
      rcases Nat.lt_trichotomy i slot with hlt | rfl | hlt
      · rw [if_neg (by omega), if_neg (by omega), if_neg (by omega)]
      · rw [if_neg (by omega), if_pos rfl, if_pos (Nat.le_refl _)]
        simp
      · rw [if_pos (by omega), if_neg (by omega), if_pos (by omega)]
        rw [show i - slot = i - (slot + 1) + 1 by omega, List.getElem?_cons_succ]

end

/-! ## Preparing and writing -/

variable {r : Registry} {sql : String} {h : Handle}

theorem exists_prepared {arguments : List Resolved}
    (hprepared : ∀ argument ∈ arguments, ∃ v, r.prepare argument = .ok v) :
    ∃ vs, List.Forall₂ (fun argument v => r.prepare argument = .ok v) arguments vs := by
  induction arguments with
  | nil => exact ⟨[], .nil⟩
  | cons argument rest ih =>
      obtain ⟨⟨v, hv⟩, hrest⟩ := List.forall_mem_cons.mp hprepared
      obtain ⟨vs, hvs⟩ := ih hrest
      exact ⟨v :: vs, .cons hv hvs⟩

/-- All arguments can be prepared, or there is a first one that cannot. -/
theorem prepared_or_first_failed (r : Registry) (arguments : List Resolved) :
    (∀ argument ∈ arguments, ∃ v, r.prepare argument = .ok v) ∨
      ∃ front argument rest cause, arguments = front ++ argument :: rest ∧
        (∀ argument ∈ front, ∃ v, r.prepare argument = .ok v) ∧
        r.prepare argument = .error cause := by
  induction arguments with
  | nil => exact .inl (by simp)
  | cons argument arguments ih =>
      cases hprepare : r.prepare argument with
      | error cause => exact .inr ⟨[], argument, arguments, cause, rfl, by simp, hprepare⟩
      | ok v =>
          rcases ih with hall | ⟨front, failed, rest, cause, rfl, hfront, hfailed⟩
          · exact .inl (List.forall_mem_cons.mpr ⟨⟨v, hprepare⟩, hall⟩)
          · exact .inr ⟨argument :: front, failed, rest, cause, rfl,
              List.forall_mem_cons.mpr ⟨⟨v, hprepare⟩, hfront⟩, hfailed⟩

theorem getElem?_prepared {arguments : List Resolved} {vs : List Value}
    (hvs : List.Forall₂ (fun argument v => r.prepare argument = .ok v) arguments vs) (i : Nat) :
    vs[i]? = arguments[i]?.bind fun argument => (r.prepare argument).toOption := by
  induction hvs generalizing i with
  | nil => rfl
  | cons hv hvs ih =>
      cases i with
      | zero => simp [hv, Except.toOption]
      | succ i => exact ih i

/-- Arguments that can be prepared are written one after the other. -/
theorem fill_prepared (hh : h.Obliging) {front : List Resolved} {vs : List Value}
    (hvs : List.Forall₂ (fun argument v => r.prepare argument = .ok v) front vs) (slot : Nat)
    (rest : List Resolved) :
    fill r sql slot h (front ++ rest) =
      fill r sql (slot + front.length) (h.writeAll slot vs) rest := by
  induction hvs generalizing h slot with
  | nil => rfl
  | @cons argument v front vs hv hvs ih =>
      have hwritten : (h.write slot v).Obliging := hh
      rw [List.cons_append, fill, hv]
      simp only [hh.bind]
      rw [ih hwritten, List.length_cons, writeAll, Nat.add_assoc, Nat.add_comm 1]

/-- An emptied handle holds what is written to it from the first slot on. -/
theorem holds_writeAll {arguments : List Resolved} {vs : List Value}
    (hvs : List.Forall₂ (fun argument v => r.prepare argument = .ok v) arguments vs) :
    (h.emptied.writeAll 0 vs).Holds r arguments := by
  intro slot
  rw [get?_writeAll, if_pos (Nat.zero_le slot), Nat.sub_zero, getElem?_prepared hvs]
  exact Option.or_none

end Handle

/-! ## One row -/

section

variable {r : RenderedBatch} {registry : Registry} {row : Nat} {h : Handle}
  {front rest : List Resolved}

/-- The failure of a row by one of its arguments. -/
def RenderedBatch.rowFailure (r : RenderedBatch) (row slot : Nat) (cause : Failure) : Failure :=
  .context ("While binding row " ++ toString row ++ " of the batch")
    (Handle.slotFailure r.entry.query.sql slot cause)

theorem bindRowTo_of_le (hrow : r.rows.length ≤ row) :
    r.bindRowTo row registry h = ⟨h, some (.rowOutOfRange row r.rows.length), []⟩ := by
  rw [RenderedBatch.bindRowTo, Handle.fillRow, List.getElem?_eq_none hrow]

/-- The front of a row that can be prepared is in the handle before the rest is looked at. -/
theorem bindRowTo_front (hh : h.Obliging) (hrow : r.rows[row]? = some (front ++ rest))
    (hfront : ∀ argument ∈ front, ∃ v, registry.prepare argument = .ok v) :
    ∃ h' : Handle, h'.Obliging ∧ h'.Holds registry front ∧
      let d := h'.fill registry r.entry.query.sql front.length rest
      r.bindRowTo row registry h = { d with
        failure := d.failure.map (.context ("While binding row " ++ toString row ++
          " of the batch")) } := by
  obtain ⟨vs, hvs⟩ := Handle.exists_prepared hfront
  have hemptied : h.emptied.Obliging := hh
  refine ⟨h.emptied.writeAll 0 vs, (Handle.obliging_writeAll_iff 0 vs).mpr hemptied,
    Handle.holds_writeAll hvs, ?_⟩
  rw [RenderedBatch.bindRowTo, Handle.fillRow, hrow]
  simp only [hh.clear, Handle.fill_prepared hemptied hvs, Nat.zero_add]

theorem bindRowTo_of_prepared (hh : h.Obliging) (hrow : r.rows[row]? = some front)
    (hfront : ∀ argument ∈ front, ∃ v, registry.prepare argument = .ok v) :
    (r.bindRowTo row registry h).failure = none ∧
      (r.bindRowTo row registry h).handle.Obliging ∧
      (r.bindRowTo row registry h).handle.Holds registry front := by
  rw [← List.append_nil front] at hrow
  obtain ⟨h', hh', hholds, heq⟩ := bindRowTo_front hh hrow hfront
  rw [heq]
  exact ⟨rfl, hh', hholds⟩

/-- The first argument that cannot be prepared ends the row and is named. -/
theorem bindRowTo_of_failed {argument : Resolved} {cause : Failure} (hh : h.Obliging)
    (hrow : r.rows[row]? = some (front ++ argument :: rest))
    (hfront : ∀ argument ∈ front, ∃ v, registry.prepare argument = .ok v)
    (hfailed : registry.prepare argument = .error cause) :
    (r.bindRowTo row registry h).failure = some (r.rowFailure row front.length cause) ∧
      (r.bindRowTo row registry h).handle.Obliging ∧
      (r.bindRowTo row registry h).handle.Holds registry front := by
  obtain ⟨h', hh', hholds, heq⟩ := bindRowTo_front hh hrow hfront
  rw [heq, Handle.fill, hfailed]
  exact ⟨rfl, hh', hholds⟩

end

/-! ## One row after the other -/

/-- A call that hands a row of a batch to a handle. -/
structure RowDelivery where
  rendered : RenderedBatch
  registry : Registry
  row : Nat

namespace RowDelivery

/-- Whether the batch has the row. -/
def InRange (c : RowDelivery) : Prop :=
  c.row < c.rendered.rows.length

/-- The handle after the call. -/
def perform (c : RowDelivery) (h : Handle) : Handle :=
  (c.rendered.bindRowTo c.row c.registry h).handle

theorem perform_of_not_inRange {c : RowDelivery} (hc : ¬c.InRange) (h : Handle) :
    c.perform h = h := by
  rw [perform, bindRowTo_of_le (Nat.not_lt.mp hc)]

/-- What the handle holds after a row that exists does not depend on the handle. -/
theorem perform_of_inRange {c : RowDelivery} (hc : c.InRange) :
    ∃ arguments, ∀ h : Handle, h.Obliging →
      (c.perform h).Obliging ∧ (c.perform h).Holds c.registry arguments := by
  obtain ⟨arguments, hrow⟩ : ∃ arguments, c.rendered.rows[c.row]? = some arguments :=
    ⟨_, List.getElem?_eq_getElem hc⟩
  rcases Handle.prepared_or_first_failed c.registry arguments with
    hall | ⟨front, argument, rest, cause, rfl, hfront, hfailed⟩
  · exact ⟨arguments, fun h hh => (bindRowTo_of_prepared hh hrow hall).2⟩
  · exact ⟨front, fun h hh => (bindRowTo_of_failed hh hrow hfront hfailed).2⟩

theorem obliging_perform (c : RowDelivery) {h : Handle} (hh : h.Obliging) :
    (c.perform h).Obliging := by
  by_cases hc : c.InRange
  · obtain ⟨arguments, hperform⟩ := perform_of_inRange hc
    exact (hperform h hh).1
  · rw [perform_of_not_inRange hc]
    exact hh

end RowDelivery

namespace Handle

/-- The handle after several calls, whether they fail or not. -/
def afterRows (h : Handle) (calls : List RowDelivery) : Handle :=
  calls.foldl (fun h c => c.perform h) h

theorem afterRows_append (h : Handle) (calls others : List RowDelivery) :
    h.afterRows (calls ++ others) = (h.afterRows calls).afterRows others :=
  List.foldl_append

theorem Obliging.afterRows {h : Handle} (hh : h.Obliging) (calls : List RowDelivery) :
    (h.afterRows calls).Obliging := by
  induction calls generalizing h with
  | nil => exact hh
  | cons c calls ih => exact ih (c.obliging_perform hh)

theorem afterRows_of_not_inRange (h : Handle) {calls : List RowDelivery}
    (hcalls : ∀ c ∈ calls, ¬c.InRange) : h.afterRows calls = h := by
  induction calls with
  | nil => rfl
  | cons c calls ih =>
      obtain ⟨hc, hcalls⟩ := List.forall_mem_cons.mp hcalls
      rw [afterRows, List.foldl_cons, RowDelivery.perform_of_not_inRange hc]
      exact ih hcalls

/-- The slots after a sequence of calls are those after the last call in range, on any handle. -/
theorem slots_afterRows {h h' : Handle} (hh : h.Obliging) (hh' : h'.Obliging)
    (earlier : List RowDelivery) {c : RowDelivery} (hc : c.InRange) {later : List RowDelivery}
    (hlater : ∀ c ∈ later, ¬c.InRange) :
    (h.afterRows (earlier ++ c :: later)).slots = (c.perform h').slots := by
  obtain ⟨arguments, hperform⟩ := RowDelivery.perform_of_inRange hc
  have hlast : h.afterRows (earlier ++ c :: later) = c.perform (h.afterRows earlier) := by
    rw [afterRows_append]
    exact afterRows_of_not_inRange _ hlater
  rw [hlast]
  exact (hperform _ (hh.afterRows earlier)).2.unique (hperform _ hh').2

end Handle

/-- Handing a row to a handle leaves nothing of what the handle held. A row that is out of range is
refused and the handle stays as it is. Otherwise the handle holds afterwards the prepared arguments
of the row: all of them, or those in front of the first one that cannot be prepared, whose failure
is that of the call. So after any calls the slots are a matter of the last one in range, whatever
the handle held and whatever rows of whatever batches it was given before. -/
theorem row_replaces_slots (r : RenderedBatch) (registry : Registry) (row : Nat) (h : Handle)
    (hh : h.Obliging) :
    let d := r.bindRowTo row registry h
    (r.rows.length ≤ row →
      d.handle = h ∧ d.failure = some (.rowOutOfRange row r.rows.length)) ∧
    (∀ arguments, r.rows[row]? = some arguments →
      (∀ argument ∈ arguments, ∃ v, registry.prepare argument = .ok v) →
      d.failure = none ∧ d.handle.Holds registry arguments) ∧
    (∀ front argument rest cause, r.rows[row]? = some (front ++ argument :: rest) →
      (∀ argument ∈ front, ∃ v, registry.prepare argument = .ok v) →
      registry.prepare argument = .error cause →
      d.failure = some (r.rowFailure row front.length cause) ∧ d.handle.Holds registry front) ∧
    (∀ calls, (∀ c ∈ calls, ¬RowDelivery.InRange c) → h.afterRows calls = h) ∧
    ∀ (h' : Handle) (earlier later : List RowDelivery), h'.Obliging → row < r.rows.length →
      (∀ c ∈ later, ¬c.InRange) →
      (h'.afterRows (earlier ++ ⟨r, registry, row⟩ :: later)).slots = d.handle.slots := by
  intro d
  refine ⟨fun hrow => ?_, fun arguments hrow hall => ?_,
    fun front argument rest cause hrow hfront hfailed => ?_,
    fun calls hcalls => h.afterRows_of_not_inRange hcalls,
    fun h' earlier later hh' hrow hlater => ?_⟩
  · have hd : d = ⟨h, some (.rowOutOfRange row r.rows.length), []⟩ := bindRowTo_of_le hrow
    exact ⟨congrArg Delivery.handle hd, congrArg Delivery.failure hd⟩
  · obtain ⟨hfailure, -, hholds⟩ := bindRowTo_of_prepared hh hrow hall
    exact ⟨hfailure, hholds⟩
  · obtain ⟨hfailure, -, hholds⟩ := bindRowTo_of_failed hh hrow hfront hfailed
    exact ⟨hfailure, hholds⟩
  · exact Handle.slots_afterRows hh' hh earlier (c := ⟨r, registry, row⟩) hrow hlater

/-- Two rows, the second one with a list, for which the standard registry has no adapter. -/
def RenderedBatch.withList : RenderedBatch :=
  ⟨⟨0, ⟨"insert into t values (?, ?)", .positional 2⟩⟩,
    [[.ofValue (.boolean (some true)), .ofValue (.varchar (some "x"))],
      [.ofValue (.boolean (some false)), .ofValue (.list none .null)]]⟩

/-- A handle with values of before in the slots 0 and 5. -/
def Handle.used : Handle :=
  { Handle.empty with
    slots := Table.ofList [(0, .varchar (some "old")), (5, .varchar (some "old"))] }

/-- The second row stops at its list: slot 0 is written, and of the first row and of what was there
before nothing is left. -/
theorem row_replaces_slots_interrupted :
    let r := RenderedBatch.withList
    let d := r.bindRowTo 1 .standard Handle.used
    Handle.used.Obliging ∧
    d.failure = some (r.rowFailure 1 1 (.unregistered (Value.list none .null).typeName "NULL")) ∧
    d.handle.slots.get? 0 = some (.boolean (some false)) ∧ d.handle.slots.get? 1 = none ∧
    d.handle.slots.get? 5 = none ∧
    (r.bindRowTo 0 .standard Handle.used).failure = none ∧
    (r.bindRowTo 0 .standard Handle.used).handle.slots.get? 1 = some (.varchar (some "x")) ∧
    (r.bindRowTo 2 .standard Handle.used).handle = Handle.used ∧
    (Handle.used.afterRows [⟨r, .standard, 0⟩, ⟨r, .standard, 1⟩, ⟨r, .empty, 2⟩]).slots =
      d.handle.slots := by
  intro r d
  have hused : Handle.used.Obliging := ⟨rfl, rfl⟩
  obtain ⟨-, -, hfailed, -, hlast⟩ := row_replaces_slots r .standard 1 Handle.used hused
  obtain ⟨-, hall, -⟩ := row_replaces_slots r .standard 0 Handle.used hused
  obtain ⟨hrange, -⟩ := row_replaces_slots r .standard 2 Handle.used hused
  obtain ⟨hfailure, hholds⟩ := hfailed [.ofValue (.boolean (some false))]
    (.ofValue (.list none .null)) [] _ rfl (by simpa using ⟨_, rfl⟩) rfl
  obtain ⟨hnone, hholds'⟩ := hall _ rfl (by simpa using ⟨⟨_, rfl⟩, ⟨_, rfl⟩⟩)
  refine ⟨hused, hfailure, hholds 0, hholds 1, hholds 5, hnone, hholds' 1,
    (hrange (by decide)).1, ?_⟩
  exact hlast Handle.used [⟨r, .standard, 0⟩] [⟨r, .empty, 2⟩] hused (by decide)
    (by simp [RowDelivery.InRange, r, RenderedBatch.withList])

end SqlTemplate
