import Mathlib.Algebra.GroupWithZero.Nat
import Mathlib.Data.List.Nodup
import Mathlib.Data.Nat.Notation
import Mathlib.Logic.Function.Basic

/-!
# The ring buffer

A buffer of a fixed capacity that overwrites its oldest item.  The position of
the next write and the number of items carry their bounds, so every index the
operations compute is one of the array.  What the array stores of a sequence of
writes, and what reading it back from its oldest item gives, is stated for any
circular array, since the latency windows use one too.
-/

namespace Datafeed

structure RingBuffer (Item : Type) (capacity : ℕ) where
  data : Fin capacity → Item
  head : Fin capacity
  size : ℕ
  size_le : size ≤ capacity

namespace RingBuffer

variable {Item : Type} {capacity : ℕ} [NeZero capacity]

/-- An index modulo the capacity. -/
def slot (position : ℕ) : Fin capacity :=
  ⟨position % capacity, Nat.mod_lt _ (Nat.pos_of_neZero capacity)⟩

def empty [Inhabited Item] : RingBuffer Item capacity where
  data _ := default
  head := slot 0
  size := 0
  size_le := Nat.zero_le capacity

def push (item : Item) (ring : RingBuffer Item capacity) :
    RingBuffer Item capacity where
  data := Function.update ring.data ring.head item
  head := slot (ring.head + 1)
  size := if ring.size < capacity then ring.size + 1 else ring.size
  size_le := by
    split
    · next hroom => exact hroom
    · exact ring.size_le

def clear (ring : RingBuffer Item capacity) : RingBuffer Item capacity :=
  { ring with head := slot 0, size := 0, size_le := Nat.zero_le capacity }

/-- The items that `forEach` visits, in its order. -/
def forEach (ring : RingBuffer Item capacity) : List Item :=
  let start := (ring.head + capacity - ring.size) % capacity
  (List.range ring.size).map fun offset => ring.data (slot (start + offset))

def latest [Inhabited Item] (ring : RingBuffer Item capacity) : Item :=
  if ring.size = 0 then default
  else ring.data (slot (ring.head + capacity - 1))

/-- The slot before the one that follows `head` is `head`. -/
theorem slot_before_next (head : Fin capacity) :
    slot ((slot (head + 1) : Fin capacity) + capacity - 1) = head := by
  apply Fin.ext
  have hbound := head.isLt
  simp only [slot]
  by_cases hlast : (head : ℕ) + 1 < capacity
  · rw [Nat.mod_eq_of_lt hlast]
    have hsum : (head : ℕ) + 1 + capacity - 1 = head + capacity := by omega
    rw [hsum, Nat.add_mod_right, Nat.mod_eq_of_lt hbound]
  · have hfull : (head : ℕ) + 1 = capacity := by omega
    rw [hfull, Nat.mod_self, Nat.zero_add, Nat.mod_eq_of_lt (by omega)]
    omega

theorem latest_push [Inhabited Item] (item : Item)
    (ring : RingBuffer Item capacity) : (ring.push item).latest = item := by
  have hpositive := Nat.pos_of_neZero capacity
  have hnonempty : (ring.push item).size ≠ 0 := by
    simp only [push]
    split
    · omega
    · omega
  rw [latest, if_neg hnonempty]
  simp only [push]
  rw [slot_before_next, Function.update_self]

/-! ## What a circular array stores -/

theorem slot_add_capacity (position : ℕ) :
    (slot (position + capacity) : Fin capacity) = slot position :=
  Fin.ext (Nat.add_mod_right position capacity)

/-- Positions less than a capacity apart have slots of their own. -/
theorem slot_ne_of_lt {position other : ℕ} (horder : position < other)
    (hnear : other < position + capacity) :
    (slot position : Fin capacity) ≠ slot other := by
  intro hslot
  have hmod : position % capacity = other % capacity := congrArg Fin.val hslot
  have hdvd : capacity ∣ other - position :=
    Nat.dvd_of_mod_eq_zero (Nat.sub_mod_eq_zero_of_mod_eq hmod.symm)
  have hle : capacity ≤ other - position := Nat.le_of_dvd (by omega) hdvd
  omega

/-- The array after the writes of `history`, each into the slot of its
position: the last `capacity` of them can be read. -/
def Stores (data : Fin capacity → Item) (history : List Item) : Prop :=
  ∀ position (hposition : position < history.length),
    history.length ≤ position + capacity →
      data (slot position) = history[position]

theorem stores_nil (data : Fin capacity → Item) : Stores data [] :=
  fun position hposition => absurd hposition (Nat.not_lt_zero position)

theorem Stores.write {data : Fin capacity → Item} {history : List Item}
    (hstores : Stores data history) (item : Item) :
    Stores (Function.update data (slot history.length) item)
      (history ++ [item]) := by
  intro position hposition hrecent
  rw [List.length_append, List.length_singleton] at hposition hrecent
  rcases Nat.eq_or_lt_of_le (Nat.lt_succ_iff.mp hposition) with rfl | hlt
  · rw [Function.update_self, List.getElem_append_right (Nat.le_refl _)]
    simp
  · have hne : (slot position : Fin capacity) ≠ slot history.length :=
      slot_ne_of_lt hlt (by omega)
    rw [Function.update_of_ne hne, List.getElem_append_left hlt]
    exact hstores position hlt (by omega)

/-- The slot that is computed for an item from where the next write goes and the
number of items is the slot of its position. -/
theorem slot_start {length : ℕ} (offset : ℕ) :
    slot (((slot length : Fin capacity) + capacity - min length capacity) %
        capacity + offset) =
      (slot (length - capacity + offset) : Fin capacity) := by
  apply Fin.ext
  simp only [slot, Nat.mod_add_mod]
  by_cases hfull : capacity ≤ length
  · rw [Nat.min_eq_right hfull, Nat.add_sub_cancel, Nat.mod_add_mod]
    have hsplit : length + offset = length - capacity + offset + capacity := by
      omega
    rw [hsplit, Nat.add_mod_right]
  · have hroom : length < capacity := by omega
    have hle : length ≤ capacity := Nat.le_of_lt hroom
    rw [Nat.min_eq_left hle, Nat.mod_eq_of_lt hroom, Nat.add_sub_cancel_left,
      Nat.sub_eq_zero_of_le hle, Nat.zero_add, Nat.add_mod_left]

/-- Reading from the oldest slot on gives the last writes in their order. -/
theorem Stores.readBack {data : Fin capacity → Item} {history : List Item}
    (hstores : Stores data history) :
    ((List.range (min history.length capacity)).map fun offset =>
        data (slot (history.length - capacity + offset))) =
      history.drop (history.length - capacity) := by
  apply List.ext_getElem
  · rw [List.length_map, List.length_range, List.length_drop]
    omega
  · intro offset hoffset hdrop
    rw [List.length_drop] at hdrop
    simp only [List.getElem_map, List.getElem_range, List.getElem_drop]
    exact hstores _ (by omega) (by omega)

/-! ## Runs of the ring buffer -/

inductive Call (Item : Type)
  | push (item : Item)
  | clear

def apply (ring : RingBuffer Item capacity) :
    Call Item → RingBuffer Item capacity
  | .push item => ring.push item
  | .clear => ring.clear

/-- The items pushed since the last clear. -/
def pushedAfter (pushed : List Item) : Call Item → List Item
  | .push item => pushed ++ [item]
  | .clear => []

/-- The indices that `forEach` reads, in its order. -/
def indices (ring : RingBuffer Item capacity) : List (Fin capacity) :=
  let start := (ring.head + capacity - ring.size) % capacity
  (List.range ring.size).map fun offset => slot (start + offset)

theorem forEach_eq (ring : RingBuffer Item capacity) :
    ring.forEach = ring.indices.map ring.data := by
  rw [forEach, indices, List.map_map]
  rfl

/-- The buffer after the pushes of `pushed`. -/
structure Holds (ring : RingBuffer Item capacity) (pushed : List Item) :
    Prop where
  head : ring.head = slot pushed.length
  size : ring.size = min pushed.length capacity
  stores : Stores ring.data pushed

theorem Holds.apply {ring : RingBuffer Item capacity} {pushed : List Item}
    (hholds : ring.Holds pushed) (call : Call Item) :
    (ring.apply call).Holds (pushedAfter pushed call) := by
  cases call with
  | push item =>
      constructor
      · apply Fin.ext
        simp only [RingBuffer.apply, push, hholds.head, slot, pushedAfter,
          List.length_append, List.length_singleton, Nat.mod_add_mod]
      · simp only [RingBuffer.apply, push, hholds.size, pushedAfter,
          List.length_append, List.length_singleton]
        split <;> omega
      · simp only [RingBuffer.apply, push, hholds.head]
        exact hholds.stores.write item
  | clear => exact ⟨rfl, (Nat.zero_min capacity).symm, stores_nil _⟩

theorem holds_run [Inhabited Item] (calls : List (Call Item)) :
    (calls.foldl RingBuffer.apply
        (empty : RingBuffer Item capacity)).Holds
      (calls.foldl pushedAfter []) := by
  have hstart : (empty : RingBuffer Item capacity).Holds [] :=
    ⟨rfl, (Nat.zero_min capacity).symm, stores_nil _⟩
  generalize (empty : RingBuffer Item capacity) = ring at hstart ⊢
  generalize ([] : List Item) = pushed at hstart ⊢
  induction calls generalizing ring pushed with
  | nil => exact hstart
  | cons call calls ih => exact ih _ _ (hstart.apply call)

namespace Holds

variable {ring : RingBuffer Item capacity} {pushed : List Item}

theorem indices_eq (hholds : ring.Holds pushed) :
    ring.indices = (List.range (min pushed.length capacity)).map
      fun offset => slot (pushed.length - capacity + offset) := by
  simp only [indices, hholds.head, hholds.size, slot_start]

theorem forEach_eq (hholds : ring.Holds pushed) :
    ring.forEach = pushed.drop (pushed.length - capacity) := by
  rw [RingBuffer.forEach_eq, hholds.indices_eq, List.map_map]
  exact hholds.stores.readBack

/-- No index is read twice. -/
theorem indices_nodup (hholds : ring.Holds pushed) : ring.indices.Nodup := by
  rw [hholds.indices_eq]
  refine List.Nodup.map_on ?_ List.nodup_range
  intro first hfirst second hsecond hslot
  rw [List.mem_range] at hfirst hsecond
  by_contra hne
  rcases Nat.lt_or_gt_of_ne hne with hlt | hlt
  · exact slot_ne_of_lt (by omega) (by omega) hslot
  · exact slot_ne_of_lt (by omega) (by omega) hslot.symm

theorem latest_eq [Inhabited Item] (hholds : ring.Holds pushed) :
    ring.latest = pushed.getLastD default := by
  have hpositive := Nat.pos_of_neZero capacity
  rcases List.eq_nil_or_concat' pushed with rfl | ⟨earlier, item, rfl⟩
  · have hsize : ring.size = 0 := by rw [hholds.size, List.length_nil, Nat.zero_min]
    rw [latest, if_pos hsize]
    rfl
  · have hlength : (earlier ++ [item]).length = earlier.length + 1 := by
      rw [List.length_append, List.length_singleton]
    have hsize : ring.size ≠ 0 := by
      rw [hholds.size, hlength]
      omega
    have hhead : ring.head = slot ((slot earlier.length : Fin capacity) + 1) := by
      rw [hholds.head, hlength]
      exact Fin.ext (Nat.mod_add_mod _ _ _).symm
    have hstored := hholds.stores earlier.length (by omega) (by omega)
    rw [latest, if_neg hsize, hhead, slot_before_next, hstored]
    simp

end Holds

/-- After any pushes and clears `forEach` visits the last `capacity` items
pushed since the last clear, oldest first and each slot once, `size` is their
number and `latest` the newest of them. -/
theorem run_spec [Inhabited Item] (calls : List (Call Item)) :
    let ring : RingBuffer Item capacity := calls.foldl apply empty
    let pushed := calls.foldl pushedAfter []
    ring.forEach = pushed.drop (pushed.length - capacity) ∧
      ring.size = min pushed.length capacity ∧
      ring.latest = pushed.getLastD default ∧
      ring.indices.Nodup ∧
      (ring.head : ℕ) < capacity ∧ ∀ index ∈ ring.indices, index < capacity := by
  intro ring pushed
  have hholds : ring.Holds pushed := holds_run calls
  exact ⟨hholds.forEach_eq, hholds.size, hholds.latest_eq,
    hholds.indices_nodup, ring.head.isLt, fun index _ => index.isLt⟩

/-- Two slots, three pushes after a clear: the oldest item is gone. -/
theorem run_spec_wrapped :
    let ring : RingBuffer ℕ 2 :=
      [Call.push 7, .clear, .push 1, .push 2, .push 3].foldl apply empty
    ring.forEach = [2, 3] ∧ ring.size = 2 ∧ ring.latest = 3 := by
  obtain ⟨hforEach, hsize, hlatest, -⟩ :=
    @run_spec ℕ 2 _ _ [.push 7, .clear, .push 1, .push 2, .push 3]
  exact ⟨hforEach, hsize, hlatest⟩

end RingBuffer

end Datafeed
