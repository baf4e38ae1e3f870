import Mathlib

/-!
# Windows of a circular array

The live part of a ring buffer is the window of `count` cells that starts at
`head` and wraps around at `capacity`.  Reading it as a list turns the two ends
of the ring into the two ends of the list.
-/

namespace MotionSense
namespace Ring

/-- Cells `head, head + 1, …` of a circular array, `count` of them. -/
def window (cell : Nat → α) (capacity head count : Nat) : List α :=
  (List.range count).map fun index => cell ((head + index) % capacity)

/-- A physical position is live when the window covers it. -/
def Live (capacity head count position : Nat) : Prop :=
  ∃ index, index < count ∧ position = (head + index) % capacity

@[simp] theorem window_zero (cell : Nat → α) (capacity head : Nat) :
    window cell capacity head 0 = [] := rfl

@[simp] theorem length_window (cell : Nat → α) (capacity head count : Nat) :
    (window cell capacity head count).length = count := by
  simp [window]

/-- The last cell of a window is the one before its end. -/
theorem window_succ (cell : Nat → α) (capacity head count : Nat) :
    window cell capacity head (count + 1) =
      window cell capacity head count ++
        [cell ((head + count) % capacity)] := by
  simp [window, List.range_succ]

/-- Moving the head past the first cell leaves the rest of the window. -/
theorem window_succ_eq_cons
    (cell : Nat → α) (capacity head count : Nat) :
    window cell capacity head (count + 1) =
      cell (head % capacity) ::
        window cell capacity ((head + 1) % capacity) count := by
  simp only [window, List.range_succ_eq_map, List.map_cons, List.map_map,
    Nat.add_zero]
  congr 1
  apply List.map_congr_left
  intro index _
  simp only [Function.comp_apply]
  rw [Nat.mod_add_mod, Nat.succ_eq_add_one, Nat.add_right_comm, Nat.add_assoc]

/-- Windows over arrays that agree on the live cells are equal. -/
theorem window_congr
    {first second : Nat → α}
    {capacity head count : Nat}
    (agree : ∀ position, Live capacity head count position →
      first position = second position) :
    window first capacity head count = window second capacity head count := by
  apply List.map_congr_left
  intro index present
  exact agree _ ⟨index, List.mem_range.mp present, rfl⟩

/-- Two offsets less than a revolution apart name different cells. -/
theorem mod_ne_mod
    {capacity head first second : Nat}
    (ordered : first < second)
    (within : second < first + capacity) :
    (head + first) % capacity ≠ (head + second) % capacity := by
  intro equal
  have divides : capacity ∣ (head + second) - (head + first) :=
    (Nat.modEq_iff_dvd' (by omega)).mp equal
  have atLeast := Nat.le_of_dvd (by omega) divides
  omega

/-- The cell at the end of a window that is not full is not live. -/
theorem not_live_end
    {capacity count : Nat}
    (head : Nat)
    (room : count < capacity) :
    ¬Live capacity head count ((head + count) % capacity) := by
  rintro ⟨index, before, equal⟩
  exact mod_ne_mod before (by omega) equal.symm

/-- Past the head, the live cells are those of the remaining window. -/
theorem live_succ_iff
    {capacity head count position : Nat} :
    Live capacity head (count + 1) position ↔
      position = head % capacity ∨
        Live capacity ((head + 1) % capacity) count position := by
  constructor
  · rintro ⟨index, before, equal⟩
    cases index with
    | zero => exact Or.inl (by simpa using equal)
    | succ index =>
        refine Or.inr ⟨index, by omega, ?_⟩
        rw [equal, Nat.mod_add_mod]
        congr 1
        omega
  · rintro (equal | ⟨index, before, equal⟩)
    · exact ⟨0, by omega, by simpa using equal⟩
    · refine ⟨index + 1, by omega, ?_⟩
      rw [equal, Nat.mod_add_mod]
      congr 1
      omega

/-- The end of a window extends its live cells by one. -/
theorem live_succ_iff_end
    {capacity head count position : Nat} :
    Live capacity head (count + 1) position ↔
      Live capacity head count position ∨
        position = (head + count) % capacity := by
  constructor
  · rintro ⟨index, before, equal⟩
    rcases Nat.lt_succ_iff_lt_or_eq.mp before with earlier | last
    · exact Or.inl ⟨index, earlier, equal⟩
    · exact Or.inr (last ▸ equal)
  · rintro (⟨index, before, equal⟩ | equal)
    · exact ⟨index, by omega, equal⟩
    · exact ⟨count, by omega, equal⟩

/-- The head of a window is not one of its later cells. -/
theorem not_live_head
    {capacity count : Nat}
    (head : Nat)
    (room : count < capacity) :
    ¬Live capacity ((head + 1) % capacity) count (head % capacity) := by
  rintro ⟨index, before, equal⟩
  rw [Nat.mod_add_mod] at equal
  have apart : (head + 0) % capacity ≠ (head + (index + 1)) % capacity :=
    mod_ne_mod (by omega) (by omega)
  apply apart
  rw [Nat.add_zero, equal]
  congr 1
  omega

/-- The live positions, from the head on. -/
def positions (capacity head count : Nat) : List Nat :=
  (List.range count).map fun index => (head + index) % capacity

theorem window_eq_map_positions
    (cell : Nat → α) (capacity head count : Nat) :
    window cell capacity head count =
      (positions capacity head count).map cell := by
  simp [window, positions]

theorem mem_positions {capacity head count position : Nat} :
    position ∈ positions capacity head count ↔
      Live capacity head count position := by
  simp only [positions, List.mem_map, List.mem_range, Live]
  constructor
  · rintro ⟨index, before, equal⟩
    exact ⟨index, before, equal.symm⟩
  · rintro ⟨index, before, equal⟩
    exact ⟨index, before, equal.symm⟩

/-- A window that fits visits no cell twice. -/
theorem nodup_positions
    {capacity head count : Nat}
    (fits : count ≤ capacity) :
    (positions capacity head count).Nodup := by
  refine List.Nodup.map_on ?_ List.nodup_range
  intro first firstIn second secondIn equal
  rw [List.mem_range] at firstIn secondIn
  by_contra different
  rcases Nat.lt_or_gt_of_ne different with before | after
  · exact mod_ne_mod before (by omega) equal
  · exact mod_ne_mod after (by omega) equal.symm

/-- Visiting all cells or only the live ones gives the same values, when only
live cells have one. -/
theorem filterMap_range_perm
    (value : Nat → Option α)
    {capacity head count : Nat}
    (positive : 0 < capacity)
    (fits : count ≤ capacity)
    (occupied : ∀ position, position < capacity →
      ((value position).isSome ↔ Live capacity head count position)) :
    ((List.range capacity).filterMap value).Perm
      ((positions capacity head count).filterMap value) := by
  have same : ((List.range capacity).filter fun position =>
      (value position).isSome).Perm (positions capacity head count) := by
    rw [List.perm_ext_iff_of_nodup (List.nodup_range.filter _)
      (nodup_positions fits)]
    intro position
    rw [List.mem_filter, List.mem_range, mem_positions]
    constructor
    · rintro ⟨inRange, some⟩
      exact (occupied position inRange).mp some
    · intro live
      obtain ⟨index, _, rfl⟩ := id live
      have inRange := Nat.mod_lt (head + index) positive
      exact ⟨inRange, (occupied _ inRange).mpr live⟩
  have onlySome : (List.range capacity).filterMap value =
      ((List.range capacity).filter fun position =>
        (value position).isSome).filterMap value := by
    rw [List.filterMap_filter]
    apply List.filterMap_congr
    intro position _
    cases value position <;> rfl
  rw [onlySome]
  exact same.filterMap value

end Ring
end MotionSense
