import Mathlib

/-!
# A bounded queue that loses whole dependency groups

Some items are *keys* and can be used alone; every other item depends on the one
before it.  When the queue is full, the oldest items are evicted up to the next
key, and items that would depend on something lost are refused until a key
arrives.  The queue counts what it loses.
-/

namespace MotionSense

/-- A bounded queue with its losses. -/
structure LossyQueue (α : Type) where
  capacity : Nat
  items : List α
  lost : Nat
  dropping : Bool
  closed : Bool

namespace LossyQueue

variable {α : Type} (isKey : α → Bool)

/-- Remove the oldest item and then every item up to the next key. -/
def evict : List α → List α
  | [] => []
  | _ :: items => items.dropWhile fun item => !isKey item

/-- Number of items an eviction removes. -/
def evicted (items : List α) : Nat :=
  items.length - (evict isKey items).length

/-- Offer an item. -/
def push (queue : LossyQueue α) (item : α) : LossyQueue α :=
  if queue.closed then queue
  else if queue.dropping && !isKey item then
    { queue with lost := queue.lost + 1 }
  else if queue.items.length = queue.capacity then
    { queue with
      items := evict isKey queue.items ++ [item]
      lost := queue.lost + evicted isKey queue.items
      dropping := true }
  else
    { queue with items := queue.items ++ [item], dropping := false }

/-- Take the oldest item. -/
def pop (queue : LossyQueue α) : Option (α × LossyQueue α) :=
  match queue.items with
  | [] => none
  | item :: items => some (item, { queue with items := items })

/-- Stop accepting items. -/
def close (queue : LossyQueue α) : LossyQueue α :=
  { queue with closed := true }

@[simp] theorem push_of_closed
    {queue : LossyQueue α}
    (closed : queue.closed = true)
    (item : α) :
    queue.push isKey item = queue := by
  simp [push, closed]

theorem push_of_refused
    {queue : LossyQueue α}
    (item : α)
    (opened : queue.closed = false)
    (refused : (queue.dropping && !isKey item) = true) :
    queue.push isKey item = { queue with lost := queue.lost + 1 } := by
  rw [push, if_neg (by simp [opened]), if_pos refused]

theorem push_of_full
    {queue : LossyQueue α}
    (item : α)
    (opened : queue.closed = false)
    (taken : (queue.dropping && !isKey item) = false)
    (full : queue.items.length = queue.capacity) :
    queue.push isKey item =
      { queue with
        items := evict isKey queue.items ++ [item]
        lost := queue.lost + evicted isKey queue.items
        dropping := true } := by
  rw [push, if_neg (by simp [opened]), if_neg (by simp [taken]), if_pos full]

theorem push_of_room
    {queue : LossyQueue α}
    (item : α)
    (opened : queue.closed = false)
    (taken : (queue.dropping && !isKey item) = false)
    (room : queue.items.length ≠ queue.capacity) :
    queue.push isKey item =
      { queue with items := queue.items ++ [item], dropping := false } := by
  rw [push, if_neg (by simp [opened]), if_neg (by simp [taken]), if_neg room]

theorem evict_suffix (items : List α) : evict isKey items <:+ items := by
  cases items with
  | nil => exact List.suffix_rfl
  | cons item items =>
      exact (List.dropWhile_suffix _).trans (List.suffix_cons item items)

theorem length_evict_le (items : List α) :
    (evict isKey items).length ≤ items.length :=
  (evict_suffix isKey items).length_le

/-- An eviction of a nonempty queue makes room. -/
theorem length_evict_lt {items : List α} (nonempty : items ≠ []) :
    (evict isKey items).length < items.length := by
  cases items with
  | nil => exact absurd rfl nonempty
  | cons item items =>
      have shorter : (items.dropWhile fun item => !isKey item).length ≤
          items.length :=
        (List.dropWhile_suffix _).length_le
      simp only [evict, List.length_cons]
      omega

/-- What is left after an eviction is empty or starts with a key. -/
theorem isKey_of_mem_head?_evict
    {items : List α}
    {item : α}
    (first : item ∈ (evict isKey items).head?) :
    isKey item = true := by
  cases items with
  | nil => simp [evict] at first
  | cons oldest items =>
      have stops := List.head?_dropWhile_not (fun item => !isKey item) items
      simp only [evict] at first
      rw [Option.mem_def.mp first] at stops
      simpa using stops

/-- An eviction leaves nothing exactly when no later item is a key. -/
theorem evict_eq_nil_iff {items : List α} :
    evict isKey items = [] ↔ ∀ item ∈ items.tail, isKey item = false := by
  cases items with
  | nil => simp [evict]
  | cons oldest items => simp [evict, List.dropWhile_eq_nil_iff]

@[simp] theorem capacity_push (queue : LossyQueue α) (item : α) :
    (queue.push isKey item).capacity = queue.capacity := by
  unfold push
  split <;> [rfl; split <;> [rfl; split <;> rfl]]

/-- A push to an open queue loses or keeps every item, once. -/
theorem length_add_lost_push
    {queue : LossyQueue α}
    (opened : queue.closed = false)
    (item : α) :
    (queue.push isKey item).items.length + (queue.push isKey item).lost =
      queue.items.length + queue.lost + 1 := by
  have shorter := length_evict_le isKey queue.items
  unfold push evicted
  rw [opened]
  simp only [Bool.false_eq_true, if_false]
  split
  · simp only; omega
  split
  · simp only [List.length_append, List.length_singleton]
    omega
  · simp only [List.length_append, List.length_singleton]
    omega

@[simp] theorem closed_push (queue : LossyQueue α) (item : α) :
    (queue.push isKey item).closed = queue.closed := by
  unfold push
  split <;> [rfl; split <;> [rfl; split <;> rfl]]

/-- A push only removes old items and adds the new one at the end. -/
theorem items_push_sublist (queue : LossyQueue α) (item : α) :
    ((queue.push isKey item).items).Sublist (queue.items ++ [item]) := by
  unfold push
  split
  · exact List.sublist_append_left _ _
  split
  · exact List.sublist_append_left _ _
  split
  · exact (evict_suffix isKey queue.items).sublist.append_right [item]
  · exact List.Sublist.refl _

/-! ## Dependencies

Every item carries the serial number of its push.  What has been delivered and
what is still queued form one list, in which every item that is not a key must
follow its predecessor. -/

variable (serial : α → Nat)

/-- A key may follow anything; any other item follows the one pushed just before
it. -/
def Follows (earlier later : α) : Prop :=
  isKey later = true ∨ serial later = serial earlier + 1

/-- The dependency invariant, before the push with serial number `next`. -/
structure Unbroken (delivered : List α) (queue : LossyQueue α) (next : Nat) :
    Prop where
  chain : List.IsChain (Follows isKey serial) (delivered ++ queue.items)
  first : ∀ item ∈ (delivered ++ queue.items).head?,
    isKey item = true ∨ serial item = 0
  latest : queue.closed = false → queue.dropping = false →
    (next = 0 ∧ delivered ++ queue.items = []) ∨
      ∃ item ∈ (delivered ++ queue.items).getLast?, serial item + 1 = next

variable {isKey serial}

/-- Adding a key keeps the chain. -/
theorem chain_append_key
    {items : List α} {item : α}
    (chain : List.IsChain (Follows isKey serial) items)
    (key : isKey item = true) :
    List.IsChain (Follows isKey serial) (items ++ [item]) := by
  refine List.isChain_append.mpr ⟨chain, List.IsChain.singleton item, ?_⟩
  intro _ _ newest present
  obtain rfl : item = newest := by simpa using present
  exact Or.inl key

/-- Adding the successor of the latest item keeps the chain. -/
theorem chain_append_next
    {items : List α} {item : α}
    (chain : List.IsChain (Follows isKey serial) items)
    (latest : ∀ earlier ∈ items.getLast?, serial earlier + 1 = serial item) :
    List.IsChain (Follows isKey serial) (items ++ [item]) := by
  refine List.isChain_append.mpr ⟨chain, List.IsChain.singleton item, ?_⟩
  intro earlier present newest isNewest
  obtain rfl : item = newest := by simpa using isNewest
  exact Or.inr (latest earlier present).symm

/-- Delivering an item moves the boundary of the list only. -/
theorem Unbroken.pop
    {delivered : List α} {queue : LossyQueue α} {next : Nat}
    (unbroken : Unbroken isKey serial delivered queue next)
    {item : α} {rest : LossyQueue α}
    (popped : queue.pop = some (item, rest)) :
    Unbroken isKey serial (delivered ++ [item]) rest next := by
  unfold LossyQueue.pop at popped
  split at popped
  · contradiction
  · rename_i oldest items itemsEq
    obtain ⟨rfl, rfl⟩ := Prod.mk.inj (Option.some.inj popped)
    have same : delivered ++ [oldest] ++ items = delivered ++ queue.items := by
      rw [itemsEq, List.append_assoc, List.singleton_append]
    exact
      { chain := by rw [same]; exact unbroken.chain
        first := by rw [same]; exact unbroken.first
        latest := by rw [same]; exact unbroken.latest }

/-- Removing queued items in front of a key keeps the chain. -/
theorem chain_evict
    {delivered items : List α}
    (chain : List.IsChain (Follows isKey serial) (delivered ++ items)) :
    List.IsChain (Follows isKey serial)
      (delivered ++ evict isKey items) := by
  obtain ⟨before, after, _⟩ := List.isChain_append.mp chain
  refine List.isChain_append.mpr
    ⟨before, after.suffix (evict_suffix isKey items), ?_⟩
  intro _ _ newest present
  exact Or.inl (isKey_of_mem_head?_evict isKey present)

/-- In an open queue that is not dropping, the latest item is that of the last
push. -/
theorem Unbroken.serial_latest
    {delivered : List α} {queue : LossyQueue α} {next : Nat}
    (unbroken : Unbroken isKey serial delivered queue next)
    (opened : queue.closed = false)
    (quiet : queue.dropping = false)
    {item : α}
    (latest : item ∈ (delivered ++ queue.items).getLast?) :
    serial item + 1 = next := by
  rcases unbroken.latest opened quiet with empty | ⟨last, isLast, equal⟩
  · rw [empty.2] at latest
    simp at latest
  · rw [Option.mem_unique latest isLast, equal]

/-- In an open queue that is not dropping, an item that starts the list is a key
or the very first one pushed. -/
theorem Unbroken.serial_first
    {delivered : List α} {queue : LossyQueue α} {next : Nat}
    (unbroken : Unbroken isKey serial delivered queue next)
    (opened : queue.closed = false)
    (quiet : queue.dropping = false)
    (empty : delivered ++ queue.items = []) :
    next = 0 := by
  rcases unbroken.latest opened quiet with none | ⟨last, isLast, _⟩
  · exact none.1
  · rw [empty] at isLast
    simp at isLast

/-- Keeping the first item of a list keeps the condition on it. -/
theorem first_append
    {items : List α} {item : α} {next : Nat}
    (first : ∀ oldest ∈ items.head?,
      isKey oldest = true ∨ serial oldest = 0)
    (numbered : serial item = next)
    (alone : items = [] → isKey item = true ∨ next = 0) :
    ∀ oldest ∈ (items ++ [item]).head?,
      isKey oldest = true ∨ serial oldest = 0 := by
  intro oldest present
  cases items with
  | cons earliest items => exact first oldest present
  | nil =>
      obtain rfl : item = oldest := by simpa using present
      rw [numbered]
      exact alone rfl

/-- An eviction that leaves something keeps the latest item. -/
theorem getLast?_evict
    (delivered : List α) {items : List α}
    (remains : evict isKey items ≠ []) :
    (delivered ++ evict isKey items).getLast? =
      (delivered ++ items).getLast? := by
  obtain ⟨removed, split⟩ := evict_suffix isKey items
  rw [List.getLast?_append_of_ne_nil _ remains]
  conv_rhs =>
    rw [← split, ← List.append_assoc,
      List.getLast?_append_of_ne_nil _ remains]

/-- After an eviction the list still starts with a key or the very first
item. -/
theorem Unbroken.first_evict
    {delivered : List α} {queue : LossyQueue α} {next : Nat}
    (unbroken : Unbroken isKey serial delivered queue next) :
    ∀ oldest ∈ (delivered ++ evict isKey queue.items).head?,
      isKey oldest = true ∨ serial oldest = 0 := by
  intro oldest present
  cases delivered with
  | cons earliest delivered => exact unbroken.first oldest present
  | nil => exact Or.inl (isKey_of_mem_head?_evict isKey present)

/-- A push keeps the dependency invariant unless it stores a dependent item
right after an eviction that emptied the queue. -/
theorem Unbroken.push
    {delivered : List α} {queue : LossyQueue α} {next : Nat}
    (unbroken : Unbroken isKey serial delivered queue next)
    {item : α}
    (numbered : serial item = next)
    (kept : queue.closed = false → queue.dropping = false →
      isKey item = false → queue.items.length = queue.capacity →
        evict isKey queue.items ≠ []) :
    Unbroken isKey serial delivered (queue.push isKey item) (next + 1) := by
  by_cases closed : queue.closed = true
  · rw [push_of_closed isKey closed]
    exact ⟨unbroken.chain, unbroken.first, by simp [closed]⟩
  have opened : queue.closed = false := by simpa using closed
  by_cases refused : (queue.dropping && !isKey item) = true
  · rw [push_of_refused isKey item opened refused]
    exact ⟨unbroken.chain, unbroken.first, by simp_all⟩
  have taken : (queue.dropping && !isKey item) = false := by
    simpa using refused
  -- A key may be stored anywhere; a dependent item is stored only when the
  -- queue was not dropping, right behind its predecessor.
  by_cases key : isKey item = true
  · by_cases full : queue.items.length = queue.capacity
    · rw [push_of_full isKey item opened taken full]
      refine ⟨?_, ?_, by simp⟩
      · rw [← List.append_assoc]
        exact chain_append_key (chain_evict unbroken.chain) key
      · rw [← List.append_assoc]
        exact first_append unbroken.first_evict numbered fun _ => Or.inl key
    · rw [push_of_room isKey item opened taken full]
      refine ⟨?_, ?_, fun _ _ => Or.inr ⟨item, by simp, by rw [numbered]⟩⟩
      · rw [← List.append_assoc]
        exact chain_append_key unbroken.chain key
      · rw [← List.append_assoc]
        exact first_append unbroken.first numbered fun _ => Or.inl key
  · have quiet : queue.dropping = false := by simpa [key] using taken
    by_cases full : queue.items.length = queue.capacity
    · have remains := kept opened quiet (by simpa using key) full
      rw [push_of_full isKey item opened taken full]
      refine ⟨?_, ?_, by simp⟩
      · rw [← List.append_assoc]
        refine chain_append_next (chain_evict unbroken.chain) ?_
        intro latest present
        rw [getLast?_evict delivered remains] at present
        rw [numbered]
        exact unbroken.serial_latest opened quiet present
      · rw [← List.append_assoc]
        exact first_append unbroken.first_evict numbered fun empty =>
          absurd (List.append_eq_nil_iff.mp empty).2 remains
    · rw [push_of_room isKey item opened taken full]
      refine ⟨?_, ?_, fun _ _ => Or.inr ⟨item, by simp, by rw [numbered]⟩⟩
      · rw [← List.append_assoc]
        refine chain_append_next unbroken.chain ?_
        intro latest present
        rw [numbered]
        exact unbroken.serial_latest opened quiet present
      · rw [← List.append_assoc]
        exact first_append unbroken.first numbered fun empty =>
          Or.inr (unbroken.serial_first opened quiet empty)

end LossyQueue
end MotionSense
