import Mathlib

/-!
# Files that a crash may cut short

A name denotes a file.  What a name denotes is durable once its directory has been
synced, and what a file contains once the file has been synced.  A crash leaves
each name with a file that it has denoted since its directory was synced last, and
each file that is not synced with any content.
-/

namespace MotionSense

/-- Files with names `π` and contents of `β`, numbered in the order in which they
were made. -/
@[ext]
structure FileSystem (π β : Type) where
  /-- What a name denotes. -/
  entry : π → Option Nat
  /-- What a name has denoted before, since its directory was synced. -/
  unsynced : π → List (Option Nat)
  content : Nat → List β
  synced : Nat → Bool
  next : Nat
  entry_lt : ∀ name, ∀ file ∈ entry name, file < next
  unsynced_lt : ∀ name, ∀ past ∈ unsynced name, ∀ file ∈ past, file < next

namespace FileSystem

variable {π β : Type}

/-- No file has been made. -/
def empty : FileSystem π β where
  entry := fun _ => none
  unsynced := fun _ => []
  content := fun _ => []
  synced := fun _ => false
  next := 0
  entry_lt := fun _ _ none => by cases none
  unsynced_lt := fun _ _ member => absurd member List.not_mem_nil

variable (fs : FileSystem π β)

/-- The content found under a name. -/
def read (name : π) : Option (List β) := (fs.entry name).map fs.content

/-- What a file contains after a crash. -/
def FileSurvives : Option Nat → Option (List β) → Prop
  | none, found => found = none
  | some file, found => ∃ bytes, found = some bytes ∧
      (fs.synced file = true → bytes = fs.content file)

/-- What can be found under a name after a crash. -/
def Survives (name : π) (found : Option (List β)) : Prop :=
  ∃ file ∈ fs.entry name :: fs.unsynced name, fs.FileSurvives file found

/-- Nothing but a content survives under the name. -/
def Durable (name : π) (bytes : List β) : Prop :=
  fs.read name = some bytes ∧ ∀ found, fs.Survives name found →
    found = some bytes

/-- What is found under a name may survive. -/
theorem survives_read (name : π) : fs.Survives name (fs.read name) := by
  refine ⟨fs.entry name, List.mem_cons_self, ?_⟩
  rw [read]
  cases fs.entry name with
  | none => rfl
  | some file => exact ⟨_, rfl, fun _ => rfl⟩

theorem survives_empty {name : π} {found : Option (List β)}
    (survives : (empty : FileSystem π β).Survives name found) :
    found = none := by
  obtain ⟨file, member, there⟩ := survives
  rw [List.mem_singleton.mp member] at there
  exact there

/-! ## Operations -/

section Operations

variable [DecidableEq π]

/-- Let a name denote something else. -/
def setEntry
    (name : π) (file : Option Nat)
    (known : ∀ number ∈ file, number < fs.next) : FileSystem π β where
  entry := Function.update fs.entry name file
  unsynced := Function.update fs.unsynced name
    (fs.entry name :: fs.unsynced name)
  content := fs.content
  synced := fs.synced
  next := fs.next
  entry_lt := by
    intro other number denotes
    by_cases same : other = name
    · rw [same, Function.update_self] at denotes
      exact known number denotes
    · rw [Function.update_of_ne same] at denotes
      exact fs.entry_lt other number denotes
  unsynced_lt := by
    intro other past member number denotes
    by_cases same : other = name
    · rw [same, Function.update_self] at member
      rcases List.mem_cons.mp member with rfl | earlier
      · exact fs.entry_lt name number denotes
      · exact fs.unsynced_lt name past earlier number denotes
    · rw [Function.update_of_ne same] at member
      exact fs.unsynced_lt other past member number denotes

/-- Make room for an empty file. -/
def allocate : FileSystem π β where
  entry := fs.entry
  unsynced := fs.unsynced
  content := Function.update fs.content fs.next []
  synced := Function.update fs.synced fs.next false
  next := fs.next + 1
  entry_lt := fun name number denotes =>
    Nat.lt_succ_of_lt (fs.entry_lt name number denotes)
  unsynced_lt := fun name past member number denotes =>
    Nat.lt_succ_of_lt (fs.unsynced_lt name past member number denotes)

/-- Create an empty file under a name. -/
def create (name : π) : FileSystem π β :=
  fs.allocate.setEntry name (some fs.next) fun number denotes => by
    rw [← Option.some.inj denotes]
    exact Nat.lt_succ_self fs.next

/-- Let a name denote nothing. -/
def clearEntry (name : π) : FileSystem π β :=
  fs.setEntry name none fun _ none => by cases none

/-- `rename`: the new name denotes the file, the old one nothing. -/
def rename (source target : π) : FileSystem π β :=
  if (fs.entry source).isNone then fs
  else
    (fs.setEntry target (fs.entry source) (fs.entry_lt source)).clearEntry source

/-- `unlink`. -/
def unlink (name : π) : FileSystem π β :=
  if (fs.entry name).isNone then fs else fs.clearEntry name

end Operations

/-- Write at the end of a file. -/
def append (file : Nat) (bytes : List β) : FileSystem π β :=
  { fs with
    content := Function.update fs.content file (fs.content file ++ bytes)
    synced := Function.update fs.synced file false }

/-- `fsync` of a file. -/
def sync (file : Nat) : FileSystem π β :=
  { fs with synced := Function.update fs.synced file true }

/-- `fsync` of a directory, which has some of the names. -/
def syncNames (holds : π → Bool) : FileSystem π β :=
  { fs with
    unsynced := fun name => if holds name then [] else fs.unsynced name
    unsynced_lt := by
      intro name past member number denotes
      split_ifs at member with inside
      · exact absurd member List.not_mem_nil
      · exact fs.unsynced_lt name past member number denotes }

/-! ## What operations leave alone -/

/-- The files that there were have not changed. -/
structure Grows (before after : FileSystem π β) : Prop where
  next : before.next ≤ after.next
  content : ∀ file < before.next, after.content file = before.content file
  synced : ∀ file < before.next, after.synced file = before.synced file

/-- A name denotes what it has denoted, and nothing more survives under it. -/
structure Keeps (before after : FileSystem π β) (name : π) : Prop where
  entry : after.entry name = before.entry name
  unsynced : ∀ past ∈ after.unsynced name, past ∈ before.unsynced name

variable {before middle after : FileSystem π β} {name : π}

theorem Grows.refl (fs : FileSystem π β) : fs.Grows fs :=
  ⟨le_rfl, fun _ _ => rfl, fun _ _ => rfl⟩

theorem Grows.trans
    (first : before.Grows middle) (second : middle.Grows after) :
    before.Grows after where
  next := first.next.trans second.next
  content := fun file known =>
    (second.content file (known.trans_le first.next)).trans
      (first.content file known)
  synced := fun file known =>
    (second.synced file (known.trans_le first.next)).trans
      (first.synced file known)

theorem Keeps.refl (fs : FileSystem π β) (name : π) : fs.Keeps fs name :=
  ⟨rfl, fun _ member => member⟩

theorem Keeps.trans
    (first : before.Keeps middle name) (second : middle.Keeps after name) :
    before.Keeps after name where
  entry := second.entry.trans first.entry
  unsynced := fun past member =>
    first.unsynced past (second.unsynced past member)

/-- A file that there was survives as before. -/
theorem Grows.fileSurvives
    (grows : before.Grows after) {file : Option Nat}
    (known : ∀ number ∈ file, number < before.next)
    (found : Option (List β)) :
    after.FileSurvives file found ↔ before.FileSurvives file found := by
  cases file with
  | none => exact Iff.rfl
  | some number =>
      have old := known number rfl
      rw [FileSurvives, FileSurvives, grows.content number old,
        grows.synced number old]

theorem Grows.read
    (grows : before.Grows after) (keeps : before.Keeps after name) :
    after.read name = before.read name := by
  rw [FileSystem.read, FileSystem.read, keeps.entry]
  cases denotes : before.entry name with
  | none => rfl
  | some file =>
      rw [Option.map_some, Option.map_some,
        grows.content file (before.entry_lt name file denotes)]

/-- What may be found under a name could be found there before. -/
theorem Grows.survives
    (grows : before.Grows after)
    (past : ∀ file ∈ after.entry name :: after.unsynced name,
      file ∈ before.entry name :: before.unsynced name)
    {found : Option (List β)} (survives : after.Survives name found) :
    before.Survives name found := by
  obtain ⟨file, member, there⟩ := survives
  have old := past file member
  refine ⟨file, old, (grows.fileSurvives ?_ found).mp there⟩
  rcases List.mem_cons.mp old with rfl | earlier
  · exact before.entry_lt name
  · exact before.unsynced_lt name file earlier

theorem Keeps.past
    (keeps : before.Keeps after name) :
    ∀ file ∈ after.entry name :: after.unsynced name,
      file ∈ before.entry name :: before.unsynced name := by
  intro file member
  rcases List.mem_cons.mp member with rfl | earlier
  · rw [keeps.entry]
    exact List.mem_cons_self
  · exact List.mem_cons_of_mem _ (keeps.unsynced file earlier)

/-- A synced file under a synced name is durable. -/
theorem durable_of_synced
    {file : Nat} (denotes : fs.entry name = some file)
    (synced : fs.synced file = true) (alone : fs.unsynced name = []) :
    fs.Durable name (fs.content file) := by
  refine ⟨by rw [read, denotes]; rfl, ?_⟩
  rintro found ⟨other, member, survives⟩
  rw [denotes, alone, List.mem_singleton] at member
  rw [member] at survives
  obtain ⟨bytes, rfl, same⟩ := survives
  rw [same synced]

theorem grows_append
    {file : Nat} (fresh : before.next ≤ file) (grows : before.Grows fs)
    (bytes : List β) : before.Grows (fs.append file bytes) where
  next := grows.next
  content := fun old known =>
    (Function.update_of_ne (known.trans_le fresh).ne _ _).trans
      (grows.content old known)
  synced := fun old known =>
    (Function.update_of_ne (known.trans_le fresh).ne _ _).trans
      (grows.synced old known)

theorem grows_sync
    {file : Nat} (fresh : before.next ≤ file) (grows : before.Grows fs) :
    before.Grows (fs.sync file) where
  next := grows.next
  content := grows.content
  synced := fun old known =>
    (Function.update_of_ne (known.trans_le fresh).ne _ _).trans
      (grows.synced old known)

section Operations

variable [DecidableEq π] {other : π}

theorem grows_setEntry
    (name : π) (file : Option Nat)
    (known : ∀ number ∈ file, number < fs.next) :
    fs.Grows (fs.setEntry name file known) :=
  ⟨le_rfl, fun _ _ => rfl, fun _ _ => rfl⟩

theorem keeps_setEntry
    {file : Option Nat} {known : ∀ number ∈ file, number < fs.next}
    (different : other ≠ name) :
    fs.Keeps (fs.setEntry name file known) other where
  entry := Function.update_of_ne different _ _
  unsynced := by
    intro past member
    change past ∈ Function.update fs.unsynced name _ other at member
    rw [Function.update_of_ne different] at member
    exact member

omit [DecidableEq π] in
theorem grows_allocate : fs.Grows fs.allocate where
  next := Nat.le_succ fs.next
  content := fun _ old => Function.update_of_ne old.ne _ _
  synced := fun _ old => Function.update_of_ne old.ne _ _

theorem grows_create (name : π) : fs.Grows (fs.create name) :=
  fs.grows_allocate.trans (fs.allocate.grows_setEntry name _ _)

theorem keeps_create (different : other ≠ name) :
    fs.Keeps (fs.create name) other :=
  have set : fs.allocate.Keeps (fs.create name) other :=
    fs.allocate.keeps_setEntry different
  ⟨set.entry, set.unsynced⟩

theorem grows_unlink (name : π) : fs.Grows (fs.unlink name) := by
  unfold unlink
  split_ifs
  · exact Grows.refl fs
  · exact fs.grows_setEntry name _ _

theorem keeps_unlink (different : other ≠ name) :
    fs.Keeps (fs.unlink name) other := by
  unfold unlink
  split_ifs
  · exact Keeps.refl fs other
  · exact fs.keeps_setEntry different

/-- Nothing is found under a name that was unlinked. -/
theorem entry_unlink (name : π) : (fs.unlink name).entry name = none := by
  unfold unlink
  split_ifs with absent
  · exact Option.isNone_iff_eq_none.mp absent
  · exact Function.update_self _ _ _

end Operations

theorem grows_syncNames (holds : π → Bool) : fs.Grows (fs.syncNames holds) :=
  ⟨le_rfl, fun _ _ => rfl, fun _ _ => rfl⟩

theorem keeps_syncNames (holds : π → Bool) (name : π) :
    fs.Keeps (fs.syncNames holds) name where
  entry := rfl
  unsynced := by
    intro past member
    change past ∈ (if holds name then [] else fs.unsynced name) at member
    split_ifs at member with inside
    · exact absurd member List.not_mem_nil
    · exact member

end FileSystem
end MotionSense
