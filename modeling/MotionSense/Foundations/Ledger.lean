import Mathlib

/-!
# Ledgers of resources

A protocol says what its calls acquire, what they give back and what they need, and
on what each resource rests.  A ledger is what is held, with a log of the calls
made so far.  A ledger finds what its calls need, and it stands when at no call a
resource was held without what it rests on.
-/

namespace MotionSense

/-- The calls `κ` on the resources `ρ`. -/
structure Protocol (κ ρ : Type) where
  acquires : κ → Option ρ
  releases : κ → Option ρ
  needs : κ → List ρ
  /-- The resources that a resource rests on. -/
  uses : ρ → List ρ

/-- A call, whether it succeeded, and what was held before it. -/
structure Protocol.Entry (κ ρ : Type) where
  call : κ
  succeeded : Bool
  held : Finset ρ

/-- What is held, and the calls so far, newest first. -/
structure Ledger (κ ρ : Type) where
  held : Finset ρ := ∅
  log : List (Protocol.Entry κ ρ) := []

namespace Protocol

variable {κ ρ : Type} [DecidableEq ρ] (protocol : Protocol κ ρ)

/-- What is held after a call: what it gives back is gone whether it succeeded or
not. -/
def settle (held : Finset ρ) (call : κ) (succeeded : Bool) : Finset ρ :=
  let kept :=
    match protocol.releases call with
    | none => held
    | some resource => held.erase resource
  match protocol.acquires call with
  | none => kept
  | some resource => if succeeded then insert resource kept else kept

/-- A call is made. -/
def record (ledger : Ledger κ ρ) (call : κ) (succeeded : Bool) :
    Ledger κ ρ where
  held := protocol.settle ledger.held call succeeded
  log := ⟨call, succeeded, ledger.held⟩ :: ledger.log

/-- The call found what it needs. -/
def Entry.Found (entry : Entry κ ρ) : Prop :=
  ∀ resource ∈ protocol.needs entry.call, resource ∈ entry.held

/-- Whatever is held has what it rests on. -/
def Grounded (held : Finset ρ) : Prop :=
  ∀ resource ∈ held, ∀ other ∈ protocol.uses resource, other ∈ held

instance (held : Finset ρ) : Decidable (protocol.Grounded held) :=
  inferInstanceAs (Decidable (∀ resource ∈ held, _))

/-- What is held has always had what it rests on. -/
structure Stands (ledger : Ledger κ ρ) : Prop where
  now : protocol.Grounded ledger.held
  before : ∀ entry ∈ ledger.log, protocol.Grounded entry.held

variable {protocol} {held : Finset ρ}

theorem Grounded.insert
    (grounded : protocol.Grounded held) {resource : ρ}
    (rests : ∀ other ∈ protocol.uses resource, other ∈ held) :
    protocol.Grounded (insert resource held) := by
  intro kept member other used
  rcases Finset.mem_insert.mp member with rfl | before
  · exact Finset.mem_insert_of_mem (rests other used)
  · exact Finset.mem_insert_of_mem (grounded kept before other used)

theorem Grounded.erase
    (grounded : protocol.Grounded held) {resource : ρ}
    (free : ∀ other ∈ held, resource ∉ protocol.uses other) :
    protocol.Grounded (held.erase resource) := by
  intro kept member other used
  have before := Finset.mem_of_mem_erase member
  refine Finset.mem_erase.mpr ⟨?_, grounded kept before other used⟩
  rintro rfl
  exact free kept before used

/-- A ledger stands after a call when what the call acquires finds what it rests on,
and nothing that is held rests on what the call gives back. -/
theorem Stands.record
    {ledger : Ledger κ ρ} (stands : protocol.Stands ledger) (call : κ)
    (succeeded : Bool)
    (free : ∀ resource, protocol.releases call = some resource →
      ∀ other ∈ ledger.held, resource ∉ protocol.uses other)
    (rests : ∀ resource, protocol.acquires call = some resource →
      protocol.releases call = none ∧
        ∀ other ∈ protocol.uses resource, other ∈ ledger.held) :
    protocol.Stands (protocol.record ledger call succeeded) where
  now := by
    simp only [Protocol.record, settle]
    cases taken : protocol.acquires call with
    | none =>
        cases given : protocol.releases call with
        | none => exact stands.now
        | some resource => exact stands.now.erase (free resource given)
    | some resource =>
        have found := rests resource taken
        rw [found.1]
        dsimp only
        split
        · exact stands.now.insert found.2
        · exact stands.now
  before := by
    intro entry member
    rcases List.mem_cons.mp member with rfl | earlier
    · exact stands.now
    · exact stands.before entry earlier

end Protocol
end MotionSense
