import MotionSense.Foundations.Program

/-!
# One program in place of another

A concrete program refines an abstract one from two states when it cannot end in
a way in which the abstract one cannot end as well, whether it returns or is
stopped.  Of the state in which it is stopped a crash may leave different things,
each of which has to be one that the abstract program can be stopped in.
-/

namespace MotionSense
namespace Program

/-- Some script takes the program from a state to a result and a state. -/
def CanReturn : Program χ σ α → σ → α → σ → Prop
  | .pure value, state, result, after => value = result ∧ state = after
  | .ask next, state, result, after =>
      ∃ answer, (next answer).CanReturn state result after
  | .get next, state, result, after =>
      (next state).CanReturn state result after
  | .put written next, _, result, after => next.CanReturn written result after
  | .halt, _, _, _ => False

/-- Some script stops the program in a state. -/
def CanStop : Program χ σ α → σ → σ → Prop
  | .pure _, _, _ => False
  | .ask next, state, after =>
      state = after ∨ ∃ answer, (next answer).CanStop state after
  | .get next, state, after => (next state).CanStop state after
  | .put written next, _, after => next.CanStop written after
  | .halt, state, after => state = after

theorem canReturn_iff_run
    {program : Program χ σ α} {state : σ} {result : α} {after : σ} :
    program.CanReturn state result after ↔
      ∃ script rest, program.run state script = .done result after rest := by
  induction program generalizing state with
  | pure value =>
      constructor
      · rintro ⟨rfl, rfl⟩
        exact ⟨[], [], rfl⟩
      · rintro ⟨script, rest, ends⟩
        cases ends
        exact ⟨rfl, rfl⟩
  | ask next inductionHypothesis =>
      simp only [CanReturn, inductionHypothesis]
      constructor
      · rintro ⟨answer, script, rest, ends⟩
        exact ⟨answer :: script, rest, ends⟩
      · rintro ⟨_ | ⟨answer, script⟩, rest, ends⟩
        · cases ends
        · exact ⟨answer, script, rest, ends⟩
  | get next inductionHypothesis => exact inductionHypothesis state
  | put written next inductionHypothesis => exact inductionHypothesis
  | halt =>
      constructor
      · exact False.elim
      · rintro ⟨script, rest, ends⟩
        cases ends

theorem canStop_iff_run
    {program : Program χ σ α} {state after : σ} :
    program.CanStop state after ↔
      ∃ script, program.run state script = .halted after := by
  induction program generalizing state with
  | pure value =>
      constructor
      · exact False.elim
      · rintro ⟨script, ends⟩
        cases ends
  | ask next inductionHypothesis =>
      simp only [CanStop, inductionHypothesis]
      constructor
      · rintro (rfl | ⟨answer, script, ends⟩)
        · exact ⟨[], rfl⟩
        · exact ⟨answer :: script, ends⟩
      · rintro ⟨_ | ⟨answer, script⟩, ends⟩
        · cases ends
          exact Or.inl rfl
        · exact Or.inr ⟨answer, script, ends⟩
  | get next inductionHypothesis => exact inductionHypothesis state
  | put written next inductionHypothesis => exact inductionHypothesis
  | halt =>
      constructor
      · rintro rfl
        exact ⟨[], rfl⟩
      · rintro ⟨script, ends⟩
        cases ends
        rfl

theorem CanReturn.bind
    {program : Program χ σ α} {rest : α → Program χ σ β}
    {state middle after : σ} {value : α} {result : β}
    (first : program.CanReturn state value middle)
    (second : (rest value).CanReturn middle result after) :
    (program >>= rest).CanReturn state result after := by
  change (program.bind rest).CanReturn state result after
  induction program generalizing state with
  | pure given =>
      obtain ⟨rfl, rfl⟩ := first
      exact second
  | ask next inductionHypothesis =>
      obtain ⟨answer, first⟩ := first
      exact ⟨answer, inductionHypothesis answer first⟩
  | get next inductionHypothesis => exact inductionHypothesis state first
  | put written next inductionHypothesis => exact inductionHypothesis first
  | halt => exact first.elim

/-- A program may be stopped in its first part. -/
theorem CanStop.bind
    {program : Program χ σ α} {state after : σ}
    (first : program.CanStop state after) (rest : α → Program χ σ β) :
    (program >>= rest).CanStop state after := by
  change (program.bind rest).CanStop state after
  induction program generalizing state with
  | pure value => exact first.elim
  | ask next inductionHypothesis =>
      rcases first with stops | ⟨answer, first⟩
      · exact Or.inl stops
      · exact Or.inr ⟨answer, inductionHypothesis answer first⟩
  | get next inductionHypothesis => exact inductionHypothesis state first
  | put written next inductionHypothesis => exact inductionHypothesis first
  | halt => exact first

/-- A program may be stopped in its second part. -/
theorem CanReturn.bindStop
    {program : Program χ σ α} {rest : α → Program χ σ β}
    {state middle after : σ} {value : α}
    (first : program.CanReturn state value middle)
    (second : (rest value).CanStop middle after) :
    (program >>= rest).CanStop state after := by
  change (program.bind rest).CanStop state after
  induction program generalizing state with
  | pure given =>
      obtain ⟨rfl, rfl⟩ := first
      exact second
  | ask next inductionHypothesis =>
      obtain ⟨answer, first⟩ := first
      exact Or.inr ⟨answer, inductionHypothesis answer first⟩
  | get next inductionHypothesis => exact inductionHypothesis state first
  | put written next inductionHypothesis => exact inductionHypothesis first
  | halt => exact first.elim

/-! ## Refinement -/

section Refinement

/-- What a crash may leave of a state, and when that agrees with a state of the
abstract program. -/
structure Crash (σ τ : Type) where
  Left : Type
  leaves : σ → Left → Prop
  agrees : Left → τ → Prop

variable (crash : Crash σ τ)

/-- Every ending of the concrete program is one of the abstract program. -/
def Refines
    (concrete : Program χ σ α) (abstract : Program ω τ β)
    (post : α → σ → β → τ → Prop) (state : σ) (other : τ) : Prop :=
  concrete.wp
    (fun value after => ∃ result otherAfter,
      abstract.CanReturn other result otherAfter ∧
        post value after result otherAfter)
    (fun after => ∀ left, crash.leaves after left →
      ∃ otherAfter, abstract.CanStop other otherAfter ∧
        crash.agrees left otherAfter)
    state

variable {crash}

theorem Refines.pure
    {value : α} {result : β} {post : α → σ → β → τ → Prop}
    {state : σ} {other : τ} (holds : post value state result other) :
    Refines crash (Pure.pure value : Program χ σ α)
      (Pure.pure result : Program ω τ β) post state other :=
  ⟨result, other, ⟨rfl, rfl⟩, holds⟩

theorem Refines.halt
    {post : α → σ → β → τ → Prop} {state : σ} {other : τ}
    (agrees : ∀ left, crash.leaves state left → crash.agrees left other) :
    Refines crash (Program.halt : Program χ σ α)
      (Program.halt : Program ω τ β) post state other :=
  fun left leaves => ⟨other, rfl, agrees left leaves⟩

/-- Sequencing through an intermediate condition. -/
theorem Refines.bind
    (middle : α → σ → β → τ → Prop)
    {concrete : Program χ σ α} {abstract : Program ω τ β}
    {rest : α → Program χ σ γ} {otherRest : β → Program ω τ δ}
    {post : γ → σ → δ → τ → Prop} {state : σ} {other : τ}
    (first : Refines crash concrete abstract middle state other)
    (second : ∀ value after result otherAfter,
      middle value after result otherAfter →
      Refines crash (rest value) (otherRest result) post after otherAfter) :
    Refines crash (concrete >>= rest) (abstract >>= otherRest) post
      state other := by
  refine wp_via _ (wp_mono first (fun _ _ ends => ends) ?_) ?_
  · intro after stops left leaves
    obtain ⟨otherAfter, stopsToo, agrees⟩ := stops left leaves
    exact ⟨otherAfter, stopsToo.bind otherRest, agrees⟩
  · rintro value after ⟨result, otherAfter, returns, holds⟩
    refine wp_mono (second value after result otherAfter holds) ?_ ?_
    · rintro value last ⟨result, otherLast, returnsToo, ends⟩
      exact ⟨result, otherLast, returns.bind returnsToo, ends⟩
    · intro last stops left leaves
      obtain ⟨otherLast, stopsToo, agrees⟩ := stops left leaves
      exact ⟨otherLast, returns.bindStop stopsToo, agrees⟩

/-- The concrete program reads its state. -/
theorem Refines.current
    {rest : σ → Program χ σ α} {abstract : Program ω τ β}
    {post : α → σ → β → τ → Prop} {state : σ} {other : τ}
    (later : Refines crash (rest state) abstract post state other) :
    Refines crash (Program.current >>= rest) abstract post state other := later

/-- The concrete program changes its state. -/
theorem Refines.modify
    {update : σ → σ} {rest : Unit → Program χ σ α} {abstract : Program ω τ β}
    {post : α → σ → β → τ → Prop} {state : σ} {other : τ}
    (later : Refines crash (rest ()) abstract post (update state) other) :
    Refines crash (Program.modify update >>= rest) abstract post
      state other := later

/-- The abstract program reads its state. -/
theorem Refines.otherCurrent
    {concrete : Program χ σ α} {rest : τ → Program ω τ β}
    {post : α → σ → β → τ → Prop} {state : σ} {other : τ}
    (later : Refines crash concrete (rest other) post state other) :
    Refines crash concrete (Program.current >>= rest) post state other := later

/-- The abstract program changes its state. -/
theorem Refines.otherModify
    {concrete : Program χ σ α} {update : τ → τ} {rest : Unit → Program ω τ β}
    {post : α → σ → β → τ → Prop} {state : σ} {other : τ}
    (later : Refines crash concrete (rest ()) post state (update other)) :
    Refines crash concrete (Program.modify update >>= rest) post
      state other := later

/-- Both programs branch alike. -/
theorem Refines.ite
    {condition otherCondition : Prop}
    [Decidable condition] [Decidable otherCondition]
    {first second : Program χ σ α} {otherFirst otherSecond : Program ω τ β}
    {post : α → σ → β → τ → Prop} {state : σ} {other : τ}
    (same : condition ↔ otherCondition)
    (whenTrue : condition →
      Refines crash first otherFirst post state other)
    (whenFalse : ¬condition →
      Refines crash second otherSecond post state other) :
    Refines crash (if condition then first else second)
      (if otherCondition then otherFirst else otherSecond) post
      state other := by
  by_cases holds : condition
  · rw [if_pos holds, if_pos (same.mp holds)]
    exact whenTrue holds
  · rw [if_neg holds, if_neg fun there => holds (same.mpr there)]
    exact whenFalse holds

/-- Both programs ask their environments. -/
theorem Refines.ask
    {rest : χ → Program χ σ α} {otherRest : ω → Program ω τ β}
    {post : α → σ → β → τ → Prop} {state : σ} {other : τ}
    (agrees : ∀ left, crash.leaves state left → crash.agrees left other)
    (later : ∀ answer, ∃ otherAnswer,
      Refines crash (rest answer) (otherRest otherAnswer) post state other) :
    Refines crash (Program.answer >>= rest) (Program.answer >>= otherRest)
      post state other := by
  refine ⟨fun left leaves => ⟨other, Or.inl rfl, agrees left leaves⟩,
    fun answer => ?_⟩
  obtain ⟨otherAnswer, refines⟩ := later answer
  refine wp_mono refines ?_ ?_
  · rintro value after ⟨result, otherAfter, returns, holds⟩
    exact ⟨result, otherAfter, ⟨otherAnswer, returns⟩, holds⟩
  · intro after stops left leaves
    obtain ⟨otherAfter, stopsToo, agreesToo⟩ := stops left leaves
    exact ⟨otherAfter, Or.inr ⟨otherAnswer, stopsToo⟩, agreesToo⟩

/-- A refinement speaks of every run. -/
theorem refines_iff_run
    {concrete : Program χ σ α} {abstract : Program ω τ β}
    {post : α → σ → β → τ → Prop} {state : σ} {other : τ} :
    Refines crash concrete abstract post state other ↔
      ∀ script, (concrete.run state script).Meets
        (fun value after => ∃ otherScript result otherAfter rest,
          abstract.run other otherScript = .done result otherAfter rest ∧
            post value after result otherAfter)
        (fun after => ∀ left, crash.leaves after left →
          ∃ otherScript otherAfter,
            abstract.run other otherScript = .halted otherAfter ∧
              crash.agrees left otherAfter) := by
  rw [Refines, wp_iff_run]
  refine forall_congr' fun script => ?_
  cases concrete.run state script with
  | done value after rest =>
      simp only [Outcome.Meets, canReturn_iff_run]
      constructor
      · rintro ⟨result, otherAfter, ⟨otherScript, rest, ends⟩, holds⟩
        exact ⟨otherScript, result, otherAfter, rest, ends, holds⟩
      · rintro ⟨otherScript, result, otherAfter, rest, ends, holds⟩
        exact ⟨result, otherAfter, ⟨otherScript, rest, ends⟩, holds⟩
  | halted after =>
      simp only [Outcome.Meets, canStop_iff_run]
      refine forall_congr' fun left => forall_congr' fun _ => ?_
      constructor
      · rintro ⟨otherAfter, ⟨otherScript, ends⟩, agrees⟩
        exact ⟨otherScript, otherAfter, ends, agrees⟩
      · rintro ⟨otherScript, otherAfter, ends, agrees⟩
        exact ⟨otherAfter, ⟨otherScript, ends⟩, agrees⟩

end Refinement

end Program
end MotionSense
