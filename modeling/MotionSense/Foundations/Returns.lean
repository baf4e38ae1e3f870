import MotionSense.Foundations.Program

/-!
# Programs that return

A program without endless waiting gets through on every script that is long
enough.
-/

namespace MotionSense
namespace Program

/-- The program returns after at most so many answers. -/
def Returns : Program χ σ α → Nat → Prop
  | .pure _, _ => True
  | .ask _, 0 => False
  | .ask next, most + 1 => ∀ answer, (next answer).Returns most
  | .get next, most => ∀ state, (next state).Returns most
  | .put _ next, most => next.Returns most
  | .halt, _ => False

theorem Returns.mono
    {program : Program χ σ α}
    {few many : Nat}
    (returns : program.Returns few)
    (more : few ≤ many) :
    program.Returns many := by
  induction program generalizing few many with
  | pure value => trivial
  | ask next inductionHypothesis =>
      obtain - | few := few
      · exact returns.elim
      obtain - | many := many
      · exact absurd more (Nat.not_succ_le_zero few)
      exact fun answer =>
        inductionHypothesis answer (returns answer) (Nat.le_of_succ_le_succ more)
  | get next inductionHypothesis =>
      exact fun state => inductionHypothesis state (returns state) more
  | put written next inductionHypothesis =>
      exact inductionHypothesis returns more
  | halt => exact returns

/-- One after the other, two programs that return do so. -/
theorem Returns.bind
    {program : Program χ σ α}
    {rest : α → Program χ σ β}
    {few many : Nat}
    (first : program.Returns few)
    (second : ∀ value, (rest value).Returns many) :
    (program >>= rest).Returns (few + many) := by
  change (program.bind rest).Returns (few + many)
  induction program generalizing few with
  | pure value => exact (second value).mono (Nat.le_add_left many few)
  | ask next inductionHypothesis =>
      obtain - | few := few
      · exact first.elim
      rw [Nat.succ_add]
      exact fun answer => inductionHypothesis answer (first answer)
  | get next inductionHypothesis =>
      exact fun state => inductionHypothesis state (first state)
  | put written next inductionHypothesis => exact inductionHypothesis first
  | halt => exact first

theorem Returns.pure (value : α) {most : Nat} :
    (Pure.pure value : Program χ σ α).Returns most := trivial

/-- Asking for an answer takes one. -/
theorem Returns.bindAnswer
    {rest : χ → Program χ σ α}
    {most : Nat}
    (later : ∀ answer, (rest answer).Returns most) :
    (Program.answer >>= rest).Returns (most + 1) := later

theorem Returns.bindCurrent
    {rest : σ → Program χ σ α}
    {most : Nat}
    (later : ∀ state, (rest state).Returns most) :
    (Program.current >>= rest).Returns most := later

theorem Returns.bindModify
    {update : σ → σ}
    {rest : Unit → Program χ σ α}
    {most : Nat}
    (later : (rest ()).Returns most) :
    (Program.modify update >>= rest).Returns most :=
  fun _ => later

theorem Returns.ite
    {condition : Prop} [Decidable condition]
    {first second : Program χ σ α}
    {most : Nat}
    (whenTrue : first.Returns most)
    (whenFalse : second.Returns most) :
    (if condition then first else second).Returns most := by
  split
  · exact whenTrue
  · exact whenFalse

/-- A script with enough answers takes the program to its end. -/
theorem Returns.run
    {program : Program χ σ α}
    {most : Nat}
    (returns : program.Returns most)
    (state : σ)
    {script : List χ}
    (enough : most ≤ script.length) :
    ∃ value after rest, program.run state script = .done value after rest := by
  induction program generalizing most state script with
  | pure value => exact ⟨value, state, script, rfl⟩
  | ask next inductionHypothesis =>
      obtain - | most := most
      · exact returns.elim
      cases script with
      | nil => exact absurd enough (Nat.not_succ_le_zero most)
      | cons answer script =>
          exact inductionHypothesis answer (returns answer) state
            (Nat.le_of_succ_le_succ enough)
  | get next inductionHypothesis =>
      exact inductionHypothesis state (returns state) state enough
  | put written next inductionHypothesis =>
      exact inductionHypothesis returns written enough
  | halt => exact returns.elim

end Program
end MotionSense
