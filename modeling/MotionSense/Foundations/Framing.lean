import Mathlib

/-!
# Length-prefixed frames on a byte stream

A sender writes each frame behind a header of fixed width that announces its
length.  A reader collects the header, checks the announced length, collects the
body and hands the frame out.  It takes the stream one unit at a time, so how
the stream is split into reads does not matter.
-/

namespace MotionSense

/-- How lengths are announced, and which ones a reader accepts. -/
structure Framing (β : Type) where
  width : Nat
  announce : Nat → List β
  announced : List β → Nat
  accepts : Nat → Bool
  width_pos : 0 < width
  length_announce : ∀ size, (announce size).length = width
  announced_announce : ∀ size, accepts size = true →
    announced (announce size) = size
  pos_of_accepts : ∀ size, accepts size = true → 0 < size

/-- A reader that is collecting a header, collecting a body of a known size, or
has given up. -/
inductive Reader (β : Type)
  | header (got : List β)
  | body (size : Nat) (got : List β)
  | stopped
  deriving DecidableEq

namespace Framing

variable {β : Type} (framing : Framing β)

/-- The header and the body of a frame. -/
def encode (frame : List β) : List β :=
  framing.announce frame.length ++ frame

/-- The reader after one more unit, with the frame it hands out, if any. -/
def feed (reader : Reader β) (unit : β) : Reader β × List (List β) :=
  match reader with
  | .header got =>
      let got := got ++ [unit]
      if got.length < framing.width then (.header got, [])
      else if framing.accepts (framing.announced got) then
        (.body (framing.announced got) [], [])
      else (.stopped, [])
  | .body size got =>
      let got := got ++ [unit]
      if got.length < size then (.body size got, [])
      else (.header [], [got])
  | .stopped => (.stopped, [])

/-- The reader after a piece of the stream, with the frames it hands out. -/
def feedAll (reader : Reader β) : List β → Reader β × List (List β)
  | [] => (reader, [])
  | unit :: units =>
      let first := framing.feed reader unit
      let later := feedAll first.1 units
      (later.1, first.2 ++ later.2)

@[simp] theorem feedAll_nil (reader : Reader β) :
    framing.feedAll reader [] = (reader, []) := rfl

/-- Reading a stream in two pieces. -/
theorem feedAll_append (reader : Reader β) (first second : List β) :
    framing.feedAll reader (first ++ second) =
      ((framing.feedAll (framing.feedAll reader first).1 second).1,
        (framing.feedAll reader first).2 ++
          (framing.feedAll (framing.feedAll reader first).1 second).2) := by
  induction first generalizing reader with
  | nil => rfl
  | cons unit first inductionHypothesis =>
      simp only [List.cons_append, feedAll, inductionHypothesis,
        List.append_assoc]

/-- A piece of the stream yields the first of the frames that all of it
yields. -/
theorem feedAll_take_prefix
    (reader : Reader β) (units : List β) (count : Nat) :
    (framing.feedAll reader (units.take count)).2 <+:
      (framing.feedAll reader units).2 := by
  conv_rhs => rw [← List.take_append_drop count units]
  rw [feedAll_append]
  exact List.prefix_append _ _

/-- An incomplete header yields nothing. -/
theorem feedAll_header_of_lt
    (got units : List β)
    (incomplete : got.length + units.length < framing.width) :
    framing.feedAll (.header got) units = (.header (got ++ units), []) := by
  induction units generalizing got with
  | nil => simp
  | cons unit units inductionHypothesis =>
      rw [List.length_cons] at incomplete
      have room : (got ++ [unit]).length < framing.width := by
        rw [List.length_append, List.length_singleton]
        omega
      have later := inductionHypothesis (got ++ [unit]) (by
        rw [List.length_append, List.length_singleton]
        omega)
      simp only [feedAll, feed, if_pos room, later, List.append_assoc,
        List.singleton_append, List.append_nil]

/-- An incomplete body yields nothing. -/
theorem feedAll_body_of_lt
    (size : Nat) (got units : List β)
    (incomplete : got.length + units.length < size) :
    framing.feedAll (.body size got) units =
      (.body size (got ++ units), []) := by
  induction units generalizing got with
  | nil => simp
  | cons unit units inductionHypothesis =>
      rw [List.length_cons] at incomplete
      have room : (got ++ [unit]).length < size := by
        rw [List.length_append, List.length_singleton]
        omega
      have later := inductionHypothesis (got ++ [unit]) (by
        rw [List.length_append, List.length_singleton]
        omega)
      simp only [feedAll, feed, if_pos room, later, List.append_assoc,
        List.singleton_append, List.append_nil]

/-- A complete header opens the body. -/
theorem feedAll_announce
    (size : Nat)
    (accepted : framing.accepts size = true) :
    framing.feedAll (.header []) (framing.announce size) =
      (.body size [], []) := by
  have width := framing.length_announce size
  have nonempty : framing.announce size ≠ [] :=
    List.ne_nil_of_length_pos (by rw [width]; exact framing.width_pos)
  obtain ⟨units, last, split⟩ : ∃ units last,
      framing.announce size = units ++ [last] :=
    ⟨_, _, (List.dropLast_append_getLast nonempty).symm⟩
  rw [split, List.length_append, List.length_singleton] at width
  have incomplete := framing.feedAll_header_of_lt [] units (by
    rw [List.length_nil]
    omega)
  have complete : ¬(units ++ [last]).length < framing.width := by
    rw [List.length_append, List.length_singleton]
    omega
  rw [split, feedAll_append, incomplete]
  simp only [feedAll, feed, List.nil_append, if_neg complete]
  rw [← split, framing.announced_announce size accepted, if_pos accepted]
  rfl

/-- A complete body is handed out. -/
theorem feedAll_body
    (frame : List β)
    (accepted : framing.accepts frame.length = true) :
    framing.feedAll (.body frame.length []) frame =
      (.header [], [frame]) := by
  have nonempty : frame ≠ [] :=
    List.ne_nil_of_length_pos (framing.pos_of_accepts _ accepted)
  obtain ⟨units, last, rfl⟩ : ∃ units last, frame = units ++ [last] :=
    ⟨_, _, (List.dropLast_append_getLast nonempty).symm⟩
  have incomplete := framing.feedAll_body_of_lt (units ++ [last]).length []
    units (by simp)
  rw [feedAll_append, incomplete]
  simp [feedAll, feed]

/-- A frame is read back as it was written. -/
theorem feedAll_encode
    (frame : List β)
    (accepted : framing.accepts frame.length = true) :
    framing.feedAll (.header []) (framing.encode frame) =
      (.header [], [frame]) := by
  rw [encode, feedAll_append, framing.feedAll_announce _ accepted,
    framing.feedAll_body frame accepted]
  rfl

/-- So are any number of frames, whatever follows them. -/
theorem feedAll_encode_append
    (frames : List (List β))
    (accepted : ∀ frame ∈ frames, framing.accepts frame.length = true)
    (rest : List β) :
    framing.feedAll (.header []) (frames.flatMap framing.encode ++ rest) =
      ((framing.feedAll (.header []) rest).1,
        frames ++ (framing.feedAll (.header []) rest).2) := by
  induction frames with
  | nil => rfl
  | cons frame frames inductionHypothesis =>
      have first := framing.feedAll_encode frame
        (accepted frame List.mem_cons_self)
      have later := inductionHypothesis fun other present =>
        accepted other (List.mem_cons_of_mem frame present)
      rw [List.flatMap_cons, List.append_assoc, feedAll_append, first, later]
      rfl

/-- A frame cut short yields nothing. -/
theorem feedAll_take_encode
    (frame : List β)
    (accepted : framing.accepts frame.length = true)
    (count : Nat)
    (short : count < (framing.encode frame).length) :
    (framing.feedAll (.header []) ((framing.encode frame).take count)).2 =
      [] := by
  have width := framing.length_announce frame.length
  rw [encode, List.length_append, width] at short
  rw [encode, List.take_append, width]
  by_cases inHeader : count < framing.width
  · have noBody : count - framing.width = 0 := by omega
    rw [noBody, List.take_zero, List.append_nil,
      framing.feedAll_header_of_lt [] _ (by
        rw [List.length_nil, List.length_take]
        omega)]
  · rw [List.take_of_length_le (by omega), feedAll_append,
      framing.feedAll_announce _ accepted,
      framing.feedAll_body_of_lt _ [] _ (by
        rw [List.length_nil, List.length_take]
        omega)]
    rfl

end Framing
end MotionSense
