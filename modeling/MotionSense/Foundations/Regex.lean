import Mathlib

/-!
# Regular expressions with groups

A pattern matches the beginnings of a text in an order of preference: repetitions
are greedy, an optional part is rather there than not, and the first match of the
whole pattern wins.  A match gives what each group took, in the order of the
groups, and the text behind it.
-/

namespace MotionSense

/-- A pattern: greedy repetitions of a class of characters, put together. -/
inductive Regex
  | repeated (accepts : Char → Bool) (least : Nat) (most : Option Nat)
  | seq (first second : Regex)
  | optional (body : Regex)
  | group (body : Regex)

namespace Regex

/-- What the groups took, and the text behind the match. -/
abbrev Match := List (List Char) × List Char

/-- The number of groups. -/
def groups : Regex → Nat
  | .repeated _ _ _ => 0
  | .seq first second => first.groups + second.groups
  | .optional body => body.groups
  | .group body => body.groups + 1

/-- The longest beginning of accepted characters that may be taken. -/
def longest (accepts : Char → Bool) (most : Option Nat) (text : List Char) :
    List Char :=
  match most with
  | none => text.takeWhile accepts
  | some most => (text.take most).takeWhile accepts

/-- The matches at the beginning of a text, the preferred one first.  A group that
takes no part in the match has taken nothing. -/
@[simp] def matchings : Regex → List Char → List Match
  | .repeated accepts least most, text =>
      let lengths := (List.range ((longest accepts most text).length + 1)).reverse
      (lengths.filter fun length => least ≤ length).map fun length =>
        ([], text.drop length)
  | .seq first second, text =>
      (first.matchings text).flatMap fun found =>
        (second.matchings found.2).map fun more =>
          (found.1 ++ more.1, more.2)
  | .optional body, text =>
      body.matchings text ++ [(List.replicate body.groups [], text)]
  | .group body, text =>
      (body.matchings text).map fun found =>
        (text.take (text.length - found.2.length) :: found.1, found.2)

/-- What the groups of the preferred match at the beginning of a text took. -/
def findSubmatch (pattern : Regex) (text : List Char) :
    Option (List (List Char)) :=
  (pattern.matchings text).head?.map Prod.fst

/-- The preferred match. -/
def Prefers (pattern : Regex) (text : List Char) (found : Match) : Prop :=
  (pattern.matchings text).head? = some found

/-- There is no match. -/
def Rejects (pattern : Regex) (text : List Char) : Prop :=
  pattern.matchings text = []

theorem Prefers.findSubmatch
    {pattern : Regex} {text : List Char} {found : Match}
    (prefers : pattern.Prefers text found) :
    pattern.findSubmatch text = some found.1 := by
  rw [Regex.findSubmatch, prefers, Option.map_some]

theorem Rejects.findSubmatch
    {pattern : Regex} {text : List Char} (rejects : pattern.Rejects text) :
    pattern.findSubmatch text = none := by
  rw [Regex.findSubmatch, rejects]
  rfl

/-! ## Repetitions -/

/-- A repetition takes as many characters as it can. -/
theorem prefers_repeated
    {accepts : Char → Bool} {least : Nat} {most : Option Nat}
    {taken rest : List Char}
    (longest : longest accepts most (taken ++ rest) = taken)
    (enough : least ≤ taken.length) :
    (repeated accepts least most).Prefers (taken ++ rest) ([], rest) := by
  rw [Prefers, matchings, longest, List.range_succ, List.reverse_append,
    List.reverse_singleton, List.singleton_append, List.filter_cons_of_pos
      (by simpa using enough), List.map_cons, List.head?_cons, List.drop_left]

theorem rejects_repeated
    {accepts : Char → Bool} {least : Nat} {most : Option Nat}
    {text : List Char} (few : (longest accepts most text).length < least) :
    (repeated accepts least most).Rejects text := by
  rw [Rejects, matchings, List.map_eq_nil_iff, List.filter_eq_nil_iff]
  intro length member
  rw [List.mem_reverse, List.mem_range] at member
  rw [decide_eq_true_iff]
  omega

/-- Accepted characters followed by none. -/
theorem longest_none
    {accepts : Char → Bool} {taken rest : List Char}
    (accepted : ∀ char ∈ taken, accepts char = true)
    (ends : ∀ char ∈ rest.head?, accepts char = false) :
    longest accepts none (taken ++ rest) = taken := by
  rw [longest, List.takeWhile_append_of_pos accepted]
  cases rest with
  | nil => exact List.append_nil _
  | cons char rest =>
      rw [List.takeWhile_cons_of_neg
        (Bool.not_eq_true _ ▸ ends char rfl), List.append_nil]

/-- As many accepted characters as may be taken, or fewer followed by none. -/
theorem longest_some
    {accepts : Char → Bool} {most : Nat} {taken rest : List Char}
    (accepted : ∀ char ∈ taken, accepts char = true)
    (ends : taken.length = most ∨
      taken.length < most ∧ ∀ char ∈ rest.head?, accepts char = false) :
    longest accepts (some most) (taken ++ rest) = taken := by
  rw [longest]
  rcases ends with full | ⟨short, stops⟩
  · rw [← full, List.take_left]
    exact List.takeWhile_eq_self_iff.mpr accepted
  · rw [List.take_append, List.take_of_length_le short.le]
    apply longest_none accepted
    intro char first
    rw [List.head?_take, if_neg (by omega)] at first
    exact stops char first

/-! ## Patterns put together -/

variable {first second body : Regex} {text rest : List Char}
  {taken more : List (List Char)}

theorem Prefers.seq
    {middle : List Char}
    (prefersFirst : first.Prefers text (taken, middle))
    (prefersSecond : second.Prefers middle (more, rest)) :
    (first.seq second).Prefers text (taken ++ more, rest) := by
  obtain ⟨others, firstMatches⟩ := List.head?_eq_some_iff.mp prefersFirst
  obtain ⟨othersToo, secondMatches⟩ :=
    List.head?_eq_some_iff.mp prefersSecond
  rw [Prefers, matchings, firstMatches, List.flatMap_cons, secondMatches]
  rfl

theorem Rejects.seq (rejects : first.Rejects text) :
    (first.seq second).Rejects text := by
  rw [Rejects, matchings, rejects, List.flatMap_nil]

theorem Prefers.optional
    {found : Match} (prefers : body.Prefers text found) :
    body.optional.Prefers text found := by
  rw [Prefers, matchings, List.head?_append, prefers, Option.some_or]

/-- An optional part that does not match takes nothing. -/
theorem Rejects.optional (rejects : body.Rejects text) :
    body.optional.Prefers text (List.replicate body.groups [], text) := by
  rw [Prefers, matchings, rejects, List.nil_append, List.head?_cons]

/-- A group takes what its body matches. -/
theorem Prefers.group
    {inside : List Char}
    (prefers : body.Prefers (inside ++ rest) (taken, rest)) :
    body.group.Prefers (inside ++ rest) (inside :: taken, rest) := by
  rw [Prefers, matchings, List.head?_map, prefers, Option.map_some,
    List.length_append, Nat.add_sub_cancel, List.take_left]

theorem Rejects.group (rejects : body.Rejects text) :
    body.group.Rejects text := by
  rw [Rejects, matchings, rejects, List.map_nil]

end Regex
end MotionSense
