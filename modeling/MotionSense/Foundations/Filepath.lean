import Mathlib

/-!
# Lexical file paths

`Join` and `Clean` of Go's `path/filepath` on a Unix system.  A path is cut at
its slashes into elements; cleaning drops the empty ones and `.`, and lets `..`
cancel the element in front of it.
-/

namespace MotionSense
namespace Filepath

/-- A path or one of its elements. -/
abbrev Text := List Char

/-- The element `..` after the elements kept so far, the last one first. -/
def climb (rooted : Bool) : List Text → List Text
  | [] => if rooted then [] else [['.', '.']]
  | last :: earlier =>
      if last = ['.', '.'] then ['.', '.'] :: last :: earlier else earlier

/-- An element of a path after the elements kept so far. -/
def cleanStep (rooted : Bool) (kept : List Text) (element : Text) :
    List Text :=
  if element = [] ∨ element = ['.'] then kept
  else if element = ['.', '.'] then climb rooted kept
  else element :: kept

/-- The path begins with a slash. -/
def isRooted (path : Text) : Bool := path.head? = some '/'

/-- What cleaning keeps of the elements of a path. -/
def cleanElements (rooted : Bool) (elements : List Text) : List Text :=
  (elements.foldl (cleanStep rooted) []).reverse

/-- The text of a clean path. -/
def render (rooted : Bool) (elements : List Text) : Text :=
  if rooted then '/' :: ['/'].intercalate elements
  else if elements = [] then ['.']
  else ['/'].intercalate elements

/-- `filepath.Clean`. -/
def clean (path : Text) : Text :=
  render (isRooted path) (cleanElements (isRooted path) (path.splitOn '/'))

/-- `filepath.Join`: empty elements in front are left out, the rest is joined
with slashes and cleaned. -/
def join : List Text → Text
  | [] => []
  | [] :: elements => join elements
  | elements => clean (['/'].intercalate elements)

/-! ## Joining plain names -/

/-- A name of a file or a directory. -/
structure IsName (name : Text) : Prop where
  nonempty : name ≠ []
  noSlash : '/' ∉ name
  notDot : name ≠ ['.']
  notDotDot : name ≠ ['.', '.']

/-- Cleaning keeps names. -/
theorem foldl_cleanStep_names
    (rooted : Bool)
    {names : List Text}
    (areNames : ∀ name ∈ names, IsName name)
    (kept : List Text) :
    names.foldl (cleanStep rooted) kept = names.reverse ++ kept := by
  induction names generalizing kept with
  | nil => rfl
  | cons name names inductionHypothesis =>
      have isName := areNames name List.mem_cons_self
      have pushed : cleanStep rooted kept name = name :: kept := by
        rw [cleanStep, if_neg (not_or.mpr ⟨isName.nonempty, isName.notDot⟩),
          if_neg isName.notDotDot]
      rw [List.foldl_cons, pushed, inductionHypothesis
        fun other member => areNames other (List.mem_cons_of_mem _ member),
        List.reverse_cons, List.append_assoc]
      rfl

/-- The elements of the clean form of a directory, none for the empty path. -/
def directory (root : Text) : List Text :=
  cleanElements (isRooted root) (root.splitOn '/')

/-- A path below a directory. -/
def below (root : Text) (names : List Text) : Text :=
  render (isRooted root) (directory root ++ names)

theorem cleanElements_append_names
    (rooted : Bool)
    (elements : List Text)
    {names : List Text}
    (areNames : ∀ name ∈ names, IsName name) :
    cleanElements rooted (elements ++ names) =
      cleanElements rooted elements ++ names := by
  rw [cleanElements, List.foldl_append, foldl_cleanStep_names rooted areNames,
    List.reverse_append, List.reverse_reverse]
  rfl

theorem splitOn_intercalate_names
    {names : List Text}
    (areNames : ∀ name ∈ names, IsName name)
    (some : names ≠ []) :
    (['/'].intercalate names).splitOn '/' = names :=
  List.splitOn_intercalate '/' (fun name member => (areNames name member).noSlash)
    some

/-- Joining names to a directory gives a path below it. -/
theorem join_names
    (root : Text)
    {names : List Text}
    (areNames : ∀ name ∈ names, IsName name)
    (some : names ≠ []) :
    join (root :: names) = below root names := by
  cases root with
  | nil =>
      obtain ⟨name, rest, rfl⟩ := List.exists_cons_of_ne_nil some
      have isName := areNames name List.mem_cons_self
      have unrooted : isRooted (['/'].intercalate (name :: rest)) = false := by
        obtain ⟨letter, text, rfl⟩ :=
          List.exists_cons_of_ne_nil isName.nonempty
        have notSlash : letter ≠ '/' := fun same =>
          isName.noSlash (same ▸ List.mem_cons_self)
        cases rest <;>
          simp [isRooted, List.intercalate_cons_cons, notSlash]
      have joined : join ([] :: name :: rest) =
          clean (['/'].intercalate (name :: rest)) := by
        obtain ⟨letter, text, rfl⟩ :=
          List.exists_cons_of_ne_nil isName.nonempty
        rfl
      rw [joined, clean, unrooted, splitOn_intercalate_names areNames some]
      exact congrArg (render false)
        (cleanElements_append_names false [] areNames)
  | cons letter text =>
      have joined : ['/'].intercalate ((letter :: text) :: names) =
          (letter :: text) ++ '/' :: ['/'].intercalate names := by
        obtain ⟨name, rest, rfl⟩ := List.exists_cons_of_ne_nil some
        rw [List.intercalate_cons_cons, List.append_assoc]
        rfl
      change clean (['/'].intercalate ((letter :: text) :: names)) = _
      rw [joined, clean, List.splitOn_append_cons_self,
        splitOn_intercalate_names areNames some, below, directory,
        ← cleanElements_append_names _ _ areNames]
      rfl

/-! ## Different names, different paths -/

theorem not_slash_mem_of_mem_splitOn
    (path : Text) :
    ∀ element ∈ path.splitOn '/', '/' ∉ element := by
  induction path with
  | nil =>
      intro element member
      rw [List.splitOn_nil, List.mem_singleton] at member
      rw [member]
      exact List.not_mem_nil
  | cons letter path inductionHypothesis =>
      intro element member
      rw [List.splitOn_cons_eq_if_modifyHead] at member
      split at member
      · rcases List.mem_cons.mp member with rfl | later
        · exact List.not_mem_nil
        · exact inductionHypothesis element later
      · rename_i other
        obtain ⟨first, rest, same⟩ :=
          List.exists_cons_of_ne_nil (List.splitOn_ne_nil '/' path)
        rw [same, List.modifyHead_cons] at member
        rw [same] at inductionHypothesis
        rcases List.mem_cons.mp member with rfl | later
        · intro slash
          rcases List.mem_cons.mp slash with rfl | inside
          · exact other (by simp)
          · exact inductionHypothesis first List.mem_cons_self inside
        · exact inductionHypothesis element (List.mem_cons_of_mem _ later)

theorem mem_climb
    {rooted : Bool}
    {kept : List Text}
    {element : Text}
    (member : element ∈ climb rooted kept) :
    element = ['.', '.'] ∨ element ∈ kept := by
  cases kept with
  | nil =>
      cases rooted with
      | true => exact absurd member List.not_mem_nil
      | false => exact .inl (List.mem_singleton.mp member)
  | cons last earlier =>
      rw [climb] at member
      split at member
      · exact List.mem_cons.mp member
      · exact .inr (List.mem_cons_of_mem last member)

theorem mem_cleanStep
    {rooted : Bool}
    {kept : List Text}
    {next element : Text}
    (member : element ∈ cleanStep rooted kept next) :
    element = next ∨ element ∈ kept := by
  rw [cleanStep] at member
  split at member
  · exact .inr member
  · split at member
    · rename_i parent
      rw [parent]
      exact mem_climb member
    · exact List.mem_cons.mp member

theorem mem_foldl_cleanStep
    {rooted : Bool}
    {elements kept : List Text}
    {element : Text}
    (member : element ∈ elements.foldl (cleanStep rooted) kept) :
    element ∈ elements ∨ element ∈ kept := by
  induction elements generalizing kept with
  | nil => exact .inr member
  | cons next elements inductionHypothesis =>
      rcases inductionHypothesis member with later | stepped
      · exact .inl (List.mem_cons_of_mem next later)
      · rcases mem_cleanStep stepped with rfl | earlier
        · exact .inl List.mem_cons_self
        · exact .inr earlier

/-- Cleaning makes up no element. -/
theorem mem_cleanElements
    {rooted : Bool}
    {elements : List Text}
    {element : Text}
    (member : element ∈ cleanElements rooted elements) :
    element ∈ elements := by
  rcases mem_foldl_cleanStep (List.mem_reverse.mp member) with there | none
  · exact there
  · exact absurd none List.not_mem_nil

/-- A text in which there is something can be read back. -/
theorem render_injective
    {rooted : Bool}
    {elements others : List Text}
    (slashless : ∀ element ∈ elements, '/' ∉ element)
    (slashlessToo : ∀ element ∈ others, '/' ∉ element)
    (nonempty : elements ≠ [])
    (nonemptyToo : others ≠ [])
    (same : render rooted elements = render rooted others) :
    elements = others := by
  have texts : ['/'].intercalate elements = ['/'].intercalate others := by
    cases rooted with
    | true => exact List.cons_injective same
    | false =>
        rw [render, render, if_neg Bool.false_ne_true, if_neg nonempty,
          if_neg Bool.false_ne_true, if_neg nonemptyToo] at same
        exact same
  rw [← List.splitOn_intercalate '/' slashless nonempty, texts,
    List.splitOn_intercalate '/' slashlessToo nonemptyToo]

/-- The names below a directory can be read off the path. -/
theorem below_injective
    (root : Text)
    {names others : List Text}
    (areNames : ∀ name ∈ names, IsName name)
    (areOthers : ∀ name ∈ others, IsName name)
    (some : names ≠ [])
    (someOther : others ≠ [])
    (same : below root names = below root others) :
    names = others := by
  have slashless : ∀ {names : List Text},
      (∀ name ∈ names, IsName name) →
        ∀ element ∈ directory root ++ names, '/' ∉ element := by
    intro names areNames element member
    rcases List.mem_append.mp member with inside | named
    · exact not_slash_mem_of_mem_splitOn root element (mem_cleanElements inside)
    · exact (areNames element named).noSlash
  exact List.append_cancel_left
    (render_injective (slashless areNames) (slashless areOthers)
      (List.append_ne_nil_of_right_ne_nil _ some)
      (List.append_ne_nil_of_right_ne_nil _ someOther) same)

end Filepath
end MotionSense
