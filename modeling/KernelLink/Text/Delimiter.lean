/-!
# Delimiters

Finding the delimiter that closes an opened one, by counting. The search works on any sequence with
two distinguished elements, and stops at the first place where as many have been closed as opened.
-/

namespace KernelLink

variable {α : Type} [DecidableEq α]

/-- How far ahead the closing delimiter stands, with `depth` delimiters open; `none` when one too
many is closed or the sequence ends first. -/
def closingFrom? (opening closing : α) (depth : Nat) : List α → Option Nat
  | [] => none
  | x :: s =>
    if x = opening then (closingFrom? opening closing (depth + 1) s).map (· + 1)
    else if x = closing then
      match depth with
      | 0 => none
      | 1 => some 0
      | depth + 1 => (closingFrom? opening closing depth s).map (· + 1)
    else (closingFrom? opening closing depth s).map (· + 1)

/-- The position of the delimiter that closes the one at the front. -/
def closing? (opening closing : α) (s : List α) : Option Nat := closingFrom? opening closing 0 s

/-- What stands between the delimiter at the front and the one that closes it, and what follows. -/
def enclosed? (opening closing : α) (s : List α) : Option (List α × List α) :=
  (closing? opening closing s).map fun n => ((s.take n).drop 1, s.drop (n + 1))

/-- The parts between separators; one more than there are separators. -/
def splitAtEach (separator : α) : List α → List (List α)
  | [] => [[]]
  | x :: s =>
    if x = separator then [] :: splitAtEach separator s
    else match splitAtEach separator s with
      | part :: parts => (x :: part) :: parts
      | [] => [[x]]

end KernelLink
