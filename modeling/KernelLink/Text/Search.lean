/-!
# Finding and replacing text

Occurrences are found from the left and do not overlap.
-/

namespace KernelLink

/-- Whether a pattern stands somewhere in a text. -/
def occurs (pattern : List Char) : List Char → Bool
  | [] => pattern.isEmpty
  | c :: s => pattern.isPrefixOf (c :: s) || occurs pattern s

/-- Replaces a pattern of at least one character, first passing over `skip` characters of an
occurrence that was just replaced. -/
def replaceFrom (pattern replacement : List Char) (skip : Nat) : List Char → List Char
  | [] => []
  | c :: s =>
    if skip > 0 then replaceFrom pattern replacement (skip - 1) s
    else if pattern.isPrefixOf (c :: s) then
      replacement ++ replaceFrom pattern replacement (pattern.length - 1) s
    else c :: replaceFrom pattern replacement 0 s

/-- Replaces every occurrence of a pattern of at least one character. -/
def replaceText (pattern replacement text : String) : String :=
  String.ofList (replaceFrom pattern.toList replacement.toList 0 text.toList)

end KernelLink
