import Netscribe.Text.Blank
/-!
Replacement of every occurrence of a text by another, in one pass from left to right.
-/
namespace Netscribe.Text

/-- Occurrences do not overlap, and what is put in is not looked at again. An empty text has no
    occurrences. -/
def replaceChars (needle replacement : List Char) : List Char → List Char
  | [] => []
  | c :: rest =>
    if needle ≠ [] ∧ needle <+: c :: rest then
      replacement ++ replaceChars needle replacement (rest.drop (needle.length - 1))
    else c :: replaceChars needle replacement rest
termination_by cs => cs.length
decreasing_by
  · simp only [List.length_drop, List.length_cons]; omega
  · simp

def replace (needle replacement s : String) : String :=
  .ofList (replaceChars needle.toList replacement.toList s.toList)

end Netscribe.Text
