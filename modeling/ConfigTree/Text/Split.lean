
namespace ConfigTree

namespace Text

/-- Splits characters at a non-empty separator `s0 :: srest`; `acc` is the piece being read,
reversed. -/
def splitChars (s0 : Char) (srest : List Char) (acc : List Char) : List Char → List (List Char)
  | [] => [acc.reverse]
  | c :: rest =>
    if (s0 :: srest).isPrefixOf (c :: rest) then
      acc.reverse :: splitChars s0 srest [] ((c :: rest).drop (srest.length + 1))
    else splitChars s0 srest (c :: acc) rest
termination_by cs => cs.length

/-- The pieces of a text between occurrences of a separator; an empty separator splits nothing. -/
def splitOnText (s sep : String) : List String :=
  match sep.toList with
  | [] => [s]
  | s0 :: srest => (splitChars s0 srest [] s.toList).map String.ofList

end Text

end ConfigTree
