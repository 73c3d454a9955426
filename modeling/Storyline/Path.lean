/-!
# Paths

Two paths are the same if their components are. Slashes in a row and at the end divide nothing, and
a dot names the place where one already is, so it counts only in front of a relative path.
-/

namespace Storyline

structure Path where
  isAbsolute : Bool
  components : List String
deriving DecidableEq, Repr

namespace Path

def ofString (s : String) : Path :=
  let pieces := s.splitOn "/"
  let isAbsolute := s.startsWith "/"
  let leadingDot := !isAbsolute && pieces.head? = some "."
  let named := pieces.filter fun c => c ≠ "" ∧ c ≠ "."
  ⟨isAbsolute, if leadingDot then "." :: named else named⟩

end Path

end Storyline
