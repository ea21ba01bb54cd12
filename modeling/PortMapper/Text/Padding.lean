/-!
# Padding

Columns are filled up with spaces to a width counted in characters.
-/

namespace PortMapper

/-- Fills a text up to a width; one that is wider stays as it is. -/
def padRight (width : Nat) (cs : List Char) : List Char :=
  cs ++ List.replicate (width - cs.length) ' '

end PortMapper
