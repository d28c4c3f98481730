import NetworkTime.Text.Blank

/-! Paths as text: names with slashes between them. -/

namespace NetworkTime.Path

/-- The parts between the slashes. The first of a path from the root is empty. -/
def parts (path : String) : List (List Char) := Text.splitOn '/' path.toList

/-- Parts that do not lead anywhere. -/
def isIdle (part : List Char) : Bool := part.isEmpty || part == ['.']

/-- The parts, the last first, without idle ones at the end of the path. -/
def backward (path : String) : List (List Char) := (parts path).reverse.dropWhile isIdle

/-- The name of what the path leads to, unless it leads up. -/
def fileName? (path : String) : Option (List Char) :=
  (backward path).head?.filter (· ≠ ['.', '.'])

/-- What follows the last point of the name. A point that starts the name does not count. -/
def extension? (path : String) : Option (List Char) := do
  let name ← fileName? path
  let (last, before) ← Text.splitOnce '.' name.reverse
  if before.isEmpty then none else some last.reverse

/-- The path of the directory that a path lies in, unless it is the root or where paths start. -/
def directory? (path : String) : Option String :=
  match ((backward path).drop 1).dropWhile isIdle with
  | [] => none
  | ps => some (String.ofList (['/'].intercalate ps.reverse))

end NetworkTime.Path
