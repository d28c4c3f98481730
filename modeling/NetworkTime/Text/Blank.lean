/-! White space as Unicode defines it, and text without the white space around it. -/

namespace NetworkTime.Text
variable {cs : List Char}

/-- The characters with the Unicode property `White_Space`. -/
def isBlank (c : Char) : Bool :=
  let n := c.toNat
  (0x9 ≤ n && n ≤ 0xD) || n == 0x20 || n == 0x85 || n == 0xA0 || n == 0x1680 ||
    (0x2000 ≤ n && n ≤ 0x200A) || n == 0x2028 || n == 0x2029 || n == 0x202F || n == 0x205F ||
    n == 0x3000

def trimStart (cs : List Char) : List Char := cs.dropWhile isBlank

def trimEnd (cs : List Char) : List Char := (cs.reverse.dropWhile isBlank).reverse

/-- The text between its first and its last character that is not blank. -/
def trim (cs : List Char) : List Char := trimEnd (trimStart cs)

/-- The upper-case ASCII letters become lower case; every other character stays. -/
def lowered (cs : List Char) : List Char := cs.map Char.toLower

theorem trim_nil : trim [] = [] := rfl

/-- The parts before and after the first `sep`, if there is one. -/
def splitOnce (sep : Char) : List Char → Option (List Char × List Char)
  | [] => none
  | c :: cs =>
    if c = sep then some ([], cs)
    else (splitOnce sep cs).map fun (before, after) => (c :: before, after)

/-- The parts between the occurrences of `sep`, of which there is always one more. -/
def splitOn (sep : Char) : List Char → List (List Char)
  | [] => [[]]
  | c :: cs =>
    if c = sep then [] :: splitOn sep cs
    else match splitOn sep cs with
      | [] => [[c]]
      | part :: parts => (c :: part) :: parts

theorem splitOn_ne_nil (sep : Char) : splitOn sep cs ≠ [] := by
  cases cs with
  | nil => simp [splitOn]
  | cons c cs =>
    simp only [splitOn]
    split
    · simp
    · split <;> simp

end NetworkTime.Text
