namespace Watering.Text

/-- Closed ranges of code points, ascending and apart. -/
def blankRanges : List (Nat×Nat) :=
  [(0x09,0x0D),(0x20,0x20),(0x85,0x85),(0xA0,0xA0),(0x1680,0x1680),(0x2000,0x200A),
    (0x2028,0x2029),(0x202F,0x202F),(0x205F,0x205F),(0x3000,0x3000)]

def isBlank (c : Char) : Bool := blankRanges.any fun r => r.1≤c.toNat && c.toNat≤r.2

def trim (s : List Char) : List Char :=
  ((s.dropWhile isBlank).reverse.dropWhile isBlank).reverse

/-- The parts of a text between separators; a text without one is its only part. -/
def splitOn (isSeparator : Char → Bool) : List Char → List (List Char)
  | [] => [[]]
  | c::s =>
    if isSeparator c then []::splitOn isSeparator s
    else match splitOn isSeparator s with
      | [] => [[c]]
      | part::parts => (c::part)::parts

/-- The runs of characters between blanks. -/
def words (s : List Char) : List (List Char) := (splitOn isBlank s).filter (·≠[])

end Watering.Text
