namespace Watering.Document.Toml

def isBlank (c : Char) : Bool := c== ' ' || c== '\t'

def skipBlanks (s : List Char) : List Char := s.dropWhile isBlank

/-- A character that may stand in a comment or, but for its delimiters, in a string on one line. -/
def isPlain (c : Char) : Bool := c== '\t' || (' '≤c && c≠ '\x7F')

/-- The text behind the end of a line. -/
def newline? : List Char → Option (List Char)
  | '\n'::s => some s
  | '\r':: '\n'::s => some s
  | _ => none

/-- A line is over when only blanks and a comment are left of it; the last has no end of its own. -/
def lineEnd? (s : List Char) : Option (List Char) :=
  let s := match skipBlanks s with
    | '#'::s => s.dropWhile isPlain
    | s => s
  if s.isEmpty then some [] else newline? s

/-- The text behind blanks, ends of lines and whole comments; `comment` tells whether one is
open. -/
def gap? (comment : Bool) : List Char → Option (List Char)
  | [] => some []
  | '\n'::s => gap? false s
  | '\r':: '\n'::s => gap? false s
  | c::s =>
    if comment then if isPlain c then gap? true s else none
    else if c== '#' then gap? true s
    else if isBlank c then gap? false s
    else some (c::s)

end Watering.Document.Toml
