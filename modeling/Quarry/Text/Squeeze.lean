import Quarry.Text.Blank

namespace Quarry.Text

def trimBoth (p : Char → Bool) (s : List Char) : List Char :=
  ((s.dropWhile p).reverse.dropWhile p).reverse

/-- Writes every longest run of a class as one space; `inRun` tells that the run has begun. -/
def collapseFrom (p : Char → Bool) : Bool → List Char → List Char
  | _, [] => []
  | inRun, c :: s =>
    if p c then
      if inRun then collapseFrom p true s else ' ' :: collapseFrom p true s
    else c :: collapseFrom p false s

def collapse (p : Char → Bool) (s : List Char) : List Char :=
  collapseFrom p false s

def splitLines : List Char → List (List Char)
  | [] => [[]]
  | c :: s =>
    if c = '\n' then [] :: splitLines s
    else match splitLines s with
      | [] => [[c]]
      | l :: ls => (c :: l) :: ls

def joinLines : List (List Char) → List Char
  | [] => []
  | [l] => l
  | l :: ls => l ++ '\n' :: joinLines ls

def trimLines (s : List Char) : List Char :=
  joinLines ((splitLines s).map (trimBoth isLineBlank))

/-- Keeps at most two line breaks in a row; `seen` counts those just written. -/
def limitBreaksFrom : Nat → List Char → List Char
  | _, [] => []
  | seen, c :: s =>
    if c = '\n' then
      if 2 ≤ seen then limitBreaksFrom seen s else c :: limitBreaksFrom (seen + 1) s
    else c :: limitBreaksFrom 0 s

def limitBreaks (s : List Char) : List Char :=
  limitBreaksFrom 0 s

/-- Runs of plain spaces become one space; everything else between the outer blanks stays. -/
def squeezeSpaces (s : List Char) : List Char :=
  trimBoth isBlank (collapse (· = ' ') s)

/-- The text on one line: every run of spaces and line breaks becomes one space. -/
def squeezeToLine (s : List Char) : List Char :=
  trimBoth isBlank (collapse isSpace s)

/-- Paragraphs stay apart: lines lose their outer blanks, and of many empty lines one remains. -/
def squeezeParagraphs (s : List Char) : List Char :=
  trimBoth isBlank (collapse isLineBlank (limitBreaks (trimLines s)))

end Quarry.Text
