namespace Quarry.Text

def isLineBlank (c : Char) : Bool :=
  c = ' ' || c = '\t'

/-- Markup and patterns know five spaces: the line blanks and three ends of line or page. -/
def isSpace (c : Char) : Bool :=
  isLineBlank c || c = '\n' || c.val = 0x0C || c = '\r'

def isMarkupBlank (c : Char) : Bool :=
  isLineBlank c || c = '\n' || c = '\r'

/-- White space as Unicode has it, with the four information separators. -/
def isBlank (c : Char) : Bool :=
  let n := c.toNat
  (0x09 ≤ n && n ≤ 0x0D) || (0x1C ≤ n && n ≤ 0x20) || n = 0x85 || n = 0xA0 || n = 0x1680 ||
    (0x2000 ≤ n && n ≤ 0x200A) || n = 0x2028 || n = 0x2029 || n = 0x202F || n = 0x205F ||
    n = 0x3000

theorem isSpace_of_isLineBlank {c : Char} (h : isLineBlank c = true) : isSpace c = true := by
  simp [isSpace, h]

theorem isBlank_of_isSpace {c : Char} (h : isSpace c = true) : isBlank c = true := by
  have hc : c = ' ' ∨ c = '\t' ∨ c = '\n' ∨ c.val = 0x0C ∨ c = '\r' := by
    simpa [isSpace, isLineBlank, or_assoc] using h
  rcases hc with rfl | rfl | rfl | hv | rfl
  · rfl
  · rfl
  · rfl
  · have : c.toNat = 12 := by simp [Char.toNat, hv]
    simp [isBlank, this]
  · rfl

end Quarry.Text
