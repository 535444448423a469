/-!
Blank characters and trimming. A character is blank if it has the Unicode property White_Space,
which 25 characters have.
-/

namespace Infiltration.Text

/-- The characters with the property White_Space. -/
def blanks : List Char :=
  ['\t', '\n', '\x0b', '\x0c', '\r', ' ', '\u0085', '\u00a0', '\u1680', '\u2000', '\u2001', '\u2002',
    '\u2003', '\u2004', '\u2005', '\u2006', '\u2007', '\u2008', '\u2009', '\u200a', '\u2028', '\u2029',
    '\u202f', '\u205f', '\u3000']

def isBlank (c : Char) : Bool := blanks.contains c

/-- The text without the blanks at its two ends. -/
def trim (text : List Char) : List Char :=
  ((text.dropWhile isBlank).reverse.dropWhile isBlank).reverse

/-- The pieces between newlines: one more than there are newlines. -/
def splitLines : List Char → List (List Char)
  | [] => [[]]
  | c :: rest =>
    if c = '\n' then [] :: splitLines rest
    else
      match splitLines rest with
      | [] => [[c]]
      | line :: lines => (c :: line) :: lines

/-! ## Trimming -/

theorem isBlank_of_isWhitespace {c : Char} (h : c.isWhitespace) : isBlank c := by
  simp only [Char.isWhitespace, Bool.or_eq_true, decide_eq_true_eq] at h
  rcases h with ((rfl | rfl) | rfl) | rfl <;> decide

/-! ## Splitting -/

theorem splitLines_ne_nil (text : List Char) : splitLines text ≠ [] := by
  cases text with
  | nil => simp [splitLines]
  | cons c rest =>
    rw [splitLines]
    split
    · simp
    · split <;> simp

theorem splitLines_append (a b : List Char) :
    splitLines (a ++ '\n' :: b) = splitLines a ++ splitLines b := by
  induction a with
  | nil => simp [splitLines]
  | cons c rest ih =>
    by_cases hc : c = '\n'
    · simp [splitLines, hc, ih]
    · cases h : splitLines rest with
      | nil => exact absurd h (splitLines_ne_nil rest)
      | cons line lines => simp [splitLines, hc, ih, h]

end Infiltration.Text
