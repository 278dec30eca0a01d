/-!
# White space

White space is the Unicode White_Space property. The trimming functions drop it at the ends of a
text and nowhere else: `trimStart_append_of_blank` says that leading white space does not matter,
`trimStart_cons` that the first other character stops the trimming.
-/

namespace Scaffold.Text

/-- The Unicode White_Space property. -/
def isBlank (c : Char) : Bool :=
  let n := c.toNat
  n == 0x20 || (0x9 ≤ n && n ≤ 0xD) || n == 0x85 || n == 0xA0 || n == 0x1680 ||
    (0x2000 ≤ n && n ≤ 0x200A) || n == 0x2028 || n == 0x2029 || n == 0x202F || n == 0x205F ||
    n == 0x3000

/-! ## Trimming lists of characters -/

/-- Drops the characters at the end that satisfy the test. -/
def dropEndWhile (p : Char → Bool) (cs : List Char) : List Char :=
  (cs.reverse.dropWhile p).reverse

/-- Drops white space at the start. -/
def trimStart (cs : List Char) : List Char := cs.dropWhile isBlank

/-- Drops white space at the end. -/
def trimEnd (cs : List Char) : List Char := dropEndWhile isBlank cs

/-- Drops white space at both ends. -/
def trim (cs : List Char) : List Char := trimEnd (trimStart cs)

@[simp] theorem trimStart_nil : trimStart [] = [] := rfl

theorem trimStart_cons (c : Char) (cs : List Char) (h : isBlank c = false) :
    trimStart (c :: cs) = c :: cs := by
  simp [trimStart, List.dropWhile, h]

theorem trimStart_append_of_blank (blank cs : List Char) (h : ∀ c ∈ blank, isBlank c = true) :
    trimStart (blank ++ cs) = trimStart cs := by
  induction blank with
  | nil => rfl
  | cons c rest ih =>
    have hc : isBlank c = true := h c (by simp)
    simp only [trimStart, List.cons_append, List.dropWhile, hc]
    exact ih fun d hd => h d (by simp [hd])

@[simp] theorem trimEnd_nil : trimEnd [] = [] := rfl

theorem trimEnd_concat (c : Char) (cs : List Char) (h : isBlank c = false) :
    trimEnd (cs ++ [c]) = cs ++ [c] := by
  simp [trimEnd, dropEndWhile, h]

theorem trimEnd_append_of_blank (blank cs : List Char) (h : ∀ c ∈ blank, isBlank c = true) :
    trimEnd (cs ++ blank) = trimEnd cs := by
  have key := trimStart_append_of_blank blank.reverse cs.reverse (by simpa using h)
  simp only [trimStart] at key
  simp only [trimEnd, dropEndWhile, List.reverse_append, key]

/-! ## Trimming texts -/

/-- A text without the white space at its ends. -/
def trimmed (s : String) : String := String.ofList (trim s.toList)

/-- Whether a text is empty or holds only white space. -/
def allBlank (s : String) : Bool := s.toList.all isBlank

end Scaffold.Text
