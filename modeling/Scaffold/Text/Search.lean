/-!
# Looking for a text in a text

Splitting, replacing and finding work on lists of characters and read from left to right. The key
construction is `pieces`: the parts of a text between the occurrences of a separator, which do not
overlap. Main facts: `pieces_ne_nil` (there is always a piece) and `intercalate_pieces` (putting the
separator back between the pieces gives the text again).
-/

namespace Scaffold.Text

/-! ## The start of a text -/

/-- What follows `pat` at the start of a text, if the text starts with it. -/
def stripStart? : (pat cs : List Char) → Option (List Char)
  | [], cs => some cs
  | _ :: _, [] => none
  | p :: pat, c :: cs => if p = c then stripStart? pat cs else none

theorem stripStart?_append (pat cs : List Char) : stripStart? pat (pat ++ cs) = some cs := by
  induction pat with
  | nil => rfl
  | cons p pat ih => simp [stripStart?, ih]

theorem eq_append_of_stripStart? {pat cs rest : List Char} (h : stripStart? pat cs = some rest) :
    cs = pat ++ rest := by
  induction pat generalizing cs with
  | nil => simpa [stripStart?] using h
  | cons p pat ih =>
    cases cs with
    | nil => simp [stripStart?] at h
    | cons c cs =>
      by_cases hc : p = c
      · simp [stripStart?, hc] at h
        simp [hc, ih h]
      · simp [stripStart?, hc] at h

theorem stripStart?_eq_some_iff {pat cs rest : List Char} :
    stripStart? pat cs = some rest ↔ cs = pat ++ rest :=
  ⟨eq_append_of_stripStart?, fun h => h ▸ stripStart?_append pat rest⟩

/-- Whether a text starts with `pat`. -/
def startsWith (pat cs : List Char) : Bool := (stripStart? pat cs).isSome

/-- Whether a text ends with `pat`. -/
def endsWith (pat cs : List Char) : Bool := startsWith pat.reverse cs.reverse

/-- What precedes `pat` at the end of a text, if the text ends with it. -/
def stripEnd? (pat cs : List Char) : Option (List Char) :=
  (stripStart? pat.reverse cs.reverse).map List.reverse

/-! ## Finding -/

/-- The text before and after the first occurrence of `pat`. -/
def cutFirst? (pat : List Char) : List Char → Option (List Char × List Char)
  | [] => (stripStart? pat []).map fun rest => ([], rest)
  | c :: cs =>
    match stripStart? pat (c :: cs) with
    | some rest => some ([], rest)
    | none => (cutFirst? pat cs).map fun (before, rest) => (c :: before, rest)

/-- What follows the last occurrence of `pat`. -/
def afterLast? (pat : List Char) : List Char → Option (List Char)
  | [] => stripStart? pat []
  | c :: cs =>
    match afterLast? pat cs with
    | some rest => some rest
    | none => stripStart? pat (c :: cs)

/-- What follows the last occurrence of `pat`, or the whole text if there is none. -/
def lastPiece (pat cs : List Char) : List Char := (afterLast? pat cs).getD cs

/-- Whether `pat` occurs in a text. -/
def occursIn (pat cs : List Char) : Bool := (cutFirst? pat cs).isSome

theorem eq_append_of_cutFirst? {pat cs before rest : List Char}
    (h : cutFirst? pat cs = some (before, rest)) : cs = before ++ pat ++ rest := by
  induction cs generalizing before with
  | nil =>
    obtain ⟨r, hr, he⟩ := Option.map_eq_some_iff.1 h
    cases he
    simpa using eq_append_of_stripStart? hr
  | cons c cs ih =>
    unfold cutFirst? at h
    split at h
    · rename_i r hr
      cases h
      simpa using eq_append_of_stripStart? hr
    · obtain ⟨⟨b, r⟩, hr, he⟩ := Option.map_eq_some_iff.1 h
      cases he
      simp [ih hr]

/-! ## Splitting -/

/-- Adds a character to the first of a list of pieces. -/
def extendHead (c : Char) : List (List Char) → List (List Char)
  | [] => [[c]]
  | p :: ps => (c :: p) :: ps

/-- The pieces of a text between the occurrences of `sep`, after `skip` characters that belong to
an occurrence already seen. -/
def piecesFrom (sep : List Char) : (skip : Nat) → List Char → List (List Char)
  | _, [] => [[]]
  | skip + 1, _ :: cs => piecesFrom sep skip cs
  | 0, c :: cs =>
    if startsWith sep (c :: cs) then [] :: piecesFrom sep (sep.length - 1) cs
    else extendHead c (piecesFrom sep 0 cs)

/-- The pieces of a text between the occurrences of `sep`. An empty separator occurs before every
character and at the end. -/
def pieces (sep cs : List Char) : List (List Char) :=
  if sep = [] then [] :: cs.map ([·]) ++ [[]] else piecesFrom sep 0 cs

theorem extendHead_ne_nil (c : Char) (ps : List (List Char)) : extendHead c ps ≠ [] := by
  cases ps <;> simp [extendHead]

theorem piecesFrom_ne_nil (sep : List Char) (skip : Nat) (cs : List Char) :
    piecesFrom sep skip cs ≠ [] := by
  fun_induction piecesFrom sep skip cs with
  | case1 => simp
  | case2 _ _ _ ih => exact ih
  | case3 => simp
  | case4 => exact extendHead_ne_nil _ _

theorem pieces_ne_nil (sep cs : List Char) : pieces sep cs ≠ [] := by
  unfold pieces
  split
  · simp
  · exact piecesFrom_ne_nil _ _ _

theorem intercalate_extendHead (sep : List Char) (c : Char) (ps : List (List Char)) (h : ps ≠ []) :
    sep.intercalate (extendHead c ps) = c :: sep.intercalate ps := by
  match ps, h with
  | [p], _ => simp [extendHead, List.intercalate]
  | p :: q :: ps, _ => simp [extendHead, List.intercalate]

theorem intercalate_piecesFrom (sep : List Char) (hsep : sep ≠ []) (skip : Nat) (cs : List Char)
    (h : skip ≤ cs.length) : sep.intercalate (piecesFrom sep skip cs) = cs.drop skip := by
  fun_induction piecesFrom sep skip cs with
  | case1 => simp [List.intercalate]
  | case2 skip c cs ih => simpa using ih (by simpa using h)
  | case3 c cs hs ih =>
    obtain ⟨rest, hr⟩ := Option.isSome_iff_exists.1 hs
    have hcs := eq_append_of_stripStart? hr
    cases sep with
    | nil => exact absurd rfl hsep
    | cons p sep =>
      simp only [List.cons_append, List.cons.injEq] at hcs
      obtain ⟨rfl, rfl⟩ := hcs
      have ih := ih (by simp)
      simp only [List.length_cons, Nat.add_sub_cancel, List.drop_left] at ih
      have hne := piecesFrom_ne_nil (c :: sep) ((c :: sep).length - 1) (sep ++ rest)
      simp only [List.length_cons, Nat.add_sub_cancel] at hne ⊢
      match hp : piecesFrom (c :: sep) sep.length (sep ++ rest), hne with
      | q :: qs, _ =>
        rw [hp] at ih
        simp [List.intercalate] at ih ⊢
        exact ih
  | case4 c cs hs ih =>
    rw [intercalate_extendHead _ _ _ (piecesFrom_ne_nil _ _ _), ih (by simp)]
    simp

/-- Putting the separator back between the pieces gives the text again. -/
theorem intercalate_pieces (sep cs : List Char) (h : sep ≠ []) :
    sep.intercalate (pieces sep cs) = cs := by
  simp [pieces, h, intercalate_piecesFrom sep h 0 cs (by simp)]

/-- A text of two with a separator of one character between them has the pieces of both. -/
theorem pieces_append_cons (c : Char) (xs ys : List Char) :
    pieces [c] (xs ++ c :: ys) = pieces [c] xs ++ pieces [c] ys := by
  have cut (x : Char) (zs : List Char) : piecesFrom [c] 0 (x :: zs) =
      if x = c then [] :: piecesFrom [c] 0 zs else extendHead x (piecesFrom [c] 0 zs) := by
    rw [piecesFrom]
    by_cases h : x = c
    · subst h
      simp [startsWith, stripStart?]
    · have hc : c ≠ x := fun e => h e.symm
      simp [startsWith, stripStart?, h, hc]
  simp only [pieces, List.cons_ne_self, if_false]
  induction xs with
  | nil => simp [cut, piecesFrom]
  | cons x xs ih =>
    rw [List.cons_append, cut, cut, ih]
    split
    · rfl
    · match h : piecesFrom [c] 0 xs, piecesFrom_ne_nil [c] 0 xs with
      | p :: ps, _ => rfl

/-! ## The same on strings -/

/-- The pieces of a text between the occurrences of a separator. -/
def split (sep s : String) : List String := (pieces sep.toList s.toList).map String.ofList

/-- A text with every occurrence of `old` replaced by `new`. -/
def replaceAll (old new s : String) : String := new.intercalate (split old s)

/-- Whether a text contains another. -/
def contains (s pat : String) : Bool := occursIn pat.toList s.toList

end Scaffold.Text
