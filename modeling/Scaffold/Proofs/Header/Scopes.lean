import Scaffold.Header
import Scaffold.Proofs.Path.Parts

/-!
# Scopes and class name of a scoped name

The scopes of a name are cut off from the left, its class name from the right, and they are cut at
the same double colons unless these overlap. The key notions are `linesOf`, the lines of a text,
`joined`, the name of scopes and a class name, and `colonsInFront`, the number of colons right in
front of the class name. Main facts:

* `getLast?_pieces_colons` : of a run of colons, the pieces from the left leave one over if their
  number is odd;
* `joined_scopes_iff` : scopes and class name make up the name exactly if the number of colons in
  front of the class name is even;
* `scopes_partition_iff` : the lines that open the scopes show them, those that close them show them
  backwards, and together with the class name they make up the name exactly under this condition.
-/

namespace Scaffold.Header

open Text

/-! ## Lines -/

/-- The lines of a text, none if it is empty. -/
def linesOf (text : String) : List String := if text = "" then [] else split "\n" text

/-- What a character joins are the pieces between its occurrences. -/
theorem pieces_intercalate (c : Char) {ps : List (List Char)} (hne : ps ≠ [])
    (h : ∀ p ∈ ps, c ∉ p) : pieces [c] ([c].intercalate ps) = ps := by
  induction ps with
  | nil => exact absurd rfl hne
  | cons p ps ih =>
    have hp := Path.pieces_eq_singleton c (h p (.head _))
    cases ps with
    | nil => rw [List.intercalate_singleton, hp]
    | cons q ps =>
      rw [List.intercalate_cons_cons, List.append_assoc, List.singleton_append,
        pieces_append_cons, hp, ih (List.cons_ne_nil _ _) fun r hr => h r (.tail _ hr)]
      rfl

/-- Lines without line breaks, of which the first is not empty, are the lines of the text that they
are joined to. -/
theorem linesOf_intercalate {lines : List String} (hfirst : lines.head? ≠ some "")
    (h : ∀ line ∈ lines, '\n' ∉ line.toList) : linesOf ("\n".intercalate lines) = lines := by
  cases lines with
  | nil => rfl
  | cons line lines =>
    have hbreak : "\n".toList = ['\n'] := rfl
    have hpieces : pieces ['\n'] (['\n'].intercalate ((line :: lines).map String.toList)) =
        (line :: lines).map String.toList := by
      refine pieces_intercalate '\n' (by simp) fun p hp => ?_
      obtain ⟨other, hother, rfl⟩ := List.mem_map.1 hp
      exact h other hother
    have hne : "\n".intercalate (line :: lines) ≠ "" := by
      intro hempty
      rw [← String.toList_inj, String.toList_intercalate, hbreak] at hempty
      rw [hempty] at hpieces
      have hline : line.toList = [] := (List.cons.inj hpieces).1.symm
      exact hfirst (by rw [List.head?_cons, String.toList_eq_nil_iff.1 hline])
    rw [linesOf, if_neg hne, split, String.toList_intercalate, hbreak, hpieces, List.map_map]
    simp [Function.comp_def]

/-! ## Colons -/

/-- The pieces behind a double colon. -/
theorem pieces_colons (cs : List Char) :
    pieces scopeMark (':' :: ':' :: cs) = [] :: pieces scopeMark cs := by
  cases cs <;> rfl

/-- The pieces of a text that does not begin with a double colon. -/
theorem pieces_of_not_startsWith {c : Char} {cs : List Char}
    (h : startsWith scopeMark (c :: cs) = false) :
    pieces scopeMark (c :: cs) = extendHead c (pieces scopeMark cs) := by
  show piecesFrom scopeMark 0 (c :: cs) = extendHead c (piecesFrom scopeMark 0 cs)
  rw [piecesFrom, h]
  rfl

/-- Only two colons are a double colon. -/
theorem startsWith_mark_iff (c d : Char) (cs : List Char) :
    startsWith scopeMark (c :: d :: cs) = true ↔ c = ':' ∧ d = ':' := by
  have hmark : scopeMark = [':', ':'] := rfl
  rw [startsWith, hmark, stripStart?]
  by_cases hc : ':' = c
  · rw [if_pos hc, stripStart?]
    by_cases hd : ':' = d
    · simp [stripStart?, ← hc, ← hd]
    · simp [hd, Ne.symm hd]
  · simp [hc, Ne.symm hc]

/-- One colon is no double colon. -/
theorem startsWith_mark_singleton (c : Char) : startsWith scopeMark [c] = false := by
  have hmark : scopeMark = [':', ':'] := rfl
  rw [startsWith, hmark, stripStart?]
  split <;> rfl

theorem length_extendHead (c : Char) {ps : List (List Char)} (h : ps ≠ []) :
    (extendHead c ps).length = ps.length := by
  cases ps with
  | nil => exact absurd rfl h
  | cons p ps => rfl

/-- A character in front of several pieces leaves the last one as it is. -/
theorem getLast?_extendHead (c : Char) {ps : List (List Char)} (h : 2 ≤ ps.length) :
    (extendHead c ps).getLast? = ps.getLast? := by
  cases ps with
  | nil => simp at h
  | cons p ps =>
    cases ps with
    | nil => simp at h
    | cons q ps => rw [extendHead, List.getLast?_cons_cons, List.getLast?_cons_cons]

/-- **A text that does not end in a colon** has no part in the last piece, if there are double
colons behind it. Two characters are looked at together, since a double colon is passed as a
whole. -/
theorem getLast?_pieces_append {rest : List Char} (hrest : 2 ≤ (pieces scopeMark rest).length) :
    (outer : List Char) → outer.getLast? ≠ some ':' →
      (pieces scopeMark (outer ++ rest)).getLast? = (pieces scopeMark rest).getLast? ∧
        2 ≤ (pieces scopeMark (outer ++ rest)).length
  | [], _ => ⟨rfl, hrest⟩
  | [c], hc => by
    -- a mark across the border would begin with a colon at the end of the front
    have hstart : startsWith scopeMark (c :: rest) = false := by
      cases rest with
      | nil => exact startsWith_mark_singleton c
      | cons d rest =>
        rw [Bool.eq_false_iff, Ne, startsWith_mark_iff]
        rintro ⟨rfl, -⟩
        exact hc rfl
    rw [List.singleton_append, pieces_of_not_startsWith hstart,
      length_extendHead c (pieces_ne_nil _ _)]
    exact ⟨getLast?_extendHead c hrest, hrest⟩
  | c :: d :: outer, hlast => by
    rw [List.cons_append, List.cons_append]
    by_cases hstart : startsWith scopeMark (c :: d :: (outer ++ rest)) = true
    · obtain ⟨rfl, rfl⟩ := (startsWith_mark_iff _ _ _).1 hstart
      have houter : outer.getLast? ≠ some ':' := by
        cases outer with
        | nil => exact absurd rfl hlast
        | cons e outer => rwa [List.getLast?_cons_cons, List.getLast?_cons_cons] at hlast
      obtain ⟨hsame, hlength⟩ := getLast?_pieces_append hrest outer houter
      rw [pieces_colons, List.getLast?_cons_of_ne_nil (pieces_ne_nil _ _), List.length_cons]
      exact ⟨hsame, by omega⟩
    · rw [List.getLast?_cons_cons] at hlast
      obtain ⟨hsame, hlength⟩ := getLast?_pieces_append hrest (d :: outer) hlast
      rw [List.cons_append] at hsame hlength
      rw [pieces_of_not_startsWith (Bool.eq_false_iff.2 hstart),
        length_extendHead c (pieces_ne_nil _ _)]
      exact ⟨(getLast?_extendHead c hlength).trans hsame, hlength⟩

/-- A text without double colons is a piece. -/
theorem pieces_of_afterLast? {cs : List Char} (h : afterLast? scopeMark cs = none) :
    pieces scopeMark cs = [cs] := by
  induction cs with
  | nil => rfl
  | cons c cs ih =>
    rw [afterLast?] at h
    split at h
    · cases h
    · rename_i hrest
      rw [pieces_of_not_startsWith (by rw [startsWith, h]; rfl), ih hrest]
      rfl

/-- What follows the last double colon follows two colons, and no others behind them. -/
theorem exists_of_afterLast? {cs piece : List Char} (h : afterLast? scopeMark cs = some piece) :
    ∃ front, cs = front ++ ':' :: ':' :: piece ∧ afterLast? scopeMark (':' :: piece) = none := by
  induction cs with
  | nil => cases h
  | cons c cs ih =>
    rw [afterLast?] at h
    split at h
    · rename_i rest hrest
      cases h
      obtain ⟨front, rfl, hnone⟩ := ih hrest
      exact ⟨c :: front, rfl, hnone⟩
    · rename_i hnone
      have hcs : c :: cs = ':' :: ':' :: piece := eq_append_of_stripStart? h
      obtain ⟨rfl, rfl⟩ := List.cons.inj hcs
      exact ⟨[], rfl, hnone⟩

/-- **Of a run of colons**, the pieces from the left leave one over if their number is odd. -/
theorem getLast?_pieces_colons {piece : List Char}
    (h : afterLast? scopeMark (':' :: piece) = none) :
    (n : Nat) → (pieces scopeMark (List.replicate n ':' ++ piece)).getLast? =
      some (if n % 2 = 0 then piece else ':' :: piece)
  | 0 => by
    have hpiece : afterLast? scopeMark piece = none := by
      rw [afterLast?] at h
      split at h
      · cases h
      · assumption
    rw [List.replicate_zero, List.nil_append, pieces_of_afterLast? hpiece]
    rfl
  | 1 => by
    rw [List.replicate_one, List.singleton_append, pieces_of_afterLast? h]
    rfl
  | n + 2 => by
    rw [List.replicate_succ, List.replicate_succ, List.cons_append, List.cons_append,
      pieces_colons, List.getLast?_cons_of_ne_nil (pieces_ne_nil _ _),
      getLast?_pieces_colons h n, Nat.add_mod_right]

/-! ## The name as a whole -/

/-- The name of scopes and a class name. -/
def joined (scopes : List String) (className : String) : String :=
  String.join (scopes.map (· ++ "::")) ++ className

/-- The number of colons at the end of a text. -/
def colonsAtEnd (cs : List Char) : Nat := (cs.reverse.takeWhile (· = ':')).length

/-- The number of colons right in front of the class name. -/
def colonsInFront (name : String) : Nat :=
  colonsAtEnd (name.toList.take (name.length - (className name).length))

/-- A text is its colons at the end behind one that does not end in a colon. -/
theorem exists_eq_append_colons (cs : List Char) :
    ∃ outer, cs = outer ++ List.replicate (colonsAtEnd cs) ':' ∧ outer.getLast? ≠ some ':' := by
  have hsplit := List.takeWhile_append_dropWhile (p := (· = ':')) (l := cs.reverse)
  have hcolons : cs.reverse.takeWhile (· = ':') = List.replicate (colonsAtEnd cs) ':' := by
    rw [List.eq_replicate_iff]
    exact ⟨rfl, fun c hc => by simpa using List.all_eq_true.1 List.all_takeWhile c hc⟩
  refine ⟨(cs.reverse.dropWhile (· = ':')).reverse, ?_, ?_⟩
  · have hreverse := congrArg List.reverse hsplit
    rw [List.reverse_append, List.reverse_reverse, hcolons, List.reverse_replicate] at hreverse
    exact hreverse.symm
  · rw [List.getLast?_reverse]
    intro hlast
    have hnot := List.head?_dropWhile_not (· = ':') cs.reverse
    rw [hlast] at hnot
    simp at hnot

/-- Two colons at the end are counted. -/
theorem two_le_colonsAtEnd (front : List Char) : 2 ≤ colonsAtEnd (front ++ [':', ':']) := by
  simp [colonsAtEnd]

/-- A name is made up as its pieces are put together. -/
theorem toList_joined (ps : List (List Char)) (className : String) :
    (joined (ps.map String.ofList) className).toList =
      scopeMark.intercalate (ps ++ [className.toList]) := by
  have hmark : "::".toList = scopeMark := rfl
  rw [joined, String.toList_append, String.toList_join, List.map_map]
  induction ps with
  | nil => simp
  | cons p ps ih =>
    rw [List.map_cons, List.flatMap_cons, List.append_assoc, ih]
    cases ps <;> simp [List.intercalate_cons_cons, hmark]

/-- Colons are counted in what the class name leaves of a name. -/
theorem colonsInFront_of_append {name : String} {front : List Char}
    (h : name.toList = front ++ (className name).toList) :
    colonsInFront name = colonsAtEnd front := by
  have hlength : name.length - (className name).length = front.length := by
    rw [← String.length_toList, h, List.length_append, String.length_toList]
    omega
  rw [colonsInFront, hlength, h, List.take_left']
  rfl

/-- **The last piece from the left is the class name** exactly if the number of colons in front of
the class name is even. -/
theorem getLast?_pieces_iff (name : String) :
    (pieces scopeMark name.toList).getLast? = some (className name).toList ↔
      colonsInFront name % 2 = 0 := by
  have hclass : (className name).toList =
      (afterLast? scopeMark name.toList).getD name.toList := String.toList_ofList
  cases hlast : afterLast? scopeMark name.toList with
  | none =>
    rw [hlast] at hclass
    have hfront : name.toList = [] ++ (className name).toList := hclass.symm
    rw [pieces_of_afterLast? hlast, colonsInFront_of_append hfront, hclass]
    exact iff_of_true rfl rfl
  | some piece =>
    rw [hlast] at hclass
    obtain ⟨front, hname, hnone⟩ := exists_of_afterLast? hlast
    have hfront : name.toList = (front ++ [':', ':']) ++ (className name).toList := by
      rw [hclass, hname]
      simp
    rw [colonsInFront_of_append hfront]
    -- all colons in front of the class name are a run behind a text that does not end in one
    obtain ⟨n, hn⟩ := Nat.exists_eq_add_of_le' (two_le_colonsAtEnd front)
    obtain ⟨outer, houter, hend⟩ := exists_eq_append_colons (front ++ [':', ':'])
    rw [hn] at houter ⊢
    have hseveral : 2 ≤ (pieces scopeMark (List.replicate (n + 2) ':' ++ piece)).length := by
      rw [List.replicate_succ, List.replicate_succ, List.cons_append, List.cons_append,
        pieces_colons, List.length_cons]
      have hpos := List.length_pos_of_ne_nil
        (pieces_ne_nil scopeMark (List.replicate n ':' ++ piece))
      omega
    rw [hfront, hclass, Option.getD_some, houter, List.append_assoc,
      (getLast?_pieces_append hseveral outer hend).1, getLast?_pieces_colons hnone,
      Option.some_inj]
    by_cases heven : (n + 2) % 2 = 0
    · rw [if_pos heven]
      exact iff_of_true rfl heven
    · rw [if_neg heven]
      exact iff_of_false (List.cons_ne_self _ _) heven

/-- **Scopes and class name make up the name** exactly if the number of colons in front of the class
name is even. -/
theorem joined_scopes_iff (name : String) :
    joined (scopes name) (className name) = name ↔ colonsInFront name % 2 = 0 := by
  have hne := pieces_ne_nil scopeMark name.toList
  have hname : name = joined (scopes name)
      (String.ofList ((pieces scopeMark name.toList).getLast hne)) := by
    rw [← String.toList_inj, scopes, toList_joined, String.toList_ofList,
      List.dropLast_concat_getLast hne, intercalate_pieces scopeMark name.toList (by decide)]
  rw [← getLast?_pieces_iff, List.getLast?_eq_some_getLast hne, Option.some_inj]
  nth_rewrite 3 [hname]
  rw [joined, joined, String.append_right_inj, ← String.toList_inj, String.toList_ofList, eq_comm]

/-! ## Lines that show scopes -/

/-- A piece of a text has characters of this text. -/
theorem mem_of_mem_piecesFrom {sep : List Char} {skip : Nat} {cs p : List Char} {c : Char}
    (hp : p ∈ piecesFrom sep skip cs) (hc : c ∈ p) : c ∈ cs := by
  fun_induction piecesFrom sep skip cs generalizing p with
  | case1 =>
    rw [List.mem_singleton] at hp
    rwa [hp] at hc
  | case2 skip d cs ih => exact .tail d (ih hp hc)
  | case3 d cs _ ih =>
    rcases List.mem_cons.1 hp with rfl | hp
    · cases hc
    · exact .tail d (ih hp hc)
  | case4 d cs _ ih =>
    cases hrest : piecesFrom sep 0 cs with
    | nil => exact absurd hrest (piecesFrom_ne_nil _ _ _)
    | cons q qs =>
      rw [hrest] at hp ih
      rcases List.mem_cons.1 hp with rfl | hp
      · rcases List.mem_cons.1 hc with rfl | hc
        · exact .head cs
        · exact .tail d (ih (.head qs) hc)
      · exact .tail d (ih (.tail q hp) hc)

/-- A scope of a name has characters of the name. -/
theorem mem_of_mem_scopes {name scope : String} {c : Char} (hscope : scope ∈ scopes name)
    (hc : c ∈ scope.toList) : c ∈ name.toList := by
  obtain ⟨p, hp, rfl⟩ := List.mem_map.1 hscope
  rw [String.toList_ofList] at hc
  have hpiece : p ∈ piecesFrom scopeMark 0 name.toList := List.dropLast_subset _ hp
  exact mem_of_mem_piecesFrom hpiece hc

/-- A text without line breaks is opened in one line. -/
theorem newline_not_mem_openingLine {scope : String} (h : '\n' ∉ scope.toList) :
    '\n' ∉ (openingLine scope).toList := by
  rw [openingLine, String.toList_append, String.toList_append, List.mem_append, List.mem_append]
  rintro ((hstart | hscope) | hend)
  · exact absurd hstart (by decide)
  · exact h hscope
  · exact absurd hend (by decide)

/-- A text without line breaks is closed in one line. -/
theorem newline_not_mem_closingLine {scope : String} (h : '\n' ∉ scope.toList) :
    '\n' ∉ (closingLine scope).toList := by
  rw [closingLine, String.toList_append, List.mem_append]
  rintro (hstart | hscope)
  · exact absurd hstart (by decide)
  · exact h hscope

theorem openingLine_injective : Function.Injective openingLine := by
  intro first second h
  rw [openingLine, openingLine, String.append_left_inj, String.append_right_inj] at h
  exact h

/-- Lines that are made from scopes are the lines of the text that they are joined to. -/
theorem linesOf_intercalate_map {line : String → String} {shown : List String}
    (hne : ∀ scope, line scope ≠ "") (h : ∀ scope ∈ shown, '\n' ∉ (line scope).toList) :
    linesOf ("\n".intercalate (shown.map line)) = shown.map line := by
  refine linesOf_intercalate ?_ ?_
  · rw [List.head?_map]
    intro hempty
    obtain ⟨scope, -, hline⟩ := Option.map_eq_some_iff.1 hempty
    exact hne scope hline
  · intro made hmade
    obtain ⟨scope, hscope, rfl⟩ := List.mem_map.1 hmade
    exact h scope hscope

theorem linesOf_scopeOpenings {name : String} (h : '\n' ∉ name.toList) :
    linesOf (scopeOpenings name) = (scopes name).map openingLine := by
  refine linesOf_intercalate_map (fun scope hline => ?_) fun scope hscope => ?_
  · simpa [openingLine] using congrArg String.toList hline
  · exact newline_not_mem_openingLine fun hmem => h (mem_of_mem_scopes hscope hmem)

theorem linesOf_scopeClosings {name : String} (h : '\n' ∉ name.toList) :
    linesOf (scopeClosings name) = (scopes name).reverse.map closingLine := by
  refine linesOf_intercalate_map (fun scope hline => ?_) fun scope hscope => ?_
  · simpa [closingLine] using congrArg String.toList hline
  · exact newline_not_mem_closingLine fun hmem =>
      h (mem_of_mem_scopes (List.mem_reverse.1 hscope) hmem)

/-- **The scopes that are shown** by the lines that open them are shown backwards by the lines that
close them, and there are none if nothing is opened. They make up the name with the class name
exactly if the number of colons in front of the class name is even. -/
theorem scopes_partition_iff {name : String} (h : '\n' ∉ name.toList) :
    ∃ shown : List String,
      (∀ others : List String,
        linesOf (scopeOpenings name) = others.map openingLine ↔ others = shown) ∧
      linesOf (scopeClosings name) = shown.reverse.map closingLine ∧
      (shown = [] ↔ scopeOpenings name = "") ∧
      (joined shown (className name) = name ↔ colonsInFront name % 2 = 0) := by
  refine ⟨scopes name, fun others => ?_, linesOf_scopeClosings h, ?_, joined_scopes_iff name⟩
  · rw [linesOf_scopeOpenings h, (List.map_injective_iff.2 openingLine_injective).eq_iff, eq_comm]
  · constructor
    · intro hnone
      rw [scopeOpenings, hnone]
      rfl
    · intro hempty
      have hlines := linesOf_scopeOpenings h
      rw [hempty] at hlines
      exact List.map_eq_nil_iff.1 hlines.symm

/-- Scopes with a single colon in their names. -/
theorem scopes_partition_iff_colon :
    '\n' ∉ "a:::b::::C:d".toList ∧ colonsInFront "a:::b::::C:d" % 2 = 0 ∧
      joined ["a", ":b", ""] (className "a:::b::::C:d") = "a:::b::::C:d" := by
  have hline : '\n' ∉ "a:::b::::C:d".toList := by decide
  have heven : colonsInFront "a:::b::::C:d" % 2 = 0 := by decide
  obtain ⟨shown, hshown, -, -, hjoined⟩ := scopes_partition_iff hline
  have hthree : ["a", ":b", ""] = shown := (hshown _).1 (by decide)
  rw [← hthree] at hjoined
  exact ⟨hline, heven, hjoined.2 heven⟩

/-- **A colon that is lost**: of three colons, the scopes end in front of the first two, and the
class name begins behind the last two. -/
theorem scopes_lose_colon :
    '\n' ∉ "a:::b".toList ∧ linesOf (scopeOpenings "a:::b") = ["a"].map openingLine ∧
      className "a:::b" = "b" ∧ joined ["a"] (className "a:::b") ≠ "a:::b" := by
  decide

end Scaffold.Header
