import Scaffold.Proofs.Template.Simple.Basic
import Scaffold.Proofs.Text.Reading

/-!
# Reading a name as an expression

A name in front of the end of a tag, or of what goes on with the expression, is read as the variable
of this name. None of the many other things that an expression can be fits: what it would take next
does not stand there. The key notion is `Follower`, what stands behind an operand, by the marks that
it may begin with; the looser a reader binds, the fewer marks end what it reads. Main facts:

* `nameChars_append` : a name is taken as a whole;
* `basicValue_follower` : of all operands a name is a variable;
* `filteredBasic_follower` : as what a loop runs over it is a variable without filters;
* `value_of_item`, `logic_of_value` : how a condition is read that is a single item;
* `logic_name` : a name as a condition or a value is just the variable.
-/

namespace Scaffold.Template.Grammar

open Reader

/-! ## Characters of names -/

theorem isNameChar_of_isNameStart {c : Char} (hc : isNameStart c = true) :
    isNameChar c = true := by
  simp only [isNameStart, isNameChar, Char.isAlphanum, Bool.or_eq_true] at hc ⊢
  rcases hc with hletter | hunderscore
  · exact .inl (.inl hletter)
  · exact .inr hunderscore

theorem isSpace_of_isNameChar {c : Char} (hc : isNameChar c = true) : isSpace c = false := by
  cases hspace : isSpace c with
  | false => rfl
  | true =>
    simp only [isSpace, Bool.or_eq_true, beq_iff_eq] at hspace
    rcases hspace with ((rfl | rfl) | rfl) | rfl <;> exact absurd hc (by decide)

theorem toNat_of_bounds {c low high : Char} (h : low.val ≤ c.val ∧ c.val ≤ high.val) :
    low.toNat ≤ c.toNat ∧ c.toNat ≤ high.toNat :=
  ⟨UInt32.le_iff_toNat_le.1 h.1, UInt32.le_iff_toNat_le.1 h.2⟩

/-- Letters are ASCII letters. -/
theorem toNat_of_isAlpha {c : Char} (hc : c.isAlpha = true) : 65 ≤ c.toNat ∧ c.toNat ≤ 122 := by
  have hA : 'A'.toNat = 65 := rfl
  have hZ : 'Z'.toNat = 90 := rfl
  have ha : 'a'.toNat = 97 := rfl
  have hz : 'z'.toNat = 122 := rfl
  rcases Bool.or_eq_true_iff.1 hc with hupper | hlower
  · have hbounds := toNat_of_bounds (of_decide_eq_true hupper)
    omega
  · obtain ⟨hlow, hhigh⟩ := Bool.and_eq_true_iff.1 hlower
    have hbounds := toNat_of_bounds ⟨of_decide_eq_true hlow, of_decide_eq_true hhigh⟩
    omega

/-- Digits are ASCII digits. -/
theorem toNat_of_isDigit {c : Char} (hc : c.isDigit = true) : c.toNat ≤ 57 := by
  obtain ⟨hlow, hhigh⟩ := Bool.and_eq_true_iff.1 hc
  exact (toNat_of_bounds ⟨of_decide_eq_true hlow, of_decide_eq_true hhigh⟩).2

theorem isDigit_of_isNameStart {c : Char} (hc : isNameStart c = true) : c.isDigit = false := by
  rw [Bool.eq_false_iff]
  intro hdigit
  have hle := toNat_of_isDigit hdigit
  rcases Bool.or_eq_true_iff.1 hc with hletter | hunderscore
  · have hge := (toNat_of_isAlpha hletter).1
    omega
  · rw [beq_iff_eq] at hunderscore
    subst hunderscore
    exact absurd hle (by decide)

theorem ne_of_isNameStart {c d : Char} (hc : isNameStart c = true) (hd : isNameStart d = false) :
    d ≠ c := by
  rintro rfl
  rw [hc] at hd
  cases hd

/-! ## Names -/

variable {x : String} {tail : List Char}

/-- A name begins like one. -/
theorem exists_cons_of_isIdentifier (hx : isIdentifier x = true) :
    ∃ c cs, x.toList = c :: cs ∧ isNameStart c = true ∧ ∀ d ∈ cs, isNameChar d = true := by
  unfold isIdentifier at hx
  cases hcs : x.toList with
  | nil =>
    rw [hcs] at hx
    cases hx
  | cons c cs =>
    rw [hcs] at hx
    dsimp only at hx
    rw [Bool.and_eq_true, List.all_eq_true] at hx
    exact ⟨c, cs, rfl, hx⟩

theorem isNameChar_of_mem (hx : isIdentifier x = true) {c : Char} (hc : c ∈ x.toList) :
    isNameChar c = true := by
  obtain ⟨d, ds, hds, hstart, hrest⟩ := exists_cons_of_isIdentifier hx
  rw [hds] at hc
  rcases List.mem_cons.1 hc with rfl | hmem
  · exact isNameChar_of_isNameStart hstart
  · exact hrest c hmem

/-- A name has no other characters than those of names. -/
theorem IsVariable.not_mem (hx : IsVariable x) {c : Char} (hc : isNameChar c = false) :
    c ∉ x.toList := by
  intro hmem
  rw [isNameChar_of_mem hx.identifier hmem] at hc
  cases hc

/-- **A name is taken as a whole** if what follows is no character of a name. -/
theorem nameChars_append (hx : isIdentifier x = true) {c : Char} (hc : isNameChar c = false)
    (rest : List Char) : nameChars (x.toList ++ c :: rest) = some (x.toList, c :: rest) := by
  obtain ⟨d, ds, hds, hstart, hchars⟩ := exists_cons_of_isIdentifier hx
  have hfirst : satisfying isNameStart (d :: ds ++ c :: rest) = some (d, ds ++ c :: rest) :=
    satisfying_of_pos hstart _
  have htake : (ds ++ c :: rest).takeWhile isNameChar = ds := by
    rw [List.takeWhile_append_of_pos hchars]
    simp [hc]
  have hdrop : (ds ++ c :: rest).dropWhile isNameChar = c :: rest := by
    rw [List.dropWhile_append_of_pos hchars]
    simp [hc]
  have hrun : run isNameChar (ds ++ c :: rest) = some (ds, c :: rest) := by
    rw [run, htake, hdrop]
  rw [hds, nameChars, bind_of_some hfirst, bind_of_some hrun, pure_apply]

theorem name_append (hx : isIdentifier x = true) {c : Char} (hc : isNameChar c = false)
    (rest : List Char) : name (x.toList ++ c :: rest) = some (x, c :: rest) := by
  rw [name, bind_of_some (nameChars_append hx hc rest), pure_apply, String.ofList_toList]

/-! ## Blanks -/

/-- A text that blanks in front of it do not run into. -/
def StartsBare (cs : List Char) : Prop := ∃ c ds, cs = c :: ds ∧ isSpace c = false

theorem startsBare_name (hx : isIdentifier x = true) : StartsBare x.toList := by
  obtain ⟨c, cs, hcs, hc, -⟩ := exists_cons_of_isIdentifier hx
  exact ⟨c, cs, hcs, isSpace_of_isNameChar (isNameChar_of_isNameStart hc)⟩

variable {bare : List Char}

theorem StartsBare.append (h : StartsBare bare) (rest : List Char) : StartsBare (bare ++ rest) := by
  obtain ⟨c, ds, rfl, hc⟩ := h
  exact ⟨c, ds ++ rest, rfl, hc⟩

theorem spaces_bare (h : StartsBare bare) : spaces bare = some ((), bare) := by
  obtain ⟨c, ds, rfl, hc⟩ := h
  rw [spaces, List.dropWhile_cons_of_neg (by simp [hc])]

theorem spaces_blank (h : StartsBare bare) : spaces (' ' :: bare) = some ((), bare) := by
  have hblank : isSpace ' ' = true := rfl
  obtain ⟨c, ds, rfl, hc⟩ := h
  rw [spaces, List.dropWhile_cons_of_pos hblank, List.dropWhile_cons_of_neg (by simp [hc])]

theorem spaces1_blank (h : StartsBare bare) : spaces1 (' ' :: bare) = some ((), bare) := by
  have hblank : isSpace ' ' = true := rfl
  obtain ⟨c, ds, rfl, hc⟩ := h
  have hrun : run1 isSpace (' ' :: c :: ds) = some ([' '], c :: ds) := by
    rw [run1, List.takeWhile_cons_of_pos hblank, List.dropWhile_cons_of_pos hblank,
      List.takeWhile_cons_of_neg (by simp [hc]), List.dropWhile_cons_of_neg (by simp [hc])]
    rfl
  rw [spaces1, bind_of_some hrun, pure_apply]

/-! ## What stands behind an operand -/

/-- What stands behind an operand: a parenthesis that closes, the end of a tag, or a blank and one
of some marks. -/
inductive Follower (marks : List Char) : List Char → Prop
  | paren (rest : List Char) : Follower marks (')' :: rest)
  | tag (rest : List Char) : Follower marks (' ' :: '%' :: '}' :: rest)
  | mark {c : Char} (hc : c ∈ marks) (rest : List Char) : Follower marks (' ' :: c :: rest)

/-- What ends a condition or a value: the end of a tag that prints, other ends aside. -/
def conditionMarks : List Char := ['}']

/-- What ends one item of a condition: the words between items too. -/
def itemMarks : List Char := ['}', 'a', 'o']

/-- What ends one side of a comparison: the signs of comparisons too. -/
def sideMarks : List Char := ['}', 'a', 'o', '<', '>', '=', '!']

/-- What ends an operand: the bar in front of a filter too. -/
def operandMarks : List Char := ['}', 'a', 'o', '<', '>', '=', '!', '|']

variable {marks others : List Char}

/-- The end of a tag that prints a value. -/
theorem Follower.print (rest : List Char) : Follower conditionMarks (' ' :: '}' :: '}' :: rest) :=
  .mark (by decide) _

/-- With more marks there is more that ends an operand. -/
theorem Follower.mono (h : marks ⊆ others) (htail : Follower marks tail) :
    Follower others tail := by
  cases htail with
  | paren rest => exact .paren rest
  | tag rest => exact .tag rest
  | mark hc rest => exact .mark (h hc) rest

/-- No name goes on there, nor an attribute or an index. -/
theorem Follower.exists_cons (htail : Follower marks tail) :
    ∃ c rest, tail = c :: rest ∧ c ∈ [' ', ')'] := by
  cases htail with
  | paren rest => exact ⟨_, _, rfl, by decide⟩
  | tag rest => exact ⟨_, _, rfl, by decide⟩
  | mark hc rest => exact ⟨_, _, rfl, by decide⟩

theorem isNameChar_of_mem_ends {c : Char} (hc : c ∈ [' ', ')']) : isNameChar c = false := by
  revert c
  decide

theorem literal_of_ne {k c : Char} (ks cs : List Char) (h : k ≠ c) :
    literal (k :: ks) (c :: cs) = none := by
  simp [literal, Text.stripStart?, h]

/-- Behind the blanks there is a parenthesis, the end of a tag or a mark. -/
theorem Follower.spaces (hmarks : ∀ c ∈ marks, isSpace c = false) (htail : Follower marks tail) :
    ∃ c rest, Template.spaces tail = some ((), c :: rest) ∧ c ∈ ')' :: '%' :: marks ∧
      (c = '%' → '%' ∉ marks → ∃ more, rest = '}' :: more) := by
  cases htail with
  | paren rest => exact ⟨')', rest, rfl, by simp, fun h => absurd h (by decide)⟩
  | tag rest => exact ⟨'%', '}' :: rest, rfl, by simp, fun _ _ => ⟨rest, rfl⟩⟩
  | @mark c hc rest =>
    refine ⟨c, rest, spaces_blank ⟨c, rest, rfl, hmarks c hc⟩, by simp [hc], fun h hnot => ?_⟩
    exact absurd (h ▸ hc) hnot

theorem isSpace_of_mem_operandMarks : ∀ c ∈ operandMarks, isSpace c = false := by decide

/-- A token stands there only if it begins like one of the marks. -/
theorem token_follower (hmarks : ∀ c ∈ marks, isSpace c = false) {k : Char} {ks : List Char}
    (hk : k ∉ ')' :: '%' :: marks) (htail : Follower marks tail) :
    token (k :: ks) tail = none := by
  obtain ⟨c, rest, hspaces, hc, -⟩ := htail.spaces hmarks
  have hne : k ≠ c := fun h => hk (h ▸ hc)
  rw [token, bind_of_some hspaces]
  exact literal_of_ne _ _ hne

/-- A text that does not have the character behind some others stands in front of it only if it is
the beginning of the others. -/
theorem literal_of_no_match {s cs : List Char} {c : Char} (hc : c ∉ s) (hcs : ¬ s <+: cs)
    (rest : List Char) : literal s (cs ++ c :: rest) = none := by
  rw [literal, Option.map_eq_none_iff]
  cases hstrip : Text.stripStart? s (cs ++ c :: rest) with
  | none => rfl
  | some after =>
    have happend := Text.eq_append_of_stripStart? hstrip
    rcases List.append_eq_append_iff.1 happend with ⟨left, hleft, hright⟩ | ⟨left, hleft, -⟩
    · -- the text goes on behind the others
      cases left with
      | nil => exact absurd ⟨[], by simpa using hleft⟩ hcs
      | cons d ds =>
        rw [List.cons_append] at hright
        obtain ⟨rfl, -⟩ := List.cons.inj hright
        exact absurd (by simp [hleft]) hc
    · exact absurd ⟨left, hleft.symm⟩ hcs

theorem literal_follower {s cs : List Char} (hs : ∀ c ∈ [' ', ')'], c ∉ s) (hcs : ¬ s <+: cs)
    (htail : Follower marks tail) : literal s (cs ++ tail) = none := by
  obtain ⟨c, ds, rfl, hc⟩ := htail.exists_cons
  exact literal_of_no_match (hs c hc) hcs ds

/-! ## Operands -/

theorem name_follower (hx : isIdentifier x = true) (htail : Follower marks tail) :
    name (x.toList ++ tail) = some (x, tail) := by
  obtain ⟨c, rest, rfl, hc⟩ := htail.exists_cons
  exact name_append hx (isNameChar_of_mem_ends hc) _

/-- A path ends where the name ends, unless an attribute or an index follows. -/
theorem path_append (hx : isIdentifier x = true) {c : Char} (hc : isNameChar c = false)
    (hpoint : c ≠ '.') (hbracket : c ≠ '[') (rest : List Char) :
    path (x.toList ++ c :: rest) = some (x, c :: rest) := by
  have hmore : ∀ p : Reader Unit, many (attributePart <|> (do literal ['[']; p)) (c :: rest) =
      some ([], c :: rest) := by
    intro p
    have hattribute : attributePart (c :: rest) = none :=
      bind_of_none (literal_of_ne _ _ hpoint.symm)
    refine many_of_none ?_
    rw [orElse_of_none hattribute]
    exact bind_of_none (literal_of_ne _ _ hbracket.symm)
  have hchars : pathChars (x.toList ++ c :: rest).length (x.toList ++ c :: rest) =
      some ((), c :: rest) := by
    rw [List.length_append, List.length_cons, ← Nat.add_assoc, pathChars,
      bind_of_some (nameChars_append hx hc _), bind_of_some (hmore _), pure_apply]
  have htaken : taken (fun cs => pathChars cs.length cs) (x.toList ++ c :: rest) =
      some (x.toList, c :: rest) := taken_append hchars
  rw [path, bind_of_some htaken, pure_apply, String.ofList_toList]

theorem path_follower (hx : isIdentifier x = true) (htail : Follower marks tail) :
    path (x.toList ++ tail) = some (x, tail) := by
  obtain ⟨c, rest, rfl, hc⟩ := htail.exists_cons
  have hends : ∀ d ∈ [' ', ')'], d ≠ '.' ∧ d ≠ '[' := by decide
  exact path_append hx (isNameChar_of_mem_ends hc) (hends c hc).1 (hends c hc).2 rest

variable (g : Sub)

theorem call_follower (hx : isIdentifier x = true) (htail : Follower operandMarks tail) :
    call g (x.toList ++ tail) = none := by
  have harguments : argumentList g (list g) tail = none :=
    bind_of_none (token_follower isSpace_of_mem_operandMarks (by decide) htail)
  rw [call, callWith, bind_of_some (name_follower hx htail)]
  exact bind_of_none harguments

theorem macroCall_follower (hx : isIdentifier x = true) (htail : Follower operandMarks tail) :
    macroCall g (x.toList ++ tail) = none := by
  rw [macroCall, bind_of_some (name_follower hx htail)]
  exact bind_of_none (token_follower isSpace_of_mem_operandMarks (by decide) htail)

theorem failingTest_follower (hx : isIdentifier x = true) (htail : Follower operandMarks tail) :
    failingTest g (x.toList ++ tail) = none := by
  rw [failingTest, bind_of_some (path_follower hx htail)]
  exact bind_of_none (token_follower isSpace_of_mem_operandMarks (by decide) htail)

theorem passingTest_follower (hx : isIdentifier x = true) (htail : Follower operandMarks tail) :
    passingTest g (x.toList ++ tail) = none := by
  rw [passingTest, bind_of_some (path_follower hx htail)]
  exact bind_of_none (token_follower isSpace_of_mem_operandMarks (by decide) htail)

theorem bool_of_literals {cs : List Char} (h : ∀ s ∈ literals, literal s.toList cs = none) :
    bool cs = none := by
  rw [bool, orElse_of_none (bind_of_none (h "true" (by decide))),
    orElse_of_none (bind_of_none (h "false" (by decide))),
    orElse_of_none (bind_of_none (h "True" (by decide)))]
  exact bind_of_none (h "False" (by decide))

/-- A name that does not begin like a truth value is none. -/
theorem bool_append (hx : ∀ s ∈ literals, ¬ s.toList <+: x.toList) {c : Char}
    (hc : ∀ s ∈ literals, c ∉ s.toList) (rest : List Char) :
    bool (x.toList ++ c :: rest) = none :=
  bool_of_literals fun s hs => literal_of_no_match (hc s hs) (hx s hs) rest

theorem bool_follower (hx : IsVariable x) (htail : Follower marks tail) :
    bool (x.toList ++ tail) = none := by
  have hends : ∀ s ∈ literals, ∀ c ∈ [' ', ')'], c ∉ s.toList := by decide
  obtain ⟨c, rest, rfl, hc⟩ := htail.exists_cons
  exact bool_append hx.no_literal (fun s hs => hends s hs c hc) rest

/-- **Of all operands a name is a variable.** -/
theorem basicValue_follower (hx : IsVariable x) (htail : Follower operandMarks tail) :
    basicValue g (x.toList ++ tail) = some (.name x, tail) := by
  rw [basicValue, orElse_of_none (bind_of_none (bool_follower hx htail)),
    orElse_of_none (failingTest_follower g hx.identifier htail),
    orElse_of_none (passingTest_follower g hx.identifier htail),
    orElse_of_none (macroCall_follower g hx.identifier htail),
    orElse_of_none (bind_of_none (call_follower g hx.identifier htail)), orElse_of_some]
  rw [bind_of_some (path_follower hx.identifier htail), pure_apply]

theorem basicTerm_follower (hx : IsVariable x) (htail : Follower operandMarks tail) :
    basicTerm g (x.toList ++ tail) = some (.name x, tail) := by
  obtain ⟨c, cs, hcs, hc, -⟩ := exists_cons_of_isIdentifier hx.identifier
  have hopen : literal ['('] (x.toList ++ tail) = none := by
    rw [hcs]
    exact literal_of_ne _ _ (ne_of_isNameStart hc (by decide))
  rw [basicTerm, orElse_of_none (bind_of_none hopen)]
  exact basicValue_follower g hx htail

/-! ## Sums and products -/

theorem basicTerm_brace (rest : List Char) : basicTerm g ('}' :: rest) = none := rfl

theorem filteredBasic_brace (rest : List Char) : filteredBasic g ('}' :: rest) = none := rfl

/-- Arithmetic signs are none of the marks. -/
theorem mathOp_of_mem {c : Char} (hc : c ∈ ')' :: operandMarks) (rest : List Char) :
    mathOp (c :: rest) = none := by
  simp only [operandMarks, List.mem_cons, List.not_mem_nil, or_false] at hc
  rcases hc with rfl | rfl | rfl | rfl | rfl | rfl | rfl | rfl | rfl <;> rfl

/-- No operator with an operand stands behind an operand that ends. The percent sign at the end of a
tag is one by itself, but a brace is no operand. -/
theorem many_mathOp_follower {α : Type} {operand : Reader α}
    (hbrace : ∀ rest, operand ('}' :: rest) = none) (htail : Follower operandMarks tail) :
    many (do
      spaces
      let op ← mathOp
      spaces
      let next ← operand
      pure (op, next)) tail = some ([], tail) := by
  refine many_of_none ?_
  obtain ⟨c, rest, hspaces, hc, htag⟩ := htail.spaces isSpace_of_mem_operandMarks
  rw [bind_of_some hspaces]
  by_cases hpercent : c = '%'
  · obtain ⟨more, rfl⟩ := htag hpercent (by decide)
    have hop : mathOp ('%' :: '}' :: more) = some (.mod, '}' :: more) := rfl
    have hspaces : spaces ('}' :: more) = some ((), '}' :: more) := rfl
    rw [hpercent, bind_of_some hop, bind_of_some hspaces]
    exact bind_of_none (hbrace more)
  · have hmem : c ∈ ')' :: operandMarks := by
      rcases List.mem_cons.1 hc with hparen | hmore
      · exact hparen ▸ List.mem_cons_self
      · exact List.mem_cons_of_mem _ (List.mem_of_ne_of_mem hpercent hmore)
    exact bind_of_none (mathOp_of_mem hmem rest)

/-- A term that ends is a sum by itself. -/
theorem basic_of_term {cs : List Char} {operand : Operand}
    (hterm : basicTerm g cs = some (operand, tail)) (htail : Follower operandMarks tail) :
    basic g cs = some (operand, tail) := by
  rw [basic, chain, bind_of_some hterm,
    bind_of_some (many_mathOp_follower (basicTerm_brace g) htail)]
  rfl

theorem filters_follower (htail : Follower sideMarks tail) :
    filters g tail = some ([], tail) :=
  many_of_none (bind_of_none (token_follower (by decide) (by decide) htail))

/-- A term that ends has no filters. -/
theorem filteredBasic_of_term {cs : List Char} {operand : Operand}
    (hterm : basicTerm g cs = some (operand, tail)) (htail : Follower sideMarks tail) :
    filteredBasic g cs = some (.plain operand, tail) := by
  rw [filteredBasic, bind_of_some (basic_of_term g hterm (htail.mono (by decide))),
    bind_of_some (filters_follower g htail)]
  rfl

/-- **What a loop runs over** is a variable without filters. -/
theorem filteredBasic_follower (hx : IsVariable x) (htail : Follower sideMarks tail) :
    filteredBasic g (x.toList ++ tail) = some (.plain (.name x), tail) :=
  filteredBasic_of_term g (basicTerm_follower g hx (htail.mono (by decide))) htail

/-! ## Texts -/

theorem intChars_of_not {c : Char} (hsign : '-' ≠ c) (hdigit : c.isDigit = false)
    (cs : List Char) : intChars (c :: cs) = none := by
  have hminus : maybe (literal ['-']) (c :: cs) = some (none, c :: cs) :=
    maybe_of_none (literal_of_ne _ _ hsign)
  have hfirst : satisfying Char.isDigit (c :: cs) = none := satisfying_of_neg hdigit _
  rw [intChars, taken, bind_of_some hminus, bind_of_none hfirst]
  rfl

theorem float_of_not {c : Char} (hsign : '-' ≠ c) (hdigit : c.isDigit = false) (cs : List Char) :
    float (c :: cs) = none := by
  rw [float]
  refine bind_of_none ?_
  rw [taken, bind_of_none (intChars_of_not hsign hdigit cs)]
  rfl

theorem int_of_not {c : Char} (hsign : '-' ≠ c) (hdigit : c.isDigit = false) (cs : List Char) :
    int (c :: cs) = none :=
  bind_of_none (intChars_of_not hsign hdigit cs)

theorem quoted_of_isNameStart {c : Char} (hc : isNameStart c = true) (cs : List Char) :
    quoted (c :: cs) = none := by
  have hbetween : ∀ quote, isNameStart quote = false → between quote (c :: cs) = none :=
    fun quote hquote => bind_of_none (literal_of_ne _ _ (ne_of_isNameStart hc hquote))
  rw [quoted]
  refine bind_of_none ?_
  rw [orElse_of_none (hbetween _ (by decide)), orElse_of_none (hbetween _ (by decide))]
  exact hbetween _ (by decide)

theorem concatPart_follower (hx : isIdentifier x = true) (htail : Follower operandMarks tail) :
    concatPart g (x.toList ++ tail) = some (.name x, tail) := by
  obtain ⟨c, cs, hcs, hc, -⟩ := exists_cons_of_isIdentifier hx
  have hcons : x.toList ++ tail = c :: (cs ++ tail) := by rw [hcs, List.cons_append]
  have hsign : '-' ≠ c := ne_of_isNameStart hc (by decide)
  rw [concatPart, orElse_of_none (bind_of_none (call_follower g hx htail)), hcons,
    orElse_of_none (bind_of_none (float_of_not hsign (isDigit_of_isNameStart hc) _)),
    orElse_of_none (bind_of_none (int_of_not hsign (isDigit_of_isNameStart hc) _)),
    orElse_of_none (bind_of_none (quoted_of_isNameStart hc _)), ← hcons,
    bind_of_some (path_follower hx htail), pure_apply]

/-- What is a part by itself is no concatenation. -/
theorem concatenation_of_part {cs : List Char} {operand : Operand}
    (hpart : concatPart g cs = some (operand, tail)) (htail : Follower operandMarks tail) :
    concatenation g cs = none := by
  rw [concatenation, bind_of_some hpart]
  exact bind_of_none (bind_of_none (bind_of_none
    (token_follower isSpace_of_mem_operandMarks (by decide) htail)))

theorem filteredText_of_none {cs : List Char} (hconcat : concatenation g cs = none)
    (hquoted : quoted cs = none) : filteredText g cs = none := by
  rw [filteredText]
  refine bind_of_none ?_
  rw [orElse_of_none hconcat]
  exact bind_of_none hquoted

/-- What is a part by itself is no text and no concatenation, unless it stands in quotes. -/
theorem filteredText_of_part {cs : List Char} {operand : Operand}
    (hpart : concatPart g cs = some (operand, tail)) (hquoted : quoted cs = none)
    (htail : Follower operandMarks tail) : filteredText g cs = none :=
  filteredText_of_none g (concatenation_of_part g hpart htail) hquoted

/-- A name alone is no text and no concatenation. -/
theorem filteredText_follower (hx : isIdentifier x = true) (htail : Follower operandMarks tail) :
    filteredText g (x.toList ++ tail) = none := by
  obtain ⟨c, cs, hcs, hc, -⟩ := exists_cons_of_isIdentifier hx
  have hquoted : quoted (x.toList ++ tail) = none := by
    rw [hcs]
    exact quoted_of_isNameStart hc _
  exact filteredText_of_part g (concatPart_follower g hx htail) hquoted htail

/-! ## Items of conditions -/

/-- No negation stands in front of a name, unless it is the word for negations and a blank
follows. -/
theorem negation_append (hx : isIdentifier x = true) {c : Char} (hc : c ∉ "not".toList)
    (hblank : x = "not" → isSpace c = false) (rest : List Char) :
    negation (x.toList ++ c :: rest) = some (false, x.toList ++ c :: rest) := by
  have hword : word "not" (x.toList ++ c :: rest) = none := by
    rw [word]
    by_cases hprefix : "not".toList <+: x.toList
    · -- a name that begins like the word goes on where a blank would have to stand
      obtain ⟨cs, hcs⟩ := hprefix
      rw [← hcs, List.append_assoc, bind_of_some (literal_append _ _)]
      cases cs with
      | nil =>
        rw [List.append_nil, String.toList_inj] at hcs
        exact bind_of_none (satisfying_of_neg (hblank hcs.symm) _)
      | cons d ds =>
        have hd : isSpace d = false :=
          isSpace_of_isNameChar (isNameChar_of_mem hx (by simp [← hcs]))
        exact bind_of_none (satisfying_of_neg hd _)
    · exact bind_of_none (literal_of_no_match hc hprefix rest)
  rw [negation, bind_of_some (maybe_of_none hword), pure_apply]
  rfl

theorem negation_follower (hx : IsVariable x) (htail : Follower marks tail) :
    negation (x.toList ++ tail) = some (false, x.toList ++ tail) := by
  have hends : ∀ c ∈ [' ', ')'], c ∉ "not".toList := by decide
  obtain ⟨c, rest, rfl, hc⟩ := htail.exists_cons
  exact negation_append hx.identifier (hends c hc) (fun hnot => absurd hnot hx.ne_not) rest

/-- What stands behind one side of a comparison does not go on with a membership. -/
theorem membership_of_item {cs : List Char} {e : Expr}
    (hitem : (filteredText g <|> filteredBasic g) cs = some (e, tail))
    (htail : Follower sideMarks tail) : membership g cs = none := by
  have hnot : ∀ c ∈ ')' :: '%' :: sideMarks, c ≠ 'n' ∧ c ≠ 'i' ∧ isSpace c = false := by decide
  obtain ⟨c, rest, hspaces, hc, -⟩ := htail.spaces (by decide)
  obtain ⟨hn, hi, hspace⟩ := hnot c hc
  have hword : word "not" (c :: rest) = none := bind_of_none (literal_of_ne _ _ hn.symm)
  have hnegation : negation (c :: rest) = some (false, c :: rest) := by
    rw [negation, bind_of_some (maybe_of_none hword)]
    rfl
  have hin : token ['i', 'n'] (c :: rest) = none := by
    rw [token, bind_of_some (spaces_bare ⟨c, rest, rfl, hspace⟩)]
    exact literal_of_ne _ _ hi.symm
  rw [membership, bind_of_some hitem, bind_of_some hspaces, bind_of_some hnegation]
  exact bind_of_none hin

/-- One side is compared to nothing if no sign of a comparison follows. -/
theorem comparison_of_side {cs : List Char} {e : Expr} (hside : compared g cs = some (e, tail))
    (htail : Follower itemMarks tail) : comparison g cs = some (e, tail) := by
  have hoperator : ∀ c ∈ ')' :: '%' :: itemMarks, ∀ rest, compareOp (c :: rest) = none := by
    intro c hc rest
    simp only [itemMarks, List.mem_cons, List.not_mem_nil, or_false] at hc
    rcases hc with rfl | rfl | rfl | rfl | rfl <;> rfl
  obtain ⟨c, rest, hspaces, hc, -⟩ := htail.spaces (by decide)
  rw [comparison, bind_of_some hside, bind_of_some (maybe_of_none (by
    rw [bind_of_some hspaces]
    exact bind_of_none (hoperator c hc rest)))]
  rfl

/-- A term or a name with filters is compared as it is, unless it is a text or a sum. -/
theorem compared_of_filteredBasic {cs : List Char} {e : Expr} (htext : filteredText g cs = none)
    (hbasic : filteredBasic g cs = some (e, tail)) (htail : Follower operandMarks tail) :
    compared g cs = some (e, tail) := by
  rw [compared, orElse_of_none htext, chain, bind_of_some hbasic,
    bind_of_some (many_mathOp_follower (filteredBasic_brace g) htail)]
  rfl

/-- **An item of a condition**: perhaps a negation, and then what is no membership. -/
theorem value_of_item {cs ds : List Char} {e : Expr} {negated : Bool}
    (hnegation : negation cs = some (negated, ds)) (hspaces : spaces ds = some ((), ds))
    (hmember : membership g ds = none) (hcompared : comparison g ds = some (e, tail)) :
    value g cs = some (e.withNegation negated, tail) := by
  have hchoice : (membership g <|> comparison g) ds = some (e, tail) := by
    rw [orElse_of_none hmember]
    exact hcompared
  rw [value, orElse_of_some]
  rw [bind_of_some hnegation, bind_of_some hspaces, bind_of_some hchoice]
  rfl

/-- No operator stands behind a condition. -/
theorem exists_spaces_logicOp (htail : Follower conditionMarks tail) :
    ∃ rest, spaces tail = some ((), rest) ∧ logicOp rest = none := by
  obtain ⟨c, rest, hspaces, hc, -⟩ := htail.spaces (by decide)
  refine ⟨c :: rest, hspaces, ?_⟩
  simp only [conditionMarks, List.mem_cons, List.not_mem_nil, or_false] at hc
  rcases hc with rfl | rfl | rfl <;> rfl

/-- An item that ends a condition is all of it. -/
theorem logic_of_value {cs : List Char} {e : Expr} (hvalue : value g cs = some (e, tail))
    (htail : Follower conditionMarks tail) : logic g cs = some (e, tail) := by
  obtain ⟨rest, hspaces, hoperator⟩ := exists_spaces_logicOp htail
  rw [logic, chain, bind_of_some hvalue, bind_of_some (many_of_none (by
    rw [bind_of_some hspaces]
    exact bind_of_none hoperator))]
  rfl

/-! ## Names as conditions -/

/-- A name is an item by itself, before it is known what it is compared to. -/
theorem item_name (hx : IsVariable x) (htail : Follower sideMarks tail) :
    (filteredText g <|> filteredBasic g) (x.toList ++ tail) = some (.plain (.name x), tail) := by
  rw [orElse_of_none (filteredText_follower g hx.identifier (htail.mono (by decide)))]
  exact filteredBasic_follower g hx htail

theorem compared_name (hx : IsVariable x) (htail : Follower sideMarks tail) :
    compared g (x.toList ++ tail) = some (.plain (.name x), tail) :=
  compared_of_filteredBasic g (filteredText_follower g hx.identifier (htail.mono (by decide)))
    (filteredBasic_follower g hx htail) (htail.mono (by decide))

theorem value_name (hx : IsVariable x) (htail : Follower itemMarks tail) :
    value g (x.toList ++ tail) = some (.plain (.name x), tail) :=
  value_of_item g (negation_follower hx htail)
    (spaces_bare ((startsBare_name hx.identifier).append tail))
    (membership_of_item g (item_name g hx (htail.mono (by decide))) (htail.mono (by decide)))
    (comparison_of_side g (compared_name g hx (htail.mono (by decide))) htail)

/-- **A name as a condition or a value** is a variable. -/
theorem logic_name (hx : IsVariable x) (htail : Follower conditionMarks tail) :
    logic g (x.toList ++ tail) = some (.plain (.name x), tail) :=
  logic_of_value g (value_name g hx (htail.mono (by decide))) htail

end Scaffold.Template.Grammar
