import Scaffold.Proofs.Template.Branching.Basic
import Scaffold.Proofs.Template.Simple.Expression

/-!
# Reading names and comparisons

The sides of comparisons are names, texts in quotes and whole numbers. Each is read as what it is in
front of a `Follower`, and so are a comparison and a name, perhaps with a negation in front of them.
Main facts:

* `filteredText_append`, `basicTerm_int` : a text is a text and a number is a number;
* `compared_side` : a side of a comparison is read as what it is;
* `value_name_negated`, `value_compare` : so are names and comparisons with their negations.
-/

namespace Scaffold.Template.Grammar

open Reader

variable {x : String} {marks tail : List Char} (g : Sub)

/-! ## What no name begins with -/

theorem nameChars_of_not {c : Char} (hc : isNameStart c = false) (cs : List Char) :
    nameChars (c :: cs) = none :=
  bind_of_none (satisfying_of_neg hc cs)

theorem name_of_not {c : Char} (hc : isNameStart c = false) (cs : List Char) :
    name (c :: cs) = none :=
  bind_of_none (nameChars_of_not hc cs)

theorem path_of_not {c : Char} (hc : isNameStart c = false) (cs : List Char) :
    path (c :: cs) = none := by
  have hchars : pathChars (c :: cs).length (c :: cs) = none := by
    rw [List.length_cons, pathChars]
    exact bind_of_none (nameChars_of_not hc cs)
  rw [path]
  refine bind_of_none ?_
  rw [taken, hchars]
  rfl

theorem bool_of_not {c : Char} (hc : isNameStart c = false) (cs : List Char) :
    bool (c :: cs) = none := by
  refine bool_of_literals fun s hs => ?_
  simp only [literals, List.mem_cons, List.not_mem_nil, or_false] at hs
  rcases hs with rfl | rfl | rfl | rfl <;>
  · refine literal_of_ne _ _ ?_
    rintro rfl
    cases hc

theorem call_of_not {c : Char} (hc : isNameStart c = false) (cs : List Char) :
    call g (c :: cs) = none :=
  bind_of_none (name_of_not hc cs)

/-- What does not begin with a name is a number if it is an operand. -/
theorem basicValue_of_not {c : Char} (hc : isNameStart c = false) (cs : List Char) :
    basicValue g (c :: cs) =
      ((do let x ← float; pure (.float x)) <|> (do let n ← int; pure (.int n)) : Reader Operand)
        (c :: cs) := by
  have hfailing : failingTest g (c :: cs) = none := bind_of_none (path_of_not hc cs)
  have hpassing : passingTest g (c :: cs) = none := bind_of_none (path_of_not hc cs)
  have hmacro : macroCall g (c :: cs) = none := bind_of_none (name_of_not hc cs)
  rw [basicValue, orElse_of_none (bind_of_none (bool_of_not hc cs)), orElse_of_none hfailing,
    orElse_of_none hpassing, orElse_of_none hmacro,
    orElse_of_none (bind_of_none (call_of_not g hc cs)),
    orElse_of_none (bind_of_none (path_of_not hc cs))]

/-! ## Texts as sides of comparisons -/

/-- A text is read up to its second quote. -/
theorem between_append {quote : Char} {s : List Char} (hs : quote ∉ s) (rest : List Char) :
    between quote (quote :: (s ++ quote :: rest)) = some (s, rest) := by
  have hopen : literal [quote] (quote :: (s ++ quote :: rest)) = some ((), s ++ quote :: rest) :=
    literal_append [quote] _
  have hclose : literal [quote] (quote :: rest) = some ((), rest) := literal_append [quote] _
  have hinside : ∀ c ∈ s, (c != quote) = true := by
    intro c hc
    rw [bne_iff_ne]
    rintro rfl
    exact hs hc
  have hrun : run (· != quote) (s ++ quote :: rest) = some (s, quote :: rest) := by
    rw [run, List.takeWhile_append_of_pos hinside, List.dropWhile_append_of_pos hinside]
    simp
  rw [between, bind_of_some hopen, bind_of_some hrun, bind_of_some hclose, pure_apply]

theorem between_of_ne {quote c : Char} (h : quote ≠ c) (cs : List Char) :
    between quote (c :: cs) = none :=
  bind_of_none (literal_of_ne _ _ h)

/-- The three quotes. -/
theorem quoted_append {quote : Char} (hquote : quote ∈ ['"', '\'', backquote]) {s : String}
    (hs : quote ∉ s.toList) (rest : List Char) :
    quoted (quote :: (s.toList ++ quote :: rest)) = some (s, rest) := by
  have hchoice : (between '"' <|> between '\'' <|> between backquote)
      (quote :: (s.toList ++ quote :: rest)) = some (s.toList, rest) := by
    simp only [List.mem_cons, List.not_mem_nil, or_false] at hquote
    rcases hquote with rfl | rfl | rfl
    · exact orElse_of_some (between_append hs rest)
    · rw [orElse_of_none (between_of_ne (by decide) _)]
      exact orElse_of_some (between_append hs rest)
    · rw [orElse_of_none (between_of_ne (by decide) _),
        orElse_of_none (between_of_ne (by decide) _)]
      exact between_append hs rest
  rw [quoted, bind_of_some hchoice, pure_apply, String.ofList_toList]

/-- No quote begins a name or a number. -/
theorem of_mem_quotes {quote : Char} (hquote : quote ∈ ['"', '\'', backquote]) :
    isNameStart quote = false ∧ '-' ≠ quote ∧ quote.isDigit = false ∧ isSpace quote = false ∧
      'n' ≠ quote ∧ '(' ≠ quote := by
  revert quote
  decide

/-- **A text in quotes** is a text. -/
theorem filteredText_append {quote : Char} (hquote : quote ∈ ['"', '\'', backquote]) {s : String}
    (hs : quote ∉ s.toList) (htail : Follower sideMarks tail) :
    filteredText g (quote :: (s.toList ++ quote :: tail)) = some (.plain (.text s), tail) := by
  obtain ⟨hname, hsign, hdigit, -, -, -⟩ := of_mem_quotes hquote
  have hquoted := quoted_append hquote hs tail
  have hpart : concatPart g (quote :: (s.toList ++ quote :: tail)) = some (.text s, tail) := by
    rw [concatPart, orElse_of_none (bind_of_none (call_of_not g hname _)),
      orElse_of_none (bind_of_none (float_of_not hsign hdigit _)),
      orElse_of_none (bind_of_none (int_of_not hsign hdigit _)), orElse_of_some]
    rw [bind_of_some hquoted, pure_apply]
  have hchoice : (concatenation g <|> (do let s ← quoted; pure (.text s)))
      (quote :: (s.toList ++ quote :: tail)) = some (.text s, tail) := by
    rw [orElse_of_none (concatenation_of_part g hpart (htail.mono (by decide))),
      bind_of_some hquoted, pure_apply]
  rw [filteredText, bind_of_some hchoice, bind_of_some (filters_follower g htail)]
  rfl

/-! ## Numbers as sides of comparisons -/

/-- A number without a sign is taken as a whole. -/
theorem natural_append {ds : List Char} (hds : Side.isNatural ds = true)
    (htail : Follower marks tail) :
    (do
      let d ← satisfying Char.isDigit
      if d == '0' then pure [] else run Char.isDigit : Reader (List Char)) (ds ++ tail) =
      some (ds.tail, tail) := by
  obtain ⟨c, rest, rfl, hc⟩ := htail.exists_cons
  have hend : c.isDigit = false := by
    simp only [List.mem_cons, List.not_mem_nil, or_false] at hc
    rcases hc with rfl | rfl <;> rfl
  cases ds with
  | nil => cases hds
  | cons d ds =>
    rw [Side.isNatural] at hds
    rw [List.cons_append, List.tail_cons]
    by_cases hzero : d = '0'
    · subst hzero
      rw [if_pos rfl, List.isEmpty_iff] at hds
      subst hds
      rfl
    · rw [if_neg hzero, Bool.and_eq_true, List.all_eq_true] at hds
      have hrun : run Char.isDigit (ds ++ c :: rest) = some (ds, c :: rest) := by
        rw [run, List.takeWhile_append_of_pos hds.2, List.dropWhile_append_of_pos hds.2]
        simp [hend]
      rw [bind_of_some (satisfying_of_pos hds.1 _), if_neg (by simpa using hzero)]
      exact hrun

/-- A number begins with a digit. -/
theorem exists_cons_of_isNatural {ds : List Char} (hds : Side.isNatural ds = true) :
    ∃ d more, ds = d :: more ∧ d.isDigit = true := by
  cases ds with
  | nil => cases hds
  | cons d more =>
    refine ⟨d, more, rfl, ?_⟩
    rw [Side.isNatural] at hds
    split at hds
    · rename_i hzero
      subst hzero
      rfl
    · exact (Bool.and_eq_true_iff.1 hds).1

/-- **A number with its sign** is taken as a whole. -/
theorem intChars_append {digits : String} (hdigits : Side.IsInteger digits)
    (htail : Follower marks tail) :
    intChars (digits.toList ++ tail) = some (digits.toList, tail) := by
  obtain ⟨⟨ds, hds, hlist⟩, -⟩ := hdigits
  obtain ⟨d, more, hcons, hd⟩ := exists_cons_of_isNatural hds
  have hbody := natural_append hds htail
  rcases hlist with hlist | hlist
  · have hne : '-' ≠ d := by
      rintro rfl
      cases hd
    have hsign : maybe (literal ['-']) (ds ++ tail) = some (none, ds ++ tail) := by
      rw [hcons]
      exact maybe_of_none (literal_of_ne _ _ hne)
    rw [intChars, hlist, taken_append (by rw [bind_of_some hsign]; exact hbody)]
  · have hsign : maybe (literal ['-']) ('-' :: ds ++ tail) = some (some (), ds ++ tail) :=
      maybe_of_some rfl
    rw [intChars, hlist, taken_append (by rw [bind_of_some hsign]; exact hbody)]

/-- No number begins like anything but a number. -/
theorem exists_cons_of_isInteger {digits : String} (hdigits : Side.IsInteger digits) :
    ∃ c cs, digits.toList = c :: cs ∧ isNameStart c = false ∧ isSpace c = false ∧
      c ∉ ['(', ')', '"', '\'', backquote, 'n', ':'] ∧ (c ≠ '-' → c.isDigit = true) := by
  have hdigit : ∀ c : Char, c.isDigit = true → isNameStart c = false ∧ isSpace c = false ∧
      c ∉ ['(', ')', '"', '\'', backquote, 'n', ':'] := by
    intro c hc
    refine ⟨?_, ?_, ?_⟩
    · cases hname : isNameStart c with
      | false => rfl
      | true =>
        rw [isDigit_of_isNameStart hname] at hc
        cases hc
    · refine isSpace_of_isNameChar ?_
      rw [isNameChar, Char.isAlphanum, hc]
      simp
    · intro hmem
      simp only [List.mem_cons, List.not_mem_nil, or_false] at hmem
      rcases hmem with rfl | rfl | rfl | rfl | rfl | rfl | rfl <;> cases hc
  obtain ⟨⟨ds, hds, hlist⟩, -⟩ := hdigits
  obtain ⟨d, more, rfl, hd⟩ := exists_cons_of_isNatural hds
  rcases hlist with hlist | hlist
  · obtain ⟨hname, hspace, hmem⟩ := hdigit d hd
    exact ⟨d, more, hlist, hname, hspace, hmem, fun _ => hd⟩
  · exact ⟨'-', d :: more, hlist, by decide, by decide, by decide, fun h => absurd rfl h⟩

theorem float_append {digits : String} (hdigits : Side.IsInteger digits)
    (htail : Follower marks tail) : float (digits.toList ++ tail) = none := by
  obtain ⟨c, rest, rfl, hc⟩ := htail.exists_cons
  have hpoint : literal ['.'] (c :: rest) = none := by
    simp only [List.mem_cons, List.not_mem_nil, or_false] at hc
    rcases hc with rfl | rfl <;> rfl
  rw [float]
  refine bind_of_none ?_
  rw [taken, bind_of_some (intChars_append hdigits htail), bind_of_none hpoint]
  rfl

theorem int_append {digits : String} (hdigits : Side.IsInteger digits)
    (htail : Follower marks tail) :
    int (digits.toList ++ tail) = some (Side.number digits, tail) := by
  obtain ⟨n, hn, hlow, hhigh⟩ := hdigits.2
  rw [int, bind_of_some (intChars_append hdigits htail), Side.number, hn]
  dsimp only [Option.getD_some]
  rw [if_pos ⟨hlow, hhigh⟩, pure_apply]

/-- **Of all operands a number is a number.** -/
theorem basicTerm_int {digits : String} (hdigits : Side.IsInteger digits)
    (htail : Follower marks tail) :
    basicTerm g (digits.toList ++ tail) = some (.int (Side.number digits), tail) := by
  obtain ⟨c, cs, hcs, hname, -, hc, -⟩ := exists_cons_of_isInteger hdigits
  have hfloat := float_append hdigits htail
  have hint := int_append hdigits htail
  have hparen : '(' ≠ c := by
    rintro rfl
    exact hc (by decide)
  rw [hcs, List.cons_append] at hfloat hint ⊢
  rw [basicTerm, orElse_of_none (bind_of_none (literal_of_ne _ _ hparen)),
    basicValue_of_not g hname, orElse_of_none (bind_of_none hfloat), bind_of_some hint, pure_apply]

/-- What begins with none of the quotes is no text in quotes. -/
theorem quoted_of_not_mem {c : Char} (hc : c ∉ ['"', '\'', backquote]) (cs : List Char) :
    quoted (c :: cs) = none := by
  simp only [List.mem_cons, List.not_mem_nil, or_false, not_or] at hc
  rw [quoted]
  refine bind_of_none ?_
  rw [orElse_of_none (between_of_ne (Ne.symm hc.1) _),
    orElse_of_none (between_of_ne (Ne.symm hc.2.1) _)]
  exact between_of_ne (Ne.symm hc.2.2) _

/-- A number alone is no text and no concatenation. -/
theorem filteredText_int {digits : String} (hdigits : Side.IsInteger digits)
    (htail : Follower operandMarks tail) : filteredText g (digits.toList ++ tail) = none := by
  obtain ⟨c, cs, hcs, hname, -, hc, -⟩ := exists_cons_of_isInteger hdigits
  have hquote : c ∉ ['"', '\'', backquote] := fun h => hc (by
    simp only [List.mem_cons, List.not_mem_nil, or_false] at h ⊢
    rcases h with h | h | h <;> simp [h])
  have hfloat := float_append hdigits htail
  have hint := int_append hdigits htail
  rw [hcs, List.cons_append] at hfloat hint ⊢
  have hpart : concatPart g (c :: (cs ++ tail)) = some (.int (Side.number digits), tail) := by
    rw [concatPart, orElse_of_none (bind_of_none (call_of_not g hname _)),
      orElse_of_none (bind_of_none hfloat), orElse_of_some]
    rw [bind_of_some hint, pure_apply]
  exact filteredText_of_part g hpart (quoted_of_not_mem hquote _) htail

/-! ## Sides of comparisons -/

/-- How a side is written in front of what follows. -/
theorem source_side_text (quote : Char) (s : String) (tail : List Char) :
    (Side.text quote s).source.toList ++ tail = quote :: (s.toList ++ quote :: tail) := by
  simp [Side.source]

theorem item_side {side : Side} (hside : side.Readable) (htail : Follower sideMarks tail) :
    (filteredText g <|> filteredBasic g) (side.source.toList ++ tail) =
      some (side.expr, tail) := by
  cases side with
  | name x => exact item_name g hside htail
  | text quote s =>
    rw [source_side_text]
    exact orElse_of_some (filteredText_append g hside.1 hside.2 htail)
  | int digits =>
    have htext : filteredText g (digits.toList ++ tail) = none :=
      filteredText_int g hside (htail.mono (by decide))
    rw [Side.source, orElse_of_none htext]
    exact filteredBasic_of_term g (basicTerm_int g hside htail) htail

/-- **One side of a comparison** is read as what it is. -/
theorem compared_side {side : Side} (hside : side.Readable) (htail : Follower sideMarks tail) :
    compared g (side.source.toList ++ tail) = some (side.expr, tail) := by
  have hitem := item_side g hside htail
  cases htext : filteredText g (side.source.toList ++ tail) with
  | some r =>
    rw [orElse_of_some htext] at hitem
    rw [compared, orElse_of_some htext, hitem]
  | none =>
    rw [orElse_of_none htext] at hitem
    exact compared_of_filteredBasic g htext hitem (htail.mono (by decide))

theorem startsBare_side {side : Side} (hside : side.Readable) :
    StartsBare side.source.toList := by
  cases side with
  | name x => exact startsBare_name hside.identifier
  | text quote s =>
    obtain ⟨-, -, -, hspace, -⟩ := of_mem_quotes hside.1
    rw [← List.append_nil (Side.text quote s).source.toList, source_side_text]
    exact ⟨quote, _, rfl, hspace⟩
  | int digits =>
    obtain ⟨c, cs, hcs, -, hspace, -, -⟩ := exists_cons_of_isInteger hside
    exact ⟨c, cs, hcs, hspace⟩

/-- Without the first letter of the word there is no negation. -/
theorem negation_of_ne {c : Char} (hc : 'n' ≠ c) (cs : List Char) :
    negation (c :: cs) = some (false, c :: cs) := by
  have hword : word "not" (c :: cs) = none := bind_of_none (literal_of_ne _ _ hc)
  rw [negation, bind_of_some (maybe_of_none hword)]
  rfl

theorem negation_side {side : Side} (hside : side.Readable) (htail : Follower marks tail) :
    negation (side.source.toList ++ tail) = some (false, side.source.toList ++ tail) := by
  cases side with
  | name x => exact negation_follower hside htail
  | text quote s =>
    obtain ⟨-, -, -, -, hn, -⟩ := of_mem_quotes hside.1
    rw [source_side_text]
    exact negation_of_ne hn _
  | int digits =>
    obtain ⟨c, cs, hcs, -, -, hc, -⟩ := exists_cons_of_isInteger hside
    have hn : 'n' ≠ c := by
      rintro rfl
      exact hc (by decide)
    rw [Side.source, hcs]
    exact negation_of_ne hn _

/-! ## Items -/

/-- The sign of a comparison, with a blank in front of it, ends a side. -/
theorem follower_sign (op : CompareOp) (rest : List Char) :
    Follower sideMarks (' ' :: (op.sign.toList ++ ' ' :: rest)) := by
  cases op <;> exact .mark (by decide) _

theorem compareOp_sign (op : CompareOp) (rest : List Char) :
    compareOp (op.sign.toList ++ ' ' :: rest) = some (op, ' ' :: rest) := by
  cases op <;> rfl

theorem startsBare_sign (op : CompareOp) : StartsBare op.sign.toList := by
  cases op <;> exact ⟨_, _, rfl, rfl⟩

/-- **A comparison** is read as what it is. -/
theorem comparison_compare (op : CompareOp) {lhs rhs : Side} (hl : lhs.Readable)
    (hr : rhs.Readable) (htail : Follower sideMarks tail) :
    comparison g (lhs.source.toList ++ ' ' :: (op.sign.toList ++ ' ' ::
      (rhs.source.toList ++ tail))) = some (.plain (.compare op lhs.expr rhs.expr), tail) := by
  have hlhs := compared_side g hl (follower_sign op (rhs.source.toList ++ tail))
  have hrhs := compared_side g hr htail
  have hrest : maybe (do
      spaces
      let op ← compareOp
      spaces
      let rhs ← compared g
      pure (op, rhs)) (' ' :: (op.sign.toList ++ ' ' :: (rhs.source.toList ++ tail))) =
      some (some (op, rhs.expr), tail) := by
    refine maybe_of_some ?_
    rw [bind_of_some (spaces_blank ((startsBare_sign op).append _)),
      bind_of_some (compareOp_sign op _),
      bind_of_some (spaces_blank ((startsBare_side hr).append _)),
      bind_of_some hrhs, pure_apply]
  rw [comparison, bind_of_some hlhs, bind_of_some hrest]
  rfl

/-- The word for negations is taken with the blank behind it. -/
theorem negation_not (rest : List Char) :
    negation ('n' :: 'o' :: 't' :: ' ' :: rest) = some (true, rest) := rfl

/-- A condition that is a name or a comparison is written with its negation in front. -/
theorem source_negation (negated : Bool) (s : String) (rest : List Char) :
    (Condition.negation negated ++ s).toList ++ rest =
      if negated then 'n' :: 'o' :: 't' :: ' ' :: (s.toList ++ rest) else s.toList ++ rest := by
  cases negated with
  | false => simp [Condition.negation]
  | true => simp [Condition.negation]

/-- **A name with its negation** is an item of a condition. -/
theorem value_name_negated (negated : Bool) (hx : IsVariable x) (htail : Follower itemMarks tail) :
    value g ((Condition.name negated x).source.toList ++ tail) =
      some ((Condition.name negated x).expr, tail) := by
  rw [Condition.source, source_negation]
  cases negated with
  | false => exact value_name g hx htail
  | true =>
    exact value_of_item g (negation_not _)
      (spaces_bare ((startsBare_name hx.identifier).append tail))
      (membership_of_item g (item_name g hx (htail.mono (by decide))) (htail.mono (by decide)))
      (comparison_of_side g (compared_name g hx (htail.mono (by decide))) htail)

/-- **A comparison with its negation** is an item of a condition. -/
theorem value_compare (negated : Bool) (op : CompareOp) {lhs rhs : Side} (hl : lhs.Readable)
    (hr : rhs.Readable) (htail : Follower itemMarks tail) :
    value g ((Condition.compare negated op lhs rhs).source.toList ++ tail) =
      some ((Condition.compare negated op lhs rhs).expr, tail) := by
  have hsource : (Condition.compare negated op lhs rhs).source.toList ++ tail =
      (Condition.negation negated ++ lhs.source).toList ++ ' ' :: (op.sign.toList ++ ' ' ::
        (rhs.source.toList ++ tail)) := by
    simp [Condition.source]
  have hsign := follower_sign op (rhs.source.toList ++ tail)
  have hbare := (startsBare_side hl).append (' ' :: (op.sign.toList ++ ' ' ::
    (rhs.source.toList ++ tail)))
  have hmember := membership_of_item g (item_side g hl hsign) hsign
  have hcompare := comparison_compare g op hl hr (htail.mono (by decide))
  rw [hsource, source_negation]
  cases negated with
  | false => exact value_of_item g (negation_side hl hsign) (spaces_bare hbare) hmember hcompare
  | true => exact value_of_item g (negation_not _) (spaces_bare hbare) hmember hcompare

end Scaffold.Template.Grammar
