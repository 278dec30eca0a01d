import Scaffold.Proofs.Template.Branching.Side

/-!
# Reading conditions in parentheses

Parentheses may stand around a sum or around a condition, and the reader of sums comes first. It has
to fail on a condition, although it can take the word for negations for a name, and even for one
that is put to a test. The key notions are `StopsEarly`, a reader that does not get to a closing
parenthesis, and `GoesOn`, what goes on with a condition. Main facts:

* `basicTerm_not` : what the reader of sums leaves behind the word for negations;
* `stopsEarly_source` : on a condition with an operator the reader of sums stops early;
* `value_group` : a condition in parentheses is an operand of a condition.
-/

namespace Scaffold.Template.Grammar

open Reader

variable {x : String} {marks tail : List Char} (g : Sub)

/-! ## Parentheses around conditions -/

/-- A reader does not get to a closing parenthesis. -/
def StopsEarly {α : Type} (p : Reader α) (cs : List Char) : Prop :=
  ∀ a rest, p cs = some (a, rest) → token [')'] rest = none

theorem stopsEarly_of_none {α : Type} {p : Reader α} {cs : List Char} (h : p cs = none) :
    StopsEarly p cs := by
  intro a rest hsome
  rw [h] at hsome
  cases hsome

theorem stopsEarly_of_some {α : Type} {p : Reader α} {cs rest : List Char} {a : α}
    (h : p cs = some (a, rest)) (hrest : token [')'] rest = none) : StopsEarly p cs := by
  intro b more hsome
  rw [h] at hsome
  cases hsome
  exact hrest

/-- What goes on with a condition: a blank and the beginning of an operator. -/
def GoesOn (tail : List Char) : Prop :=
  ∃ c rest, tail = ' ' :: c :: rest ∧ c ∈ ['a', 'o', '<', '>', '=', '!']

theorem GoesOn.follower (h : GoesOn tail) : Follower sideMarks tail := by
  obtain ⟨c, rest, rfl, hc⟩ := h
  have hsubset : ['a', 'o', '<', '>', '=', '!'] ⊆ sideMarks := by decide
  exact .mark (hsubset hc) rest

theorem GoesOn.token (h : GoesOn tail) : token [')'] tail = none := by
  obtain ⟨c, rest, rfl, hc⟩ := h
  simp only [List.mem_cons, List.not_mem_nil, or_false] at hc
  rcases hc with rfl | rfl | rfl | rfl | rfl | rfl <;> rfl

theorem goesOn_sign (op : CompareOp) (rest : List Char) :
    GoesOn (' ' :: (op.sign.toList ++ ' ' :: rest)) := by
  cases op <;> exact ⟨_, _, rfl, by decide⟩

theorem goesOn_word (op : LogicOp) (rest : List Char) :
    GoesOn (' ' :: (op.word.toList ++ ' ' :: rest)) := by
  cases op <;> exact ⟨_, _, rfl, by decide⟩

/-- What no operand begins with is none. -/
theorem basicTerm_of_not {c : Char} (hc : isNameStart c = false) (hparen : '(' ≠ c)
    (hsign : '-' ≠ c) (hdigit : c.isDigit = false) (cs : List Char) :
    basicTerm g (c :: cs) = none := by
  rw [basicTerm, orElse_of_none (bind_of_none (literal_of_ne _ _ hparen)), basicValue_of_not g hc,
    orElse_of_none (bind_of_none (float_of_not hsign hdigit cs))]
  exact bind_of_none (int_of_not hsign hdigit cs)

/-- A sum with a first operand that ends without a sign stops there. -/
theorem stopsEarly_basic {cs : List Char}
    (hterm : ∀ operand rest, basicTerm g cs = some (operand, rest) →
      ∃ c more, rest = ' ' :: c :: more ∧ isSpace c = false ∧ c ≠ ')' ∧
        mathOp (c :: more) = none) : StopsEarly (basic g) cs := by
  cases hfirst : basicTerm g cs with
  | none => exact stopsEarly_of_none (bind_of_none hfirst)
  | some r =>
    obtain ⟨operand, rest⟩ := r
    obtain ⟨c, more, rfl, hspace, hc, hop⟩ := hterm operand rest hfirst
    have hspaces : spaces (' ' :: c :: more) = some ((), c :: more) :=
      spaces_blank ⟨c, more, rfl, hspace⟩
    have hmany : many (do
        spaces
        let op ← mathOp
        spaces
        let next ← basicTerm g
        pure (op, next)) (' ' :: c :: more) = some ([], ' ' :: c :: more) := by
      refine many_of_none ?_
      rw [bind_of_some hspaces]
      exact bind_of_none hop
    have hbasic : basic g cs = some (operand, ' ' :: c :: more) := by
      rw [basic, chain, bind_of_some hfirst, bind_of_some hmany]
      rfl
    refine stopsEarly_of_some hbasic ?_
    rw [token, bind_of_some hspaces]
    exact literal_of_ne _ _ (Ne.symm hc)

theorem GoesOn.exists_cons (h : GoesOn tail) :
    ∃ c more, tail = ' ' :: c :: more ∧ isSpace c = false ∧ c ≠ ')' ∧
      mathOp (c :: more) = none := by
  obtain ⟨c, rest, rfl, hc⟩ := h
  simp only [List.mem_cons, List.not_mem_nil, or_false] at hc
  rcases hc with rfl | rfl | rfl | rfl | rfl | rfl <;>
    exact ⟨_, rest, rfl, rfl, by decide, rfl⟩

theorem stopsEarly_side {side : Side} (hside : side.Readable) (htail : GoesOn tail) :
    StopsEarly (basic g) (side.source.toList ++ tail) := by
  refine stopsEarly_basic g fun operand rest hterm => ?_
  cases side with
  | name x =>
    rw [Side.source, basicTerm_follower g hside (htail.follower.mono (by decide))] at hterm
    cases hterm
    exact htail.exists_cons
  | text quote s =>
    obtain ⟨hname, hsign, hdigit, -, -, hparen⟩ := of_mem_quotes hside.1
    rw [source_side_text, basicTerm_of_not g hname hparen hsign hdigit] at hterm
    cases hterm
  | int digits =>
    rw [Side.source, basicTerm_int g hside htail.follower] at hterm
    cases hterm
    exact htail.exists_cons

/-! ### Behind the word for negations

In front of a parenthesis that may open a sum the word is a name like any other. -/

/-- What is left of a name is the name of a tester, or none. -/
theorem tester_rest {ys : List Char} (hne : ys ≠ []) (hys : ∀ c ∈ ys, isNameChar c = true)
    (htail : GoesOn tail) {r : String × List Expr} {rest : List Char}
    (h : tester g (ys ++ tail) = some (r, rest)) : rest = tail := by
  obtain ⟨y, more, rfl⟩ := List.exists_cons_of_ne_nil hne
  cases hy : isNameStart y with
  | false =>
    rw [tester, List.cons_append, bind_of_none (name_of_not hy _)] at h
    cases h
  | true =>
    have hmore : ∀ c ∈ more, isNameChar c = true := fun c hc => hys c (List.mem_cons_of_mem _ hc)
    have hident : isIdentifier (String.ofList (y :: more)) = true := by
      rw [isIdentifier, String.toList_ofList]
      simpa [hy] using hmore
    have hname := name_follower hident htail.follower
    rw [String.toList_ofList] at hname
    have hargs : token ['('] tail = none :=
      token_follower (by decide) (by decide) htail.follower
    rw [tester, bind_of_some hname, bind_of_some (maybe_of_none (bind_of_none hargs))] at h
    cases h
    rfl

/-- No sign begins a name. -/
theorem tester_sign (op : CompareOp) (rest : List Char) :
    tester g (op.sign.toList ++ ' ' :: rest) = none := by
  cases op <;> exact bind_of_none (name_of_not rfl _)

/-- A text without blanks is taken off what stands in front of them. -/
theorem exists_of_literal {s cs out : List Char} (hs : ∀ c ∈ [' ', ')'], c ∉ s)
    (htail : Follower marks tail) (h : literal s (cs ++ tail) = some ((), out)) :
    ∃ ds, cs = s ++ ds ∧ out = ds ++ tail := by
  by_cases hprefix : s <+: cs
  · obtain ⟨ds, rfl⟩ := hprefix
    rw [List.append_assoc, literal_append] at h
    cases h
    exact ⟨ds, rfl, rfl⟩
  · rw [literal_follower hs hprefix htail] at h
    cases h

/-- What goes on with a comparison: a blank and its sign. -/
def HasSign (tail : List Char) : Prop :=
  ∃ (op : CompareOp) (rest : List Char), tail = ' ' :: (op.sign.toList ++ ' ' :: rest)

/-- Behind what is left of a name, or behind a sign, a tester takes up to the operator or fails. -/
theorem spaces_tester_rest {ys : List Char} (hys : ∀ c ∈ ys, isNameChar c = true)
    (htail : GoesOn tail) (hsign : ys = [] → HasSign tail) {r : String × List Expr}
    {mid rest : List Char} (hspaces : spaces (ys ++ tail) = some ((), mid))
    (h : tester g mid = some (r, rest)) : rest = tail := by
  cases ys with
  | nil =>
    obtain ⟨op, more, rfl⟩ := hsign rfl
    rw [List.nil_append, spaces_blank ((startsBare_sign op).append _)] at hspaces
    cases hspaces
    rw [tester_sign] at h
    cases h
  | cons y ys =>
    have hbare : StartsBare (y :: ys) :=
      ⟨y, ys, rfl, isSpace_of_isNameChar (hys y List.mem_cons_self)⟩
    rw [spaces_bare (hbare.append tail)] at hspaces
    cases hspaces
    exact tester_rest g (List.cons_ne_nil y ys) hys htail h

/-- A token without blanks is taken off a name. -/
theorem exists_of_token {s cs out : List Char} (hs : ∀ c ∈ [' ', ')'], c ∉ s)
    (hbare : StartsBare cs) (htail : Follower marks tail)
    (h : token s (cs ++ tail) = some ((), out)) : ∃ ds, cs = s ++ ds ∧ out = ds ++ tail := by
  rw [token, bind_of_some (spaces_bare (hbare.append tail))] at h
  exact exists_of_literal hs htail h

/-- A test of the word for negations takes up to the operator behind the name, or fails. -/
theorem tests_rest (hx : IsVariable x) (htail : GoesOn tail)
    (hword : x ≠ "is" ∧ x ≠ "isnot" ∨ HasSign tail) {mid rest : List Char}
    {r : String × List Expr} (his : token "is".toList (x.toList ++ tail) = some ((), mid)) :
    (∀ out, spaces mid = some ((), out) → tester g out = some (r, rest) → rest = tail) ∧
    ∀ out more, token "not".toList mid = some ((), out) → spaces out = some ((), more) →
      tester g more = some (r, rest) → rest = tail := by
  obtain ⟨ys, hys, rfl⟩ := exists_of_token (by decide) (startsBare_name hx.identifier)
    htail.follower his
  have hchars : ∀ c ∈ ys, isNameChar c = true := fun c hc =>
    isNameChar_of_mem hx.identifier (by simp [hys, hc])
  refine ⟨fun out hspaces h => ?_, fun out more hnot hspaces h => ?_⟩
  · refine spaces_tester_rest g hchars htail (fun hnil => ?_) hspaces h
    rcases hword with hword | hsign
    · rw [hnil, List.append_nil, String.toList_inj] at hys
      exact absurd hys hword.1
    · exact hsign
  · cases ys with
    | nil =>
      have hnone : token ('n' :: "ot".toList) tail = none :=
        token_follower (by decide) (by decide) htail.follower
      exact absurd (hnone.symm.trans hnot) (by simp)
    | cons y ys =>
      have hbare : StartsBare (y :: ys) :=
        ⟨y, ys, rfl, isSpace_of_isNameChar (hchars y List.mem_cons_self)⟩
      obtain ⟨zs, hzs, rfl⟩ := exists_of_token (by decide) hbare htail.follower hnot
      have hmore : ∀ c ∈ zs, isNameChar c = true := fun c hc => hchars c (by simp [hzs, hc])
      refine spaces_tester_rest g hmore htail (fun hnil => ?_) hspaces h
      rcases hword with hword | hsign
      · rw [hzs, hnil, List.append_nil, ← String.toList_append, String.toList_inj] at hys
        exact absurd hys hword.2
      · exact hsign

theorem token_blank {s bare : List Char} (h : StartsBare bare) :
    token s (' ' :: bare) = token s bare := by
  rw [token, bind_of_some (spaces_blank h), bind_of_some (spaces_bare h)]

/-- Behind a blank there is no token that begins with another character. -/
theorem token_blank_of_ne {k b : Char} (hspace : isSpace b = false) (hk : k ≠ b)
    (ks more : List Char) : token (k :: ks) (' ' :: b :: more) = none := by
  have hbare : StartsBare (b :: more) := ⟨b, more, rfl, hspace⟩
  rw [token_blank hbare, token, bind_of_some (spaces_bare hbare)]
  exact literal_of_ne _ _ hk

/-- A failing test of a name with a blank behind it is read word by word. -/
theorem exists_of_failingTest {cs bare rest : List Char} {operand : Operand}
    (hpath : path cs = some (x, ' ' :: bare)) (hbare : StartsBare bare)
    (h : failingTest g cs = some (operand, rest)) :
    ∃ mid out last, ∃ r : String × List Expr, token "is".toList bare = some ((), mid) ∧
      token "not".toList mid = some ((), out) ∧ spaces out = some ((), last) ∧
      tester g last = some (r, rest) := by
  rw [failingTest, bind_of_some hpath] at h
  obtain ⟨⟨⟩, mid, his, h⟩ := exists_of_bind h
  rw [token_blank hbare] at his
  obtain ⟨⟨⟩, out, hnot, h⟩ := exists_of_bind h
  obtain ⟨⟨⟩, last, hspaces, h⟩ := exists_of_bind h
  obtain ⟨r, after, htester, h⟩ := exists_of_bind h
  cases h
  exact ⟨mid, out, last, r, his, hnot, hspaces, htester⟩

/-- So is a test that is to pass. -/
theorem exists_of_passingTest {cs bare rest : List Char} {operand : Operand}
    (hpath : path cs = some (x, ' ' :: bare)) (hbare : StartsBare bare)
    (h : passingTest g cs = some (operand, rest)) :
    ∃ mid out, ∃ r : String × List Expr, token "is".toList bare = some ((), mid) ∧
      spaces mid = some ((), out) ∧ tester g out = some (r, rest) := by
  rw [passingTest, bind_of_some hpath] at h
  obtain ⟨⟨⟩, mid, his, h⟩ := exists_of_bind h
  rw [token_blank hbare] at his
  obtain ⟨⟨⟩, out, hspaces, h⟩ := exists_of_bind h
  obtain ⟨r, after, htester, h⟩ := exists_of_bind h
  cases h
  exact ⟨mid, out, r, his, hspaces, htester⟩

/-- A name that is no call is an operand that is tested, or it is one itself. -/
theorem of_basicTerm_name {cs more rest : List Char} {operand : Operand}
    (hopen : literal ['('] cs = none) (hbool : bool cs = none) (hmacroCall : macroCall g cs = none)
    (hcall : call g cs = none) (hpath : path cs = some (x, more))
    (h : basicTerm g cs = some (operand, rest)) :
    failingTest g cs = some (operand, rest) ∨ passingTest g cs = some (operand, rest) ∨
      operand = .name x ∧ rest = more := by
  rw [basicTerm, orElse_of_none (bind_of_none hopen), basicValue,
    orElse_of_none (bind_of_none hbool)] at h
  cases hfailing : failingTest g cs with
  | some found =>
    rw [orElse_of_some hfailing] at h
    exact .inl h
  | none =>
    rw [orElse_of_none hfailing] at h
    cases hpassing : passingTest g cs with
    | some found =>
      rw [orElse_of_some hpassing] at h
      exact .inr (.inl h)
    | none =>
      rw [orElse_of_none hpassing, orElse_of_none hmacroCall, orElse_of_none (bind_of_none hcall),
        orElse_of_some (by rw [bind_of_some hpath, pure_apply])] at h
      cases h
      exact .inr (.inr ⟨rfl, rfl⟩)

/-- What stands behind the word for negations as a name: the rest, or what a test of it leaves. -/
theorem basicTerm_not {b : Char} {more : List Char} (hspace : isSpace b = false)
    (hb : b ∉ [':', '(']) {operand : Operand} {rest : List Char}
    (htests : ∀ mid, token "is".toList (b :: more) = some ((), mid) →
      ∀ r : String × List Expr,
        (∀ out, spaces mid = some ((), out) → tester g out = some (r, rest) → rest = tail) ∧
        ∀ out last, token "not".toList mid = some ((), out) → spaces out = some ((), last) →
          tester g last = some (r, rest) → rest = tail)
    (h : basicTerm g ('n' :: 'o' :: 't' :: ' ' :: b :: more) = some (operand, rest)) :
    rest = ' ' :: b :: more ∨ rest = tail := by
  have hword : isIdentifier "not" = true := by decide
  have hbare : StartsBare (b :: more) := ⟨b, more, rfl, hspace⟩
  have hfollower : Follower [b] (' ' :: b :: more) := .mark (List.mem_singleton_self b) more
  have hpath : path ('n' :: 'o' :: 't' :: ' ' :: b :: more) = some ("not", ' ' :: b :: more) :=
    path_follower hword hfollower
  have hname : name ('n' :: 'o' :: 't' :: ' ' :: b :: more) = some ("not", ' ' :: b :: more) :=
    name_follower hword hfollower
  have hne : ∀ k ∈ [':', '('], k ≠ b := by
    rintro k hk rfl
    exact hb hk
  have hmacroCall : macroCall g ('n' :: 'o' :: 't' :: ' ' :: b :: more) = none := by
    rw [macroCall, bind_of_some hname]
    exact bind_of_none (token_blank_of_ne hspace (hne ':' (by decide)) _ more)
  have hcall : call g ('n' :: 'o' :: 't' :: ' ' :: b :: more) = none := by
    rw [call, callWith, bind_of_some hname]
    exact bind_of_none (bind_of_none (token_blank_of_ne hspace (hne '(' (by decide)) _ more))
  rcases of_basicTerm_name g rfl rfl hmacroCall hcall hpath h with hfailing | hpassing | ⟨-, hrest⟩
  · obtain ⟨mid, out, last, r, his, hnot, hspaces, htester⟩ :=
      exists_of_failingTest g hpath hbare hfailing
    exact .inr ((htests mid his r).2 out last hnot hspaces htester)
  · obtain ⟨mid, out, r, his, hspaces, htester⟩ := exists_of_passingTest g hpath hbare hpassing
    exact .inr ((htests mid his r).1 out hspaces htester)
  · exact .inl hrest

/-- Letters, digits and quotes are no arithmetic signs. -/
theorem mathOp_of_not {c : Char} (hc : c ∉ ['+', '-', '*', '/', '%']) (cs : List Char) :
    mathOp (c :: cs) = none := by
  have hliteral : ∀ k ∈ ['+', '-', '*', '/', '%'], literal [k] (c :: cs) = none := by
    intro k hk
    refine literal_of_ne _ _ ?_
    rintro rfl
    exact hc hk
  rw [mathOp, orElse_of_none (bind_of_none (hliteral '+' (by decide))),
    orElse_of_none (bind_of_none (hliteral '-' (by decide))),
    orElse_of_none (bind_of_none (hliteral '*' (by decide))),
    orElse_of_none (bind_of_none (hliteral '/' (by decide)))]
  exact bind_of_none (hliteral '%' (by decide))

/-- What the word for negations leaves as an operand in front of a side ends without a sign. The
side begins with `b`. -/
theorem basicTerm_not_side {side : Side} (hside : side.Readable) (htail : GoesOn tail)
    (hname : ∀ x, side = .name x → x ≠ "is" ∧ x ≠ "isnot" ∨ HasSign tail) {b : Char}
    {more : List Char} (hcons : side.source.toList ++ tail = b :: more)
    (hspace : isSpace b = false) (hb : b ∉ [':', '(', ')']) (hop : b ∉ ['+', '-', '*', '/', '%'])
    (hi : (∃ x, side = .name x) ∨ b ≠ 'i') {operand : Operand} {rest : List Char}
    (hterm : basicTerm g ('n' :: 'o' :: 't' :: ' ' :: b :: more) = some (operand, rest)) :
    ∃ c more, rest = ' ' :: c :: more ∧ isSpace c = false ∧ c ≠ ')' ∧
      mathOp (c :: more) = none := by
  have hsubset : [':', '('] ⊆ [':', '(', ')'] := by decide
  have hopen : b ∉ [':', '('] := fun hmem => hb (hsubset hmem)
  have hparen : b ≠ ')' := by
    rintro rfl
    exact hb (by decide)
  have hrest : rest = ' ' :: b :: more ∨ rest = tail := by
    refine basicTerm_not g hspace hopen (fun mid his r => ?_) hterm
    rcases hi with ⟨x, rfl⟩ | hi
    · exact tests_rest g hside htail (hname x rfl) (hcons ▸ his)
    · have hnone : literal ('i' :: "s".toList) (b :: more) = none := literal_of_ne _ _ (Ne.symm hi)
      rw [token, bind_of_some (spaces_bare ⟨b, more, rfl, hspace⟩)] at his
      exact absurd (hnone.symm.trans his) (by simp)
  rcases hrest with rfl | rfl
  · exact ⟨b, more, rfl, hspace, hparen, mathOp_of_not hop more⟩
  · exact htail.exists_cons

/-- **A side behind the word for negations** is not taken for the start of a sum. -/
theorem stopsEarly_not {side : Side} (hside : side.Readable) (htail : GoesOn tail)
    (hname : ∀ x, side = .name x → x ≠ "is" ∧ x ≠ "isnot" ∨ HasSign tail)
    (hint : ∀ digits, side = .int digits → digits.toList.head? ≠ some '-') :
    StopsEarly (basic g) ('n' :: 'o' :: 't' :: ' ' :: (side.source.toList ++ tail)) := by
  refine stopsEarly_basic g fun operand rest hterm => ?_
  have hleft : ∀ (b : Char) (more : List Char), side.source.toList ++ tail = b :: more →
      isSpace b = false → b ∉ [':', '(', ')'] → b ∉ ['+', '-', '*', '/', '%'] →
      ((∃ x, side = .name x) ∨ b ≠ 'i') →
      ∃ c more, rest = ' ' :: c :: more ∧ isSpace c = false ∧ c ≠ ')' ∧
        mathOp (c :: more) = none := by
    intro b more hcons hspace hb hop hi
    rw [hcons] at hterm
    exact basicTerm_not_side g hside htail hname hcons hspace hb hop hi hterm
  cases side with
  | name x =>
    obtain ⟨c, cs, hcs, hc, -⟩ := exists_cons_of_isIdentifier hside.identifier
    have hne : ∀ d, isNameStart d = false → c ≠ d := fun d hd => (ne_of_isNameStart hc hd).symm
    refine hleft c (cs ++ tail) (by rw [Side.source, hcs, List.cons_append])
      (isSpace_of_isNameChar (isNameChar_of_isNameStart hc)) ?_ ?_ (.inl ⟨x, rfl⟩)
    · simp only [List.mem_cons, List.not_mem_nil, or_false, not_or]
      exact ⟨hne _ (by decide), hne _ (by decide), hne _ (by decide)⟩
    · simp only [List.mem_cons, List.not_mem_nil, or_false, not_or]
      exact ⟨hne _ (by decide), hne _ (by decide), hne _ (by decide), hne _ (by decide),
        hne _ (by decide)⟩
  | text quote s =>
    have hquote : ∀ q ∈ ['"', '\'', backquote], isSpace q = false ∧ q ∉ [':', '(', ')'] ∧
        q ∉ ['+', '-', '*', '/', '%'] ∧ q ≠ 'i' := by decide
    obtain ⟨hspace, hb, hop, hi⟩ := hquote quote hside.1
    exact hleft quote _ (source_side_text quote s tail) hspace hb hop (.inr hi)
  | int digits =>
    obtain ⟨c, cs, hcs, hstart, hspace, hc, hdigit⟩ := exists_cons_of_isInteger hside
    have hminus : c ≠ '-' := by
      rintro rfl
      exact hint digits rfl (by rw [hcs]; rfl)
    have hdigit := hdigit hminus
    refine hleft c (cs ++ tail) (by rw [Side.source, hcs, List.cons_append]) hspace ?_ ?_ (.inr ?_)
    · intro hmem
      simp only [List.mem_cons, List.not_mem_nil, or_false] at hmem
      rcases hmem with rfl | rfl | rfl <;> cases hdigit
    · intro hmem
      simp only [List.mem_cons, List.not_mem_nil, or_false] at hmem
      rcases hmem with rfl | rfl | rfl | rfl | rfl <;> cases hdigit
    · rintro rfl
      cases hdigit

/-! ### Conditions in parentheses -/

theorem source_group (inner : Condition) (tail : List Char) :
    (Condition.group inner).source.toList ++ tail =
      '(' :: (inner.source.toList ++ ')' :: tail) := by
  simp [Condition.source]

theorem source_logic (op : LogicOp) (lhs rhs : Condition) (tail : List Char) :
    (Condition.logic op lhs rhs).source.toList ++ tail =
      lhs.source.toList ++ ' ' :: (op.word.toList ++ ' ' :: (rhs.source.toList ++ tail)) := by
  simp [Condition.source]

theorem source_compare (negated : Bool) (op : CompareOp) (lhs rhs : Side) (tail : List Char) :
    (Condition.compare negated op lhs rhs).source.toList ++ tail =
      (Condition.negation negated ++ lhs.source).toList ++ ' ' :: (op.sign.toList ++ ' ' ::
        (rhs.source.toList ++ tail)) := by
  simp [Condition.source]

theorem startsBare_negation (negated : Bool) {s : String} (hs : StartsBare s.toList)
    (rest : List Char) : StartsBare ((Condition.negation negated ++ s).toList ++ rest) := by
  rw [source_negation]
  cases negated with
  | false => exact hs.append rest
  | true => exact ⟨'n', _, rfl, rfl⟩

/-- No condition begins with a blank. -/
theorem startsBare_source {c : Condition} (hc : c.Readable) (rest : List Char) :
    StartsBare (c.source.toList ++ rest) := by
  induction c generalizing rest with
  | name negated x => exact startsBare_negation negated (startsBare_name hc.identifier) rest
  | compare negated op lhs rhs =>
    rw [source_compare]
    exact startsBare_negation negated (startsBare_side hc.1) _
  | group inner _ =>
    rw [source_group]
    exact ⟨'(', _, rfl, rfl⟩
  | logic op lhs rhs ihl _ =>
    rw [source_logic]
    exact ihl hc.2.1 _

/-- No sum in parentheses stands where a reader of sums does not get to the end of them. -/
theorem basicTerm_paren {cs : List Char} (hcs : StartsBare cs) (hearly : StopsEarly g.basic cs) :
    basicTerm g ('(' :: cs) = none := by
  have hopen : literal ['('] ('(' :: cs) = some ((), cs) := literal_append ['('] cs
  have hvalue : basicValue g ('(' :: cs) = none := by
    rw [basicValue_of_not g (by decide),
      orElse_of_none (bind_of_none (float_of_not (by decide) (by decide) cs))]
    exact bind_of_none (int_of_not (by decide) (by decide) cs)
  rw [basicTerm, orElse_of_none, hvalue]
  rw [bind_of_some hopen, bind_of_some (spaces_bare hcs)]
  cases hbasic : g.basic cs with
  | none => exact bind_of_none hbasic
  | some r =>
    obtain ⟨operand, rest⟩ := r
    rw [bind_of_some hbasic]
    exact bind_of_none (hearly operand rest hbasic)

/-- **A condition in parentheses is not taken for a sum in parentheses**: the reader of sums stops
at the first operator of the condition. The induction is on the condition, the operator being either
inside it or behind it. -/
theorem stopsEarly_source {c : Condition} (hc : c.Readable) (hfirst : c.first.opensGroup = true)
    (depth : Nat) (htail : c.operator? ≠ none ∨ GoesOn tail) :
    StopsEarly (basic (sub depth)) (c.source.toList ++ tail) := by
  induction c generalizing depth tail with
  | name negated x =>
    rcases htail with hop | htail
    · exact absurd rfl hop
    have hside : (Side.name x).Readable := hc
    rw [Condition.source, source_negation]
    cases negated with
    | false =>
      have hearly := stopsEarly_side (sub depth) hside htail
      exact hearly
    | true =>
      have hne : x ≠ "is" ∧ x ≠ "isnot" := by
        simpa [Condition.first, Condition.opensGroup] using hfirst
      have hname : ∀ y, Side.name x = .name y → y ≠ "is" ∧ y ≠ "isnot" ∨ HasSign tail := by
        intro y hy
        cases hy
        exact .inl hne
      have hint : ∀ digits, Side.name x = .int digits → digits.toList.head? ≠ some '-' :=
        fun _ h => Side.noConfusion h
      have hearly := stopsEarly_not (sub depth) hside htail hname hint
      exact hearly
  | compare negated op lhs rhs =>
    rw [source_compare, source_negation]
    cases negated with
    | false => exact stopsEarly_side (sub depth) hc.1 (goesOn_sign op _)
    | true =>
      refine stopsEarly_not (sub depth) hc.1 (goesOn_sign op _) (fun _ _ => .inr ⟨op, _, rfl⟩)
        fun digits hdigits => ?_
      subst hdigits
      simpa [Condition.first, Condition.opensGroup] using hfirst
  | group inner ih =>
    rw [source_group]
    refine stopsEarly_of_none (bind_of_none (basicTerm_paren _ (startsBare_source hc.2.2 _) ?_))
    cases depth with
    | zero => exact stopsEarly_of_none rfl
    | succ depth => exact ih hc.2.2 hc.2.1 depth (.inl hc.1)
  | logic op lhs rhs ihl _ =>
    rw [source_logic]
    exact ihl hc.2.1 hfirst depth (.inr (goesOn_word op _))

theorem withNegation_expr {c : Condition} (hc : c.operator? ≠ none) :
    c.expr.withNegation false = c.expr := by
  cases c with
  | logic op lhs rhs => rfl
  | name | compare | group => exact absurd rfl hc

/-- No text and no concatenation begins with a parenthesis. -/
theorem filteredText_paren (cs : List Char) : filteredText g ('(' :: cs) = none := by
  have hquoted : quoted ('(' :: cs) = none := quoted_of_not_mem (by decide) cs
  have hpart : concatPart g ('(' :: cs) = none := by
    rw [concatPart, orElse_of_none (bind_of_none (call_of_not g (by decide) cs)),
      orElse_of_none (bind_of_none (float_of_not (by decide) (by decide) cs)),
      orElse_of_none (bind_of_none (int_of_not (by decide) (by decide) cs)),
      orElse_of_none (bind_of_none hquoted)]
    exact bind_of_none (path_of_not (by decide) cs)
  exact filteredText_of_none g (bind_of_none hpart) hquoted

/-- Where there is neither a text nor a sum there is nothing to compare and no member. -/
theorem item_of_none {cs : List Char} (htext : filteredText g cs = none)
    (hbasic : filteredBasic g cs = none) : (membership g <|> comparison g) cs = none := by
  have hmember : membership g cs = none := by
    refine bind_of_none ?_
    rw [orElse_of_none htext]
    exact hbasic
  have hcompared : compared g cs = none := by
    rw [compared, orElse_of_none htext]
    exact bind_of_none hbasic
  rw [orElse_of_none hmember]
  exact bind_of_none hcompared

/-- **A condition in parentheses** is an operand of a condition. -/
theorem value_group {inner : Condition} (hinner : (Condition.group inner).Readable) {depth : Nat}
    (hlogic : logic (sub depth) (inner.source.toList ++ ')' :: tail) =
      some (inner.expr, ')' :: tail)) :
    value (sub (depth + 1)) ((Condition.group inner).source.toList ++ tail) =
      some ((Condition.group inner).expr, tail) := by
  obtain ⟨hop, hfirst, hread⟩ := hinner
  have hbare := startsBare_source hread (')' :: tail)
  have hearly : StopsEarly (sub (depth + 1)).basic (inner.source.toList ++ ')' :: tail) :=
    stopsEarly_source hread hfirst depth (.inl hop)
  have hterm := basicTerm_paren (sub (depth + 1)) hbare hearly
  rw [source_group]
  generalize inner.source.toList ++ ')' :: tail = cs at *
  have hbasic : filteredBasic (sub (depth + 1)) ('(' :: cs) = none :=
    bind_of_none (bind_of_none hterm)
  have hitem : (membership (sub (depth + 1)) <|> comparison (sub (depth + 1))) ('(' :: cs) =
      none :=
    item_of_none _ (filteredText_paren _ cs) hbasic
  have hspaces : spaces ('(' :: cs) = some ((), '(' :: cs) := spaces_bare ⟨'(', cs, rfl, rfl⟩
  have hopen : literal ['('] ('(' :: cs) = some ((), cs) := literal_append ['('] cs
  have hinside : (sub (depth + 1)).logic cs = some (inner.expr, ')' :: tail) := hlogic
  have hclose : token [')'] (')' :: tail) = some ((), tail) := rfl
  rw [value, orElse_of_none]
  · rw [bind_of_some hopen, bind_of_some (spaces_bare hbare), bind_of_some hinside,
      bind_of_some hclose, withNegation_expr hop]
    rfl
  · rw [bind_of_some (negation_of_ne (by decide) cs), bind_of_some hspaces]
    exact bind_of_none hitem

end Scaffold.Template.Grammar
