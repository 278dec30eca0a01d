import Scaffold.Text.Reader

/-!
# Reading step by step

What composed readers do, from what their parts do. The key notion is `Chain`, the values that a
reader takes off a text one after the other until it fails. Main facts:

* `bind_of_some`, `orElse_of_none` : how a reader goes on behind a part;
* `many_of_chain` : repetition takes the values of the chain;
* `Chain.orElse` : a further choice does not matter to a chain if it fails at its end.
-/

namespace Scaffold.Reader

variable {α β : Type} {p q : Reader α} {cs rest : List Char} {a : α}

/-- What holds for all of some characters is decided one by one, without a look at other ones. -/
instance decidableForallMem (test : Char → Prop) [DecidablePred test] (cs : List Char) :
    Decidable (∀ c ∈ cs, test c) :=
  List.decidableBAll test cs

/-! ## Single steps -/

@[simp] theorem pure_apply (a : α) (cs : List Char) : (pure a : Reader α) cs = some (a, cs) := rfl

/-- A character that passes a test is taken. -/
theorem satisfying_of_pos {test : Char → Bool} {c : Char} (hc : test c = true) (cs : List Char) :
    satisfying test (c :: cs) = some (c, cs) :=
  if_pos hc

/-- A character that does not pass a test is not taken. -/
theorem satisfying_of_neg {test : Char → Bool} {c : Char} (hc : test c = false) (cs : List Char) :
    satisfying test (c :: cs) = none :=
  if_neg (Bool.eq_false_iff.1 hc)

/-- A reader goes on with the value and the rest of its first part. -/
theorem bind_of_some {f : α → Reader β} (h : p cs = some (a, rest)) :
    (p >>= f) cs = f a rest := by
  show (p cs).bind (fun r => f r.1 r.2) = f a rest
  rw [h]
  rfl

/-- A reader fails with its first part. -/
theorem bind_of_none {f : α → Reader β} (h : p cs = none) : (p >>= f) cs = none := by
  show (p cs).bind (fun r => f r.1 r.2) = none
  rw [h]
  rfl

/-- What a reader takes it takes part by part. -/
theorem exists_of_bind {f : α → Reader β} {b : β} {out : List Char}
    (h : (p >>= f) cs = some (b, out)) :
    ∃ a rest, p cs = some (a, rest) ∧ f a rest = some (b, out) := by
  cases hp : p cs with
  | none =>
    rw [bind_of_none hp] at h
    cases h
  | some r =>
    obtain ⟨a, rest⟩ := r
    rw [bind_of_some hp] at h
    exact ⟨a, rest, rfl, h⟩

/-- A choice is made if it succeeds. -/
theorem orElse_of_some (h : p cs = some (a, rest)) : (p <|> q) cs = some (a, rest) := by
  show (p cs <|> q cs) = some (a, rest)
  rw [h]
  rfl

/-- A choice that fails leaves the other one. -/
theorem orElse_of_none (h : p cs = none) : (p <|> q) cs = q cs := by
  show (p cs <|> q cs) = q cs
  rw [h]
  rfl

/-- The text that a reader took is what stood in front of the rest. -/
theorem taken_append (h : p (cs ++ rest) = some (a, rest)) :
    taken p (cs ++ rest) = some (cs, rest) := by
  rw [taken, h]
  simp

/-! ## Repetition -/

/-- A reader takes values off a text one after the other until it fails. Each of them takes at least
one character. -/
inductive Chain (p : Reader α) : List Char → List α → List Char → Prop
  | stop {cs : List Char} (fails : p cs = none) : Chain p cs [] cs
  | step {cs rest out : List Char} {a : α} {as : List α} (takes : p cs = some (a, rest))
      (shorter : rest.length < cs.length) (more : Chain p rest as out) : Chain p cs (a :: as) out

/-- Repetition with enough rounds takes the values of the chain. -/
theorem atMost_of_chain {out : List Char} {as : List α} (h : Chain p cs as out) {n : Nat}
    (hn : cs.length ≤ n) : atMost p n cs = some (as, out) := by
  induction h generalizing n with
  | @stop cs fails =>
    cases n with
    | zero => rfl
    | succ n => simp only [atMost, fails]
  | @step cs rest out a as takes shorter more ih =>
    cases n with
    | zero => omega
    | succ n =>
      have hrest : atMost p n rest = some (as, out) := ih (by omega)
      simp only [atMost, takes, hrest, Option.map_some]

/-- **Repetition takes the values of the chain.** -/
theorem many_of_chain {out : List Char} {as : List α} (h : Chain p cs as out) :
    many p cs = some (as, out) :=
  atMost_of_chain h (Nat.le_refl _)

/-- A further choice that fails at the end of a chain is never made. -/
theorem Chain.orElse {out : List Char} {as : List α} (h : Chain p cs as out)
    (hq : q out = none) : Chain (p <|> q) cs as out := by
  induction h with
  | stop fails => exact .stop ((orElse_of_none fails).trans hq)
  | step takes shorter _ ih => exact .step (orElse_of_some takes) shorter (ih hq)

end Scaffold.Reader
