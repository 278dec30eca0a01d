import Scaffold.Text.Search

/-!
# Readers

A reader takes a piece off the front of a text or fails. Choices are ordered and never taken back
once they succeeded, repetition takes as much as it can. These are the combinators that grammars are
written in.
-/

namespace Scaffold

/-- Takes a value off the front of a text, or fails. -/
abbrev Reader (α : Type) := StateT (List Char) Option α

namespace Reader

/-! ## Characters -/

/-- Takes a given text. -/
def literal (s : List Char) : Reader Unit := fun cs => (Text.stripStart? s cs).map ((), ·)

/-- Takes a character that satisfies a test. -/
def satisfying (p : Char → Bool) : Reader Char
  | [] => none
  | c :: cs => if p c then some (c, cs) else none

/-- Takes the longest run of characters that satisfy a test. -/
def run (p : Char → Bool) : Reader (List Char) := fun cs => some (cs.takeWhile p, cs.dropWhile p)

/-- Takes a non-empty run of characters that satisfy a test. -/
def run1 (p : Char → Bool) : Reader (List Char) := fun cs =>
  if (cs.takeWhile p).isEmpty then none else some (cs.takeWhile p, cs.dropWhile p)

/-! ## Choice and repetition -/

/-- Takes a value if there is one. -/
def maybe {α : Type} (p : Reader α) : Reader (Option α) := fun cs =>
  match p cs with
  | some (a, rest) => some (some a, rest)
  | none => some (none, cs)

/-- Takes at most `n` values, as many as there are. -/
def atMost {α : Type} (p : Reader α) : Nat → Reader (List α)
  | 0 => pure []
  | n + 1 => fun cs =>
    match p cs with
    | some (a, rest) => (atMost p n rest).map fun (as, rest) => (a :: as, rest)
    | none => some ([], cs)

/-- Takes as many values as there are. A value takes at least one character, so there are no more
values than characters. -/
def many {α : Type} (p : Reader α) : Reader (List α) := fun cs => atMost p cs.length cs

/-- Takes as many values as there are, at least one. -/
def many1 {α : Type} (p : Reader α) : Reader (List α) := do
  let a ← p
  let as ← many p
  pure (a :: as)

/-- Runs a reader and gives the text it took instead of its value. -/
def taken {α : Type} (p : Reader α) : Reader (List Char) := fun cs =>
  (p cs).map fun (_, rest) => (cs.take (cs.length - rest.length), rest)

/-- Succeeds at the end of the text only. -/
def done : Reader Unit
  | [] => some ((), [])
  | _ :: _ => none

@[simp] theorem literal_append (s cs : List Char) : literal s (s ++ cs) = some ((), cs) := by
  simp [literal, Text.stripStart?_append]

theorem maybe_of_none {α : Type} {p : Reader α} {cs : List Char} (h : p cs = none) :
    maybe p cs = some (none, cs) := by
  simp [maybe, h]

theorem maybe_of_some {α : Type} {p : Reader α} {cs rest : List Char} {a : α}
    (h : p cs = some (a, rest)) : maybe p cs = some (some a, rest) := by
  simp [maybe, h]

theorem many_of_none {α : Type} {p : Reader α} {cs : List Char} (h : p cs = none) :
    many p cs = some ([], cs) := by
  cases cs with
  | nil => rfl
  | cons c cs => simp [many, atMost, h]

end Reader

end Scaffold
