import Scaffold.Template.Scope
import Scaffold.Text.Letter

/-!
# Names that are not defined

A template that names something undefined cannot be rendered. `fillUndefined` renders it again with
the reported name bound to the empty text, as long as a new name is reported and not too many have
been filled in. It knows nothing of the renderer but what it answers in a context. Main facts:
`filled_length_le` bounds the number of names, hence of renders, and `result_eq` says that the
answer is the renderer's own for the context with these names filled in.
-/

namespace Scaffold.Expansion

open Template

/-- The most names that are filled in for one template. -/
def fillLimit : Nat := 64

/-- The words before the name in the message of an undefined name. -/
def marker : List Char := "Variable `".toList

/-- The character behind the name in such a message. -/
def closing : Char := Char.ofNat 96

/-- Whether a text is a single name: letters, digits and underscores, one at least. -/
def isPlainName (name : List Char) : Bool :=
  !name.isEmpty && name.all fun c => Text.isAlphanumeric c || c == '_'

/-- What follows the marker in the first message that has one. -/
def afterMarker? : Trace → Option (List Char)
  | [] => none
  | message :: causes =>
    match Text.cutFirst? marker message.toList with
    | some (_, rest) => some rest
    | none => afterMarker? causes

/-- The name that a failure reports as undefined. -/
def undefinedName? (trace : Trace) : Option String :=
  match afterMarker? trace with
  | none => none
  | some rest =>
    match Text.cutFirst? [closing] rest with
    | none => none
    | some (name, _) => if isPlainName name then some (String.ofList name) else none

/-- The names filled in, in order, and the last answer of the renderer. -/
structure Filling where
  names : List String
  result : Except Trace String

/-- A context with names bound to the empty text. -/
def fillNames (context : Context) (names : List String) : Context :=
  names.foldl (fun c n => c.bind n (.string "")) context

/-- Renders, and renders again with every newly reported name filled in, `budget` more names at
most. -/
def fillUndefined (render : Context → Except Trace String) (context : Context) :
    (budget : Nat) → (filled : List String) → Filling
  | 0, filled => ⟨filled, render (fillNames context filled)⟩
  | budget + 1, filled =>
    match render (fillNames context filled) with
    | .ok out => ⟨filled, .ok out⟩
    | .error trace =>
      match undefinedName? trace with
      | none => ⟨filled, .error trace⟩
      | some name =>
        if filled.contains name then ⟨filled, .error trace⟩
        else fillUndefined render context budget (filled ++ [name])

/-- Renders with undefined names read as empty texts. -/
def renderFilled (render : Context → Except Trace String) (context : Context) : Filling :=
  fillUndefined render context fillLimit []

theorem fillUndefined_length_le (render : Context → Except Trace String) (context : Context)
    (budget : Nat) (filled : List String) :
    (fillUndefined render context budget filled).names.length ≤ filled.length + budget := by
  fun_induction fillUndefined render context budget filled with
  | case1 => simp
  | case2 => simp
  | case3 => simp
  | case4 => simp
  | case5 budget filled trace _ name _ _ ih =>
    simp only [List.length_append, List.length_cons, List.length_nil] at ih
    omega

/-- No more names are filled in than the limit allows. -/
theorem filled_length_le (render : Context → Except Trace String) (context : Context) :
    (renderFilled render context).names.length ≤ fillLimit := by
  simpa [renderFilled] using fillUndefined_length_le render context fillLimit []

theorem fillUndefined_result (render : Context → Except Trace String) (context : Context)
    (budget : Nat) (filled : List String) :
    (fillUndefined render context budget filled).result =
      render (fillNames context (fillUndefined render context budget filled).names) := by
  fun_induction fillUndefined render context budget filled with
  | case1 => rfl
  | case2 _ _ _ h => exact h.symm
  | case3 _ _ _ h => exact h.symm
  | case4 _ _ _ h => exact h.symm
  | case5 _ _ _ _ _ _ _ ih => exact ih

/-- The answer is the renderer's own for the context with the names filled in. -/
theorem result_eq (render : Context → Except Trace String) (context : Context) :
    (renderFilled render context).result =
      render (fillNames context (renderFilled render context).names) :=
  fillUndefined_result render context fillLimit []

end Scaffold.Expansion
