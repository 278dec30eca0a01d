import Scaffold.Template.Functions
import Scaffold.Text.Property.Extending
import Scaffold.Text.Property.Unprintable

/-!
# Registries of functions

A registry holds functions by name in the order of first registration. Registering a name again
replaces its function in place: `Registry.find?_register` says what is found afterwards, and
`Registry.names_register` that the order of the names stays.
-/

namespace Scaffold

open Template

/-- Functions that templates may call, by name. -/
structure Registry where
  entries : List (String × Function)

namespace Registry

/-- No function. -/
def empty : Registry := ⟨[]⟩

/-- Puts a function under its name, in place of an earlier one. -/
def putFunction (name : String) (function : Function) :
    List (String × Function) → List (String × Function)
  | [] => [(name, function)]
  | (n, f) :: rest =>
    if n = name then (n, function) :: rest else (n, f) :: putFunction name function rest

/-- The function of a name in a list of entries. -/
def findFunction (name : String) : List (String × Function) → Option Function
  | [] => none
  | (n, f) :: rest => if n = name then some f else findFunction name rest

/-- Adds a function, in place of an earlier one of the same name. -/
def register (registry : Registry) (name : String) (function : Function) : Registry :=
  ⟨putFunction name function registry.entries⟩

/-- The function of a name. -/
def find? (registry : Registry) (name : String) : Option Function :=
  findFunction name registry.entries

/-- The names in the order of first registration. -/
def names (registry : Registry) : List String := registry.entries.map (·.1)

/-- Whether a name is registered. -/
def contains (registry : Registry) (name : String) : Bool := registry.names.contains name

/-- The registry of some functions, registered one after another. -/
def ofList (entries : List (String × Function)) : Registry :=
  entries.foldl (fun registry (name, function) => registry.register name function) empty

@[simp] theorem names_empty : empty.names = [] := rfl

@[simp] theorem find?_empty (name : String) : empty.find? name = none := rfl

theorem findFunction_putFunction (name other : String) (function : Function)
    (entries : List (String × Function)) :
    findFunction other (putFunction name function entries) =
      if name = other then some function else findFunction other entries := by
  induction entries with
  | nil => rfl
  | cons e rest ih =>
    obtain ⟨n, f⟩ := e
    by_cases hn : n = name
    · subst hn
      by_cases ho : n = other <;> simp [putFunction, findFunction, ho]
    · by_cases ho : n = other
      · subst ho
        simp [putFunction, findFunction, hn, Ne.symm hn]
      · simp [putFunction, findFunction, hn, ho, ih]

theorem find?_register (registry : Registry) (name other : String) (function : Function) :
    (registry.register name function).find? other =
      if name = other then some function else registry.find? other :=
  findFunction_putFunction name other function registry.entries

theorem names_putFunction (name : String) (function : Function)
    (entries : List (String × Function)) :
    (putFunction name function entries).map (·.1) =
      if name ∈ entries.map (·.1) then entries.map (·.1) else entries.map (·.1) ++ [name] := by
  induction entries with
  | nil => simp [putFunction]
  | cons e rest ih =>
    obtain ⟨n, f⟩ := e
    by_cases hn : n = name
    · simp [putFunction, hn]
    · have hn' : name ≠ n := Ne.symm hn
      simp only [putFunction, hn, if_false, List.map_cons, ih, List.mem_cons, hn', false_or]
      split <;> simp_all

theorem names_register (registry : Registry) (name : String) (function : Function) :
    (registry.register name function).names =
      if name ∈ registry.names then registry.names else registry.names ++ [name] :=
  names_putFunction name function registry.entries

/-! ## Showing a registry -/

/-- Whether a character is shown by its code point: one that leaves no mark or only one on the
character before it. -/
def isShownByPoint (c : Char) : Bool :=
  if c.toNat < 128 then c.toNat < 32 || c.toNat == 127
  else Text.inSpans Text.unprintableSpans c.toNat || Text.inSpans Text.extendingSpans c.toNat

/-- A character of a shown name. -/
def shownChar (c : Char) : List Char :=
  if c = '"' then ['\\', '"']
  else if c = '\\' then ['\\', '\\']
  else if c = '\n' then ['\\', 'n']
  else if c = '\r' then ['\\', 'r']
  else if c = '\t' then ['\\', 't']
  else if c.toNat = 0 then ['\\', '0']
  else if isShownByPoint c then ['\\', 'u', '\x7b'] ++ Nat.toDigits 16 c.toNat ++ ['\x7d']
  else [c]

/-- A name in quotes. -/
def shownName (name : String) : String :=
  String.ofList ('"' :: name.toList.flatMap shownChar ++ ['"'])

/-- The names of a registry as a list of quoted texts. -/
def shown (registry : Registry) : String :=
  "[" ++ ", ".intercalate (registry.names.map shownName) ++ "]"

end Registry

end Scaffold
