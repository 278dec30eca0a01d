import Scaffold.Source.Bundled

/-!
# Spelling texts

The characters of a text that is put together from others, and of the templates that come with the
program in particular. A proof that a text spells some characters finds them, so that what is read
from the text can be computed from a list.
-/

namespace Scaffold

/-- A text consists of some characters. -/
def Spells (text : String) (cs : List Char) : Prop := text.toList = cs

namespace Spells

variable {s t : String} {cs ds : List Char}

theorem literal (cs : List Char) : Spells (String.ofList cs) cs := String.toList_ofList

theorem append (hs : Spells s cs) (ht : Spells t ds) : Spells (s ++ t) (cs ++ ds) := by
  rw [Spells, String.toList_append, hs, ht]

/-! ## Templates -/

theorem tag (hs : Spells s cs) :
    Spells (Source.Bundled.tag s) ('{' :: '%' :: (cs ++ ['%', '}'])) :=
  append (append (literal ['{', '%']) hs) (literal ['%', '}'])

theorem shown (hs : Spells s cs) :
    Spells (Source.Bundled.shown s) ('{' :: '{' :: ' ' :: (cs ++ [' ', '}', '}'])) :=
  append (append (literal ['{', '{', ' ']) hs) (literal [' ', '}', '}'])

theorem text_nil : Spells (Source.Bundled.text []) [] := by
  simp [Spells, Source.Bundled.text]

theorem text_cons {lines : List String} (hs : Spells s cs)
    (hlines : Spells (Source.Bundled.text lines) ds) :
    Spells (Source.Bundled.text (s :: lines)) (cs ++ '\n' :: ds) := by
  have htext : Source.Bundled.text (s :: lines) = s ++ "\n" ++ Source.Bundled.text lines := by
    simp [Source.Bundled.text, String.join_cons]
  have hspells := append (append hs (literal ['\n'])) hlines
  rw [List.append_assoc] at hspells
  rw [htext]
  exact hspells

end Spells

end Scaffold
