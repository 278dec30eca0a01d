import Scaffold.Disk.Basic

/-!
# The console

What is not written to files is echoed to a console, each text in a frame of two lines that show its
name. A console may take a limited number of bytes: it takes as many as it can and then fails.
`Console.writeBytes_append` says that writing in turn is writing as one.
-/

namespace Scaffold

/-- What has been written to a console, and how many bytes it still takes if it is limited. -/
structure Console where
  written : List UInt8
  room : Option Nat
  deriving Repr, DecidableEq

namespace Console

/-- A console without limit. -/
def unlimited : Console := ⟨[], none⟩

/-- A console that takes so many bytes. -/
def limited (bytes : Nat) : Console := ⟨[], some bytes⟩

/-- Writes bytes. Tells whether the console could take them all. -/
def writeBytes (console : Console) (bytes : List UInt8) : Console × Bool :=
  match console.room with
  | none => (⟨console.written ++ bytes, none⟩, true)
  | some room =>
    (⟨console.written ++ bytes.take room, some (room - bytes.length)⟩, bytes.length ≤ room)

/-- Writes a text. -/
def write (console : Console) (text : String) : Console × Bool :=
  console.writeBytes text.toUTF8.toList

/-- The lines around an echoed text, and the text made to end its last line. -/
def frame (name contents : String) : String :=
  let ending := if contents = "" ∨ contents.toList.getLast? = some '\n' then "" else "\n"
  ">>>>>>> " ++ name ++ "\n" ++ contents ++ ending ++ "<<<<<<< " ++ name ++ "\n"

/-- Bytes written in turn are the bytes written as one, as long as the console takes the first. -/
theorem writeBytes_append (console : Console) (as bs : List UInt8)
    (h : (console.writeBytes as).2 = true) :
    console.writeBytes (as ++ bs) = (console.writeBytes as).1.writeBytes bs := by
  obtain ⟨written, room⟩ := console
  cases room with
  | none => simp [writeBytes]
  | some room =>
    simp only [writeBytes, decide_eq_true_eq] at h
    simp only [writeBytes, List.length_append, List.append_assoc, Prod.mk.injEq, mk.injEq,
      Option.some.injEq, decide_eq_decide]
    refine ⟨⟨?_, by omega⟩, by omega⟩
    rw [List.take_append, List.take_of_length_le h]

end Console

end Scaffold
