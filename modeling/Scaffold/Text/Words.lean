import Scaffold.Text.Letter

/-!
# Words and naming conventions

Identifiers are cut into words, and the words joined again in one of the usual conventions. A word
is a run of alphanumeric characters; inside a run a new word starts at a capital after a small
letter, and at the last of several capitals if a small letter follows.
-/

namespace Scaffold.Text

/-! ## Cutting into words -/

/-- The case of the letters read last in a word. -/
inductive CaseRun where
  /-- No letter with a case yet. -/
  | unknown
  | small
  | capital
  deriving Repr, DecidableEq

/-- The run after one more character; a character without case keeps it. -/
def CaseRun.next (run : CaseRun) (c : Char) : CaseRun :=
  if isLowercase c then .small else if isUppercase c then .capital else run

/-- Starts a new word: the characters of the current one, then the words that follow. -/
def startWord (words : List (List Char)) : List (List Char) := [] :: words

/-- Adds a character in front of the first word. -/
def consWord (c : Char) : List (List Char) → List (List Char)
  | [] => [[c]]
  | w :: ws => (c :: w) :: ws

/-- The words of a run of alphanumeric characters. The first one continues a word whose letters so
far make up `run`; it is empty if that word ends here. -/
def wordsFrom (run : CaseRun) : List Char → List (List Char)
  | [] => [[]]
  | [c] => [[c]]
  | c :: d :: rest =>
    if run.next c = .small ∧ isUppercase d then
      consWord c (startWord (wordsFrom .unknown (d :: rest)))
    else if run = .capital ∧ isUppercase c ∧ isLowercase d then
      startWord (consWord c (wordsFrom .unknown (d :: rest)))
    else consWord c (wordsFrom (run.next c) (d :: rest))

/-- The words of a run of alphanumeric characters. -/
def wordsOf (cs : List Char) : List (List Char) := wordsFrom .unknown cs

/-- The maximal runs of alphanumeric characters, with empty runs where separators meet. -/
def alphanumericRuns : List Char → List (List Char)
  | [] => [[]]
  | c :: cs => if isAlphanumeric c then consWord c (alphanumericRuns cs)
      else startWord (alphanumericRuns cs)

/-- The words of a text. -/
def words (s : String) : List (List Char) :=
  (alphanumericRuns s.toList).flatMap fun run => (wordsOf run).filter (!·.isEmpty)

/-! ## Writing words -/

/-- A word in small letters; a sigma at its end becomes a final sigma. -/
def lowerWord : List Char → List Char
  | [] => []
  | [c] => if c = capitalSigma then [finalSigma] else lowerOf c
  | c :: cs => lowerOf c ++ lowerWord cs

/-- A word in capitals. -/
def upperWord (w : List Char) : List Char := w.flatMap upperOf

/-- A word with its first letter in capitals and the others small. -/
def capitalizedWord : List Char → List Char
  | [] => []
  | c :: cs => upperOf c ++ lowerWord cs

/-! ## Conventions -/

/-- Words joined by a separator. -/
def joinWords (sep : List Char) (ws : List (List Char)) : String :=
  String.ofList (sep.intercalate ws)

/-- Small letters, words joined by underscores. -/
def snakeCase (s : String) : String := joinWords ['_'] ((words s).map lowerWord)

/-- Small letters, words joined by hyphens. -/
def kebabCase (s : String) : String := joinWords ['-'] ((words s).map lowerWord)

/-- Capitals, words joined by underscores. -/
def shoutySnakeCase (s : String) : String := joinWords ['_'] ((words s).map upperWord)

/-- Every word capitalised. -/
def pascalCase (s : String) : String := joinWords [] ((words s).map capitalizedWord)

/-- The first word small, the others capitalised. -/
def camelCase (s : String) : String :=
  match words s with
  | [] => ""
  | w :: ws => joinWords [] (lowerWord w :: ws.map capitalizedWord)

end Scaffold.Text
