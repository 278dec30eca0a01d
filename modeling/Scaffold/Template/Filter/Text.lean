import Scaffold.Template.Filter.Basic
import Scaffold.Text.Blank
import Scaffold.Text.Pattern.Basic
import Scaffold.Text.Words
import Scaffold.Text.Property.Extending
import Scaffold.Text.Letter

/-!
# Filters on texts

Case, white space, parts of a text and ways to make it safe for other formats. In slugs letters of
the Latin script are kept as far as they have plain ones; those of other scripts become hyphens.
-/

namespace Scaffold.Template.Filter

open Scaffold.Text

/-- A string made by a function on its characters. -/
def onChars (f : List Char → List Char) (s : String) : String := String.ofList (f s.toList)

/-! ## Case -/

/-- The first character in upper case, the others in lower case. -/
def capitalized : List Char → String
  | [] => ""
  | c :: cs => String.ofList (upperOf c) ++ toLowercase (String.ofList cs)

/-- The longest part of a run of word characters and apostrophes that ends at a word boundary;
`run` is given last character first, with what follows it. -/
def cutAtBoundary (after : Option Char) : (run : List Char) → List Char
  | [] => []
  | c :: run => if Pattern.isWordEdge (some c) after then c :: run else cutAtBoundary (some c) run

/-- Capitalises every word, `before` being the character in front and `skip` how many characters
belong to a word already written. -/
def titleFrom (before : Option Char) : (skip : Nat) → List Char → List Char
  | _, [] => []
  | skip + 1, c :: cs => titleFrom (some c) skip cs
  | 0, c :: cs =>
    let inWord (d : Char) : Bool := Pattern.isWordChar d || d == '\''
    if inWord c && Pattern.isWordEdge before (some c) then
      let run := (c :: cs).takeWhile inWord
      let word := (cutAtBoundary ((c :: cs).dropWhile inWord).head? run.reverse).reverse
      if word.isEmpty then c :: titleFrom (some c) 0 cs
      else (capitalized word).toList ++ titleFrom (some c) (word.length - 1) cs
    else c :: titleFrom (some c) 0 cs

/-- Capitalises every word. -/
def title (s : String) : String := onChars (titleFrom none 0) s

/-- A filter that rewrites the words of a text in a convention. -/
def ofConvention (filter : String) (f : String → String) : Filter := fun v _ =>
  match v with
  | .string s => .ok (.string (f s))
  | _ => .error (.own s!"{filter} filter expects a string")

/-! ## The ends of a text -/

/-- Drops a pattern at the start as often as it is there; `most` bounds how often. -/
def dropPattern (pat : List Char) : (most : Nat) → List Char → List Char
  | 0, cs => cs
  | most + 1, cs =>
    if pat.isEmpty then cs
    else match stripStart? pat cs with
      | some rest => dropPattern pat most rest
      | none => cs

/-- Drops a pattern at the start of a text. -/
def trimPatternStart (pat cs : List Char) : List Char := dropPattern pat cs.length cs

/-- Drops a pattern at the end of a text. -/
def trimPatternEnd (pat cs : List Char) : List Char :=
  (dropPattern pat.reverse cs.length cs.reverse).reverse

/-- A filter with a pattern as its argument. -/
def withPattern (filter : String) (f : (pat cs : List Char) → List Char) : Filter :=
  fun v args => do
    let s ← textInput filter v
    let pat ← textArg? filter "pat" args
    let pat ← required (.filterMissing filter "pat") pat
    pure (.string (onChars (f (unescaped pat).toList) s))

/-! ## Parts of a text -/

/-- Whether a character goes on with the character as it is seen that the ones before it make up:
line feed after carriage return, combining characters, whatever a joiner joins, and every second
regional letter. `regional` tells whether an odd number of regional letters stands right before. -/
def joinsPrevious (regional : Bool) (before c : Char) : Bool :=
  (before == '\r' && c == '\n') || inSpans extendingSpans c.toNat || c.toNat == 0x200D ||
    (before.toNat == 0x200D && c.toNat > 0x2000) ||
    (regional && 0x1F1E6 ≤ c.toNat && c.toNat ≤ 0x1F1FF)

/-- The characters as they are seen, each with the code points it is made of. -/
def visibleFrom (before : Option Char) (regional : Bool) : List Char → List (List Char)
  | [] => []
  | c :: cs =>
    let joins := match before with
      | none => false
      | some b => joinsPrevious regional b c
    let isRegional := 0x1F1E6 ≤ c.toNat && c.toNat ≤ 0x1F1FF
    let rest := visibleFrom (some c) (isRegional && !(joins && regional)) cs
    if joins then extendHead c rest else [] :: extendHead c rest

/-- The characters as they are seen. A piece that holds nothing is what comes before the first. -/
def visibleChars (cs : List Char) : List (List Char) :=
  (visibleFrom none false cs).filter (!·.isEmpty)

/-- The words between white space. -/
def blankSeparated (cs : List Char) : List (List Char) :=
  (cs.foldr (fun c acc => if isBlank c then [] :: acc else extendHead c acc) [[]]).filter
    (!·.isEmpty)

/-- The lines of a text, without their line ends; an empty last line does not count. -/
def lines (s : String) : List String :=
  let ls := pieces ['\n'] s.toList
  let ls := if ls.getLast? = some [] then ls.dropLast else ls
  let complete := if endsWith ['\n'] s.toList then ls.length else ls.length - 1
  (ls.zipIdx).map fun (l, i) =>
    String.ofList (if i < complete then (stripEnd? ['\r'] l).getD l else l)

/-- Shortens a text that has more characters than allowed, and marks the cut. -/
def truncate : Filter := fun v args => do
  let s ← textInput "truncate" v
  let length ← arg? "truncate" "length" "usize" natural? args
  let mark ← textArg? "truncate" "end" args
  let chars := visibleChars s.toList
  let length := length.getD 255
  if length ≥ chars.length then pure (.string s)
  else pure (.string (String.ofList (chars.take length).flatten ++ mark.getD "…"))

/-- The number of words. -/
def wordcount : Filter := fun v _ => do
  let s ← textInput "wordcount" v
  pure (.number (.int (blankSeparated s.toList).length))

/-- Replaces all occurrences of a text. -/
def replace : Filter := fun v args => do
  let s ← textInput "replace" v
  let old ← textArg? "replace" "from" args
  let old ← required (.filterMissing "replace" "from") old
  let new ← textArg? "replace" "to" args
  let new ← required (.filterMissing "replace" "to") new
  pure (.string (replaceAll old new s))

/-- Cuts a text at a pattern. -/
def split : Filter := fun v args => do
  let s ← textInput "split" v
  let pat ← textArg? "split" "pat" args
  let pat ← required (.filterMissing "split" "pat") pat
  pure (.array ((Text.split (unescaped pat) s).map .string))

/-- Indents the lines of a text. -/
def indent : Filter := fun v args => do
  let s ← textInput "indent" v
  let pad ← textArg? "indent" "prefix" args
  let first ← flagArg "indent" "first" args
  let blank ← flagArg "indent" "blank" args
  let pad := pad.getD "    "
  let padded (l : String) : String := if blank || !allBlank l then pad ++ l else l
  pure (.string (match lines s with
    | [] => ""
    | l :: ls => "\n".intercalate ((if first then pad ++ l else l) :: ls.map padded)))

/-! ## Other formats -/

/-- Drops comments and tags of markup. Comments must close on the same line. -/
def stripTags : (skip : Nat) → List Char → List Char
  | _, [] => []
  | skip + 1, _ :: cs => stripTags skip cs
  | 0, c :: cs =>
    if c = '<' then
      let comment := match stripStart? "!--".toList cs with
        | some rest =>
          match cutFirst? "-->".toList rest with
          | some (body, _) => if body.contains '\n' then none else some (body.length + 6)
          | none => none
        | none => none
      match comment, cutFirst? ['>'] cs with
      | some n, _ => stripTags n cs
      | none, some (body, _) => stripTags (body.length + 1) cs
      | none, none => c :: stripTags 0 cs
    else c :: stripTags 0 cs

/-- Drops white space between tags of markup. -/
def spaceless : (skip : Nat) → List Char → List Char
  | _, [] => []
  | skip + 1, _ :: cs => spaceless skip cs
  | 0, c :: cs =>
    let blank := cs.takeWhile isBlank
    if c = '>' ∧ blank ≠ [] ∧ (cs.dropWhile isBlank).head? = some '<' then
      '>' :: spaceless blank.length cs
    else c :: spaceless 0 cs

/-- Replaces characters by texts. -/
def substitute (table : List (Char × String)) (s : String) : String :=
  onChars (fun cs => cs.flatMap fun c => match table.lookup c with
    | some t => t.toList
    | none => [c]) s

/-- A text for markup, quotes and slashes included. -/
def escapeMarkup (s : String) : String :=
  substitute [('&', "&amp;"), ('<', "&lt;"), ('>', "&gt;"), ('"', "&quot;"), ('\'', "&#x27;"),
    ('/', "&#x2F;")] s

/-- A text for a strict kind of markup. -/
def escapeXml (s : String) : String :=
  substitute [('&', "&amp;"), ('<', "&lt;"), ('>', "&gt;"), ('"', "&quot;"), ('\'', "&apos;")] s

/-- Backslashes before quotes and backslashes. -/
def addSlashes (s : String) : String :=
  substitute [('\\', "\\\\"), ('"', "\\\""), ('\'', "\\'")] s

/-- A byte in percent notation. -/
def percent (b : UInt8) : List Char :=
  let digit (n : Nat) : Char := (Nat.digitChar n).toUpper
  ['%', digit (b.toNat / 16), digit (b.toNat % 16)]

/-- Writes the bytes of a text in percent notation, all but those of `kept` characters. -/
def percentEncode (kept : Char → Bool) (s : String) : String :=
  onChars (fun cs => cs.flatMap fun c =>
    if c.toNat < 128 && kept c then [c]
    else (String.ofList [c]).toUTF8.toList.flatMap percent) s

/-- Characters that stand for themselves in addresses. -/
def isAddressChar (c : Char) : Bool :=
  c.isAlphanum || "-_.~/%".toList.contains c

/-- The small letters and digits that stand for a character, or a hyphen if there are none. -/
def slugChars (c : Char) : List Char :=
  if c.isAlphanum then [c.toLower]
  else ((plainLetters? c).getD "-").toList

/-- Small letters and digits of a text, with hyphens for what is between them. -/
def slug (s : String) : String :=
  let pieces := pieces ['-'] (s.toList.flatMap slugChars)
  joinWords ['-'] (pieces.filter (!·.isEmpty))

/-- The filter on texts of a name. -/
def findText? (name : String) : Option Filter :=
  match name with
  | "upper" => some (ofText name toUppercase)
  | "lower" => some (ofText name toLowercase)
  | "capitalize" => some (ofText name fun s => capitalized s.toList)
  | "title" => some (ofText name title)
  | "snake_case" => some (ofConvention name snakeCase)
  | "pascal_case" => some (ofConvention name pascalCase)
  | "camel_case" => some (ofConvention name camelCase)
  | "kebab_case" => some (ofConvention name kebabCase)
  | "shouty_snake_case" => some (ofConvention name shoutySnakeCase)
  | "trim" => some (ofText name trimmed)
  | "trim_start" => some (ofText name (onChars trimStart))
  | "trim_end" => some (ofText name (onChars trimEnd))
  | "trim_start_matches" => some (withPattern name trimPatternStart)
  | "trim_end_matches" => some (withPattern name trimPatternEnd)
  | "truncate" => some truncate
  | "wordcount" => some wordcount
  | "replace" => some replace
  | "split" => some split
  | "indent" => some indent
  | "linebreaksbr" =>
    some (ofText name fun s => replaceAll "\n" "<br>" (replaceAll "\r\n" "<br>" s))
  | "striptags" => some (ofText name (onChars (stripTags 0)))
  | "spaceless" => some (ofText name (onChars (spaceless 0)))
  | "escape" | "escape_html" => some (ofText "escape_html" escapeMarkup)
  | "escape_xml" => some (ofText name escapeXml)
  | "addslashes" => some (ofText name addSlashes)
  | "urlencode" => some (ofText name (percentEncode isAddressChar))
  | "urlencode_strict" => some (ofText name (percentEncode Char.isAlphanum))
  | "slugify" => some (ofText name slug)
  | _ => none

end Scaffold.Template.Filter
