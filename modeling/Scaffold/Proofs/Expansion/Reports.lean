import Scaffold.Expansion.Undefined
import Scaffold.Proofs.Text.Finding
import Scaffold.Template.Render

/-!
# What messages report

A missing name is looked for in the messages of a failed render: between the first marker and the
mark that closes it. The key notion is `reported?`, what some characters report, if they have a
marker at all. Main facts:

* `undefinedName?_eq` : a failure reports what the first of its messages with a marker does;
* `isPlainName_of_undefinedName?` : a name that a failure reports is plain;
* `reported?_append_quote` : a report does not reach over a quote;
* `reported?_headline` : a headline reports what the name of its page does, if that has a marker;
* `reported?_marker` : a name behind the marker is reported.
-/

namespace Scaffold.Expansion

open Template

/-! ## Reports -/

/-- The name that characters begin with, up to the mark that closes a report. -/
def namedFirst? (cs : List Char) : Option String :=
  match Text.cutFirst? [closing] cs with
  | none => none
  | some (name, _) => if isPlainName name then some (String.ofList name) else none

/-- What characters report at the first marker among them, which need not be followed by a name. -/
def reported? (cs : List Char) : Option (Option String) :=
  (Text.cutFirst? marker cs).map fun (_, rest) => namedFirst? rest

/-- **A failure reports what the first of its messages with a marker does.** -/
theorem undefinedName?_eq (trace : Trace) :
    undefinedName? trace = (trace.findSome? fun message => reported? message.toList).join := by
  induction trace with
  | nil => rfl
  | cons message causes ih =>
    rw [undefinedName?] at ih ⊢
    rw [afterMarker?, List.findSome?_cons, reported?]
    cases Text.cutFirst? marker message.toList with
    | some r => rfl
    | none => exact ih

theorem reported?_eq_none_iff {cs : List Char} : reported? cs = none ↔ ¬ marker <:+: cs := by
  rw [reported?, Option.map_eq_none_iff, Text.cutFirst?_eq_none_iff]

/-- A name that is reported is plain. -/
theorem isPlainName_of_reported? {cs : List Char} {x : String} (h : reported? cs = some (some x)) :
    isPlainName x.toList = true := by
  obtain ⟨⟨before, rest⟩, -, hname⟩ := Option.map_eq_some_iff.1 h
  dsimp only at hname
  unfold namedFirst? at hname
  split at hname
  · cases hname
  · split at hname
    · rename_i hplain
      cases hname
      rwa [String.toList_ofList]
    · cases hname

/-- So is one that a failure reports. -/
theorem isPlainName_of_undefinedName? {trace : Trace} {name : String}
    (h : undefinedName? trace = some name) : isPlainName name.toList = true := by
  rw [undefinedName?_eq, Option.join_eq_some_iff] at h
  obtain ⟨message, -, hmessage⟩ := List.exists_of_findSome?_eq_some h
  exact isPlainName_of_reported? hmessage

/-- Names have no characters other than letters, digits and underscores. -/
theorem not_mem_of_isPlainName {cs : List Char} (h : isPlainName cs = true) {c : Char}
    (hc : (Text.isAlphanumeric c || c == '_') = false) : c ∉ cs := by
  intro hmem
  rw [isPlainName, Bool.and_eq_true, List.all_eq_true] at h
  have hplain := h.2 c hmem
  rw [hc] at hplain
  cases hplain

/-- No name goes on over a quote. -/
theorem namedFirst?_append_quote (as ds : List Char) :
    namedFirst? (as ++ '\'' :: ds) = namedFirst? as := by
  rw [namedFirst?, namedFirst?, Text.cutFirst?_append_cons (by decide)]
  cases Text.cutFirst? [closing] as with
  | some r => rfl
  | none =>
    cases Text.cutFirst? [closing] ds with
    | none => rfl
    | some r =>
      -- the mark behind the quote closes something that is no name
      obtain ⟨name, rest⟩ := r
      have hplain : ¬ isPlainName (as ++ '\'' :: name) = true := fun h =>
        not_mem_of_isPlainName h (by decide) (List.mem_append_right as (.head name))
      dsimp only [Option.map_none, Option.map_some, Option.none_or]
      rw [if_neg hplain]

/-- **Around a quote**, what is reported is reported in front of it or else behind it. -/
theorem reported?_append_quote (as ds : List Char) :
    reported? (as ++ '\'' :: ds) = (reported? as).or (reported? ds) := by
  rw [reported?, reported?, reported?, Text.cutFirst?_append_cons (by decide)]
  cases Text.cutFirst? marker as with
  | some r =>
    dsimp only [Option.map_some, Option.some_or]
    rw [namedFirst?_append_quote]
  | none => cases Text.cutFirst? marker ds <;> rfl

/-- **A name behind the marker** is reported. -/
theorem reported?_marker {x : String} (hx : isPlainName x.toList = true) (rest : List Char) :
    reported? (marker ++ (x.toList ++ closing :: rest)) = some (some x) := by
  have hclosing : closing ∉ x.toList := not_mem_of_isPlainName hx (by decide)
  have hnamed : namedFirst? (x.toList ++ closing :: rest) = some x := by
    unfold namedFirst?
    rw [Text.cutFirst?_of_not_mem hclosing]
    dsimp only
    rw [if_pos hx, String.ofList_toList]
  rw [reported?, Text.cutFirst?_append_self, Option.map_some]
  dsimp only
  rw [hnamed]

/-! ## Messages -/

/-- The words behind the name of the page in a headline. -/
def wordsBehind : Option (String × String) → List Char
  | none => []
  | some (space, name) =>
    ": error while rendering macro `".toList ++
      (space.toList ++ ("::".toList ++ (name.toList ++ "`".toList)))

/-- The headline of a page shows its name in quotes. -/
theorem toList_headline (page : String) (site : Option (String × String)) :
    (headline page site).toList =
      "Failed to render ".toList ++ '\'' :: (page.toList ++ '\'' :: wordsBehind site) := by
  have hfront : "Failed to render '".toList = "Failed to render ".toList ++ ['\''] := by
    decide +kernel
  cases site with
  | none =>
    show ("Failed to render '" ++ page ++ "'").toList = _
    rw [String.toList_append, String.toList_append, hfront, List.append_assoc, List.append_assoc]
    rfl
  | some macroName =>
    obtain ⟨space, name⟩ := macroName
    have hmacro : "': error while rendering macro `".toList =
        '\'' :: ": error while rendering macro `".toList := by decide +kernel
    show ("Failed to render '" ++ page ++ "': error while rendering macro `" ++ space ++ "::" ++
      name ++ "`").toList = _
    simp only [String.toList_append, hfront, hmacro, List.append_assoc, List.cons_append]
    rfl

/-- **A headline reports what the name of its page does**, unless that reports nothing. -/
theorem reported?_headline (page : String) (site : Option (String × String)) :
    reported? (headline page site).toList =
      (reported? page.toList).or (reported? (wordsBehind site)) := by
  have hfront : reported? "Failed to render ".toList = none := by decide
  rw [toList_headline, reported?_append_quote, reported?_append_quote, hfront, Option.none_or]

/-- The words in front of the name of the page in the message of a failed look-up. -/
def wordsBefore (path : String) : List Char :=
  marker ++ (path.toList ++ closing :: " not found in context while rendering ".toList)

theorem toList_notFound : "` not found in context while rendering '".toList =
    closing :: " not found in context while rendering ".toList ++ ['\''] := by
  decide +kernel

/-- A failed look-up of a name shows the name of its page in quotes. -/
theorem toList_message_name (path page : String) :
    (Unresolved.name path page).message.toList =
      wordsBefore path ++ '\'' :: (page.toList ++ ['\'']) := by
  show ("Variable `" ++ path ++ "` not found in context while rendering '" ++ page ++
    "'").toList = _
  simp only [String.toList_append, toList_notFound, wordsBefore, List.append_assoc,
    List.singleton_append]
  rfl

/-- So does one of an element, and goes on. -/
theorem exists_message_element (path evaluated : String) : ∃ rest : List Char, ∀ page : String,
    (Unresolved.element path page evaluated).message.toList =
      wordsBefore path ++ '\'' :: (page.toList ++ '\'' :: rest) := by
  have hcolon : "': ".toList = '\'' :: [':', ' '] := by decide
  refine ⟨':' :: ' ' :: ("the evaluated version was `".toList ++
    (evaluated.toList ++ "`. Maybe the index is out of bounds?".toList)), fun page => ?_⟩
  show (("Variable `" ++ path ++ "` not found in context while rendering '" ++ page ++ "': ") ++
    ("the evaluated version was `" ++ evaluated ++
      "`. Maybe the index is out of bounds?")).toList = _
  simp only [String.toList_append, toList_notFound, hcolon, wordsBefore, List.append_assoc,
    List.cons_append, List.nil_append]
  rfl

/-- What is reported in front of the name of a page does not depend on it. -/
theorem reported?_wordsBefore (before : List Char) (path : String) (ds ds' : List Char) :
    reported? (before ++ (wordsBefore path ++ '\'' :: ds)) =
      reported? (before ++ (wordsBefore path ++ '\'' :: ds')) := by
  have hmarker : marker <:+: before ++ wordsBefore path :=
    ⟨before, _, List.append_assoc before marker _⟩
  rw [← List.append_assoc, ← List.append_assoc, reported?_append_quote, reported?_append_quote]
  cases hreport : reported? (before ++ wordsBefore path) with
  | none => exact absurd hmarker (reported?_eq_none_iff.1 hreport)
  | some report => rfl

end Scaffold.Expansion
