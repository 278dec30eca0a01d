import Mathlib.Data.List.TakeWhile
import Scaffold.Library.Catalog
import Scaffold.Proofs.Text.Finding

/-!
# Lists read back from their text

A list of texts can be printed and read again as long as each of its texts can stand between
separators (`IsItem`) and there is something between any two of them (`IsGap`). Main facts:

* `runsFrom_intercalate` : the runs between the separators are the texts that were put together;
* `unpack_of_trim` : a token is read by what is left of it without the white space around it;
* `headerPart_names_congr`, `joinTexts_items_congr` : a list argument counts only by its texts;
* `unpack_round_trip` : a list is read back from its text, a function of the library takes either of
  them, and any other text is read as itself.
-/

namespace Scaffold.Library

open Template

/-! ## Texts in a list -/

/-- A text that can stand in the text of a list: it has a character, and none that separates. -/
structure IsItem (s : String) : Prop where
  ne_empty : s ≠ ""
  plain : ∀ c ∈ s.toList, Text.isBlank c = false ∧ c ≠ ','

/-- What can stand between two texts of a list: white space and commas, but not nothing. -/
structure IsGap (s : String) : Prop where
  ne_empty : s ≠ ""
  separates : ∀ c ∈ s.toList, Text.isBlank c = true ∨ c = ','

theorem IsItem.isSeparator {s : String} (h : IsItem s) :
    ∀ c ∈ s.toList, isSeparator c = false := by
  intro c hc
  obtain ⟨hblank, hcomma⟩ := h.plain c hc
  simp [Library.isSeparator, hblank, hcomma]

theorem IsGap.isSeparator {s : String} (h : IsGap s) : ∀ c ∈ s.toList, isSeparator c = true := by
  intro c hc
  rcases h.separates c hc with hblank | hcomma
  · simp [Library.isSeparator, hblank]
  · simp [Library.isSeparator, hcomma]

/-! ## Runs -/

/-- Characters that do not separate go on with the run. -/
theorem runsFrom_item {item : List Char} (h : ∀ c ∈ item, isSeparator c = false)
    (current rest : List Char) :
    runsFrom current (item ++ rest) = runsFrom (item.reverse ++ current) rest := by
  induction item generalizing current with
  | nil => rfl
  | cons c item ih =>
    have hc : isSeparator c = false := h c (by simp)
    rw [List.cons_append, runsFrom, hc, if_neg Bool.false_ne_true,
      ih fun d hd => h d (by simp [hd])]
    simp

/-- Where no run has begun, separators are passed over. -/
theorem runsFrom_gap {gap : List Char} (h : ∀ c ∈ gap, isSeparator c = true) (rest : List Char) :
    runsFrom [] (gap ++ rest) = runsFrom [] rest := by
  induction gap with
  | nil => rfl
  | cons c gap ih =>
    have hc : isSeparator c = true := h c (by simp)
    rw [List.cons_append, runsFrom, if_pos hc]
    exact ih fun d hd => h d (by simp [hd])

/-- A run ends where the separators begin. -/
theorem runsFrom_run {item gap : List Char} (hitem : ∀ c ∈ item, isSeparator c = false)
    (hne : item ≠ []) (hgap : ∀ c ∈ gap, isSeparator c = true) (hsome : gap ≠ [])
    (rest : List Char) :
    runsFrom [] (item ++ (gap ++ rest)) = item :: runsFrom [] rest := by
  obtain ⟨c, more, rfl⟩ := List.exists_cons_of_ne_nil hsome
  have hc : isSeparator c = true := hgap c (by simp)
  have hmore : runsFrom [] (more ++ rest) = runsFrom [] rest :=
    runsFrom_gap (fun d hd => hgap d (by simp [hd])) rest
  rw [runsFrom_item hitem, List.cons_append, runsFrom, if_pos hc, hmore]
  simp [hne]

/-- The runs of texts with separators between them are the texts. -/
theorem runsFrom_intercalate {gap : List Char} (hgap : ∀ c ∈ gap, isSeparator c = true)
    (hsome : gap ≠ []) (texts : List (List Char))
    (h : ∀ item ∈ texts, item ≠ [] ∧ ∀ c ∈ item, isSeparator c = false) :
    runsFrom [] (gap.intercalate texts) = texts := by
  induction texts with
  | nil => rfl
  | cons item texts ih =>
    obtain ⟨hne, hitem⟩ := h item (by simp)
    have ih := ih fun other hother => h other (by simp [hother])
    cases texts with
    | nil =>
      -- the last text ends with the list, and no separator follows it
      have hlast := runsFrom_item hitem [] []
      simpa [runsFrom, hne] using hlast
    | cons next texts =>
      rw [List.intercalate_cons_cons, List.append_assoc, runsFrom_run hitem hne hgap hsome, ih]

/-- The items of texts with separators between them are the texts. -/
theorem items_intercalate {gap : String} (hgap : IsGap gap) {texts : List String}
    (htexts : ∀ s ∈ texts, IsItem s) : items (gap.intercalate texts).toList = texts := by
  have hruns : runsFrom [] (gap.toList.intercalate (texts.map String.toList)) =
      texts.map String.toList := by
    refine runsFrom_intercalate hgap.isSeparator ?_ _ ?_
    · simpa using hgap.ne_empty
    · intro item hitem
      obtain ⟨s, hs, rfl⟩ := List.mem_map.1 hitem
      exact ⟨by simpa using (htexts s hs).ne_empty, (htexts s hs).isSeparator⟩
  rw [items, String.toList_intercalate, hruns, List.map_map]
  simp [Function.comp_def]

/-! ## Brackets and the white space around them -/

/-- What stands between brackets is what is left without them. -/
theorem insideBrackets?_eq_some_iff {cs inner : List Char} :
    insideBrackets? cs = some inner ↔ cs = '[' :: (inner ++ [']']) := by
  unfold insideBrackets?
  split
  · rename_i rest
    rw [Text.stripEnd?_eq_some_iff, List.cons.injEq]
    simp
  · rename_i hno
    simp only [reduceCtorEq, false_iff]
    exact fun h => hno _ h

/-- Nothing is left by trimming only of white space. -/
theorem trim_eq_nil_iff {cs : List Char} : Text.trim cs = [] ↔ ∀ c ∈ cs, Text.isBlank c = true := by
  rw [Text.trim, Text.trimEnd, Text.dropEndWhile, List.reverse_eq_nil_iff,
    List.dropWhile_eq_nil_iff]
  constructor
  · intro h
    cases hstart : Text.trimStart cs with
    | nil => exact List.dropWhile_eq_nil_iff.1 hstart
    | cons d rest =>
      -- what trimming leaves at the start is not white space
      have hd : Text.isBlank d = false := by
        have hhead := List.head?_dropWhile_not Text.isBlank cs
        rw [show cs.dropWhile Text.isBlank = d :: rest from hstart] at hhead
        simpa using hhead
      have hblank := h d (by simp [hstart])
      rw [hd] at hblank
      cases hblank
  · intro h c hc
    have hnil : Text.trimStart cs = [] := List.dropWhile_eq_nil_iff.2 h
    simp [hnil] at hc

/-- White space around two brackets is trimmed, and they stop the trimming. -/
theorem trim_brackets {before after : List Char} (hbefore : ∀ c ∈ before, Text.isBlank c = true)
    (hafter : ∀ c ∈ after, Text.isBlank c = true) (inner : List Char) :
    Text.trim (before ++ ('[' :: (inner ++ [']']) ++ after)) = '[' :: (inner ++ [']']) := by
  have hopen : Text.isBlank '[' = false := by decide
  have hclose : Text.isBlank ']' = false := by decide
  rw [Text.trim, Text.trimStart_append_of_blank _ _ hbefore, List.cons_append,
    Text.trimStart_cons _ _ hopen, ← List.cons_append, Text.trimEnd_append_of_blank _ _ hafter,
    ← List.cons_append, Text.trimEnd_concat _ _ hclose]

/-! ## Tokens -/

/-- A token that trimming leaves in brackets is read by what is inside of them. -/
theorem unpack_of_trim {token : String} {inner : List Char}
    (h : Text.trim token.toList = '[' :: (inner ++ [']'])) : unpack token = items inner := by
  have hinside : insideBrackets? ('[' :: (inner ++ [']'])) = some inner :=
    insideBrackets?_eq_some_iff.2 rfl
  simp only [unpack, h, hinside]

/-- A list is read back from its text, whatever separates its items and surrounds it. -/
theorem unpack_listed {texts : List String} (htexts : ∀ s ∈ texts, IsItem s) {gap : String}
    (hgap : IsGap gap) {before after : String}
    (hbefore : ∀ c ∈ before.toList, Text.isBlank c = true)
    (hafter : ∀ c ∈ after.toList, Text.isBlank c = true) :
    unpack (before ++ ("[" ++ gap.intercalate texts ++ "]") ++ after) = texts := by
  have htrim : Text.trim (before ++ ("[" ++ gap.intercalate texts ++ "]") ++ after).toList =
      '[' :: ((gap.intercalate texts).toList ++ [']']) := by
    simpa using trim_brackets hbefore hafter (gap.intercalate texts).toList
  rw [unpack_of_trim htrim, items_intercalate hgap htexts]

/-- A text that is no list is read as what trimming leaves of it. -/
theorem unpack_of_not_enclosed {token : String} (hblank : Text.allBlank token = false)
    (h : ∀ inner, Text.trimmed token ≠ "[" ++ inner ++ "]") :
    unpack token = [Text.trimmed token] := by
  have hne : Text.trim token.toList ≠ [] := by
    intro hnil
    have hall := List.all_eq_true.2 (trim_eq_nil_iff.1 hnil)
    rw [Text.allBlank, hall] at hblank
    cases hblank
  obtain ⟨c, cs, hcs⟩ := List.exists_cons_of_ne_nil hne
  have hinside : insideBrackets? (c :: cs) = none := by
    rw [Option.eq_none_iff_forall_ne_some]
    intro inner hinner
    refine h (String.ofList inner) ?_
    rw [Text.trimmed, hcs, insideBrackets?_eq_some_iff.1 hinner]
    apply String.toList_inj.1
    simp
  simp only [unpack, hcs, hinside, Text.trimmed]

/-! ## List arguments -/

theorem isGap_comma : IsGap ", " where
  ne_empty := by decide
  separates := by decide

/-- A list argument and its text are the same texts. -/
theorem textList_printed {texts : List String} (htexts : ∀ s ∈ texts, IsItem s)
    (function : String) :
    textList function (.string (Value.array (texts.map .string)).text) =
      textList function (.array (texts.map .string)) := by
  have hprinted : (Value.array (texts.map .string)).text =
      "[" ++ ", ".intercalate texts ++ "]" := by
    simp [Value.text, Value.texts_eq_map, Function.comp_def]
  have hunpack : unpack ("" ++ ("[" ++ ", ".intercalate texts ++ "]") ++ "") = texts :=
    unpack_listed htexts isGap_comma (by simp) (by simp)
  rw [String.empty_append, String.append_empty] at hunpack
  simp only [textList, hprinted, hunpack, textsOf?_map]

section Argument

variable {key name : String} {function : String} {v w : Value} {args : Args} {chance : Chance}

/-- A text argument does not change with another argument. -/
theorem optionalText_insertEntry (h : key ≠ name) :
    optionalText function (insertEntry key v args) name = optionalText function args name := by
  rw [optionalText, lookupEntry_insertEntry_of_ne v args h, optionalText]

theorem textOrEmpty_insertEntry (h : key ≠ name) :
    textOrEmpty function (insertEntry key v args) name = textOrEmpty function args name := by
  rw [textOrEmpty, optionalText_insertEntry h, textOrEmpty]

theorem requiredText_insertEntry (h : key ≠ name) :
    requiredText function (insertEntry key v args) name = requiredText function args name := by
  rw [requiredText, optionalText_insertEntry h, requiredText]

/-- The items that are joined count only by their texts. -/
theorem joinTexts_items_congr (h : textList "qJoin" v = textList "qJoin" w) :
    joinTexts chance (insertEntry "items" v args) =
      joinTexts chance (insertEntry "items" w args) := by
  have hsep : "items" ≠ "sep" := by decide
  simp only [joinTexts, lookupEntry_insertEntry_self, textOrEmpty_insertEntry hsep, h]

/-- The names that a part of a header is made of count only by their texts. -/
theorem headerPart_names_congr (around : Surroundings)
    (h : textList "cpp.includes" v = textList "cpp.includes" w) :
    headerPart around chance (insertEntry "names" v args) =
      headerPart around chance (insertEntry "names" w args) := by
  have hcall : "names" ≠ "call" := by decide
  have hname : "names" ≠ "name" := by decide
  have hfile : "names" ≠ "file" := by decide
  have hpath : "names" ≠ "path" := by decide
  have hclass : "names" ≠ "class_name" := by decide
  have hfileName : "names" ≠ "file_name" := by decide
  simp only [headerPart, licenseText, lookupEntry_insertEntry_self, Option.getD_some, h,
    requiredText_insertEntry hcall, requiredText_insertEntry hname, requiredText_insertEntry hfile,
    textOrEmpty_insertEntry hpath, textOrEmpty_insertEntry hclass,
    textOrEmpty_insertEntry hfileName]

end Argument

/-! ## The round trip -/

/-- A list of items is read back from its text, with any separators between the items and any white
space around the brackets. So it makes no difference to the functions that take a list whether they
are given the list or what it prints as. What is neither blank nor in brackets is its own only
item. -/
theorem unpack_round_trip :
    (∀ (texts : List String) (gap before after : String), (∀ s ∈ texts, IsItem s) → IsGap gap →
      (∀ c ∈ before.toList, Text.isBlank c = true) →
      (∀ c ∈ after.toList, Text.isBlank c = true) →
      unpack (before ++ ("[" ++ gap.intercalate texts ++ "]") ++ after) = texts) ∧
    (∀ texts : List String, (∀ s ∈ texts, IsItem s) → ∀ (args : Args) (chance : Chance),
      joinTexts chance (insertEntry "items" (.string (Value.array (texts.map .string)).text) args) =
        joinTexts chance (insertEntry "items" (.array (texts.map .string)) args) ∧
      ∀ around : Surroundings,
        headerPart around chance
            (insertEntry "names" (.string (Value.array (texts.map .string)).text) args) =
          headerPart around chance (insertEntry "names" (.array (texts.map .string)) args)) ∧
    (∀ token : String, Text.allBlank token = false →
      (∀ inner, Text.trimmed token ≠ "[" ++ inner ++ "]") →
      unpack token = [Text.trimmed token]) := by
  refine ⟨?listed, ?argument, ?single⟩
  case listed =>
    intro texts gap before after htexts hgap hbefore hafter
    exact unpack_listed htexts hgap hbefore hafter
  case argument =>
    intro texts htexts args chance
    exact ⟨joinTexts_items_congr (textList_printed htexts _),
      fun around => headerPart_names_congr around (textList_printed htexts _)⟩
  case single =>
    intro token hblank h
    exact unpack_of_not_enclosed hblank h

/-- Brackets of the items themselves are kept, whatever separates them, and a bracket that is not
closed is an item. -/
theorem unpack_round_trip_brackets :
    ((∀ s ∈ ["[A]", "]["], IsItem s) ∧ IsGap " ,\t") ∧
    unpack ("\u3000" ++ ("[" ++ " ,\t".intercalate ["[A]", "]["] ++ "]") ++ "\n") = ["[A]", "]["] ∧
    joinTexts .still (insertEntry "items" (.string (Value.array (["[A]", "]["].map .string)).text)
        [("sep", .string "/")]) =
      joinTexts .still (insertEntry "items" (.array (["[A]", "]["].map .string))
        [("sep", .string "/")]) ∧
    unpack " [A\n" = [Text.trimmed " [A\n"] := by
  have hitems : ∀ s ∈ ["[A]", "]["], IsItem s := by
    intro s hs
    simp only [List.mem_cons, List.not_mem_nil, or_false] at hs
    rcases hs with rfl | rfl <;> exact ⟨by decide, by decide⟩
  have hgap : IsGap " ,\t" := ⟨by decide, by decide⟩
  have hopen : ∀ inner, Text.trimmed " [A\n" ≠ "[" ++ inner ++ "]" := by
    intro inner h
    have hlast := congrArg (fun s : String => s.toList.reverse.head?) h
    have htrimmed : (Text.trimmed " [A\n").toList = ['[', 'A'] := by decide +kernel
    simp [htrimmed] at hlast
  exact ⟨⟨hitems, hgap⟩,
    unpack_round_trip.1 _ _ _ _ hitems hgap (by decide) (by decide),
    (unpack_round_trip.2.1 _ hitems _ .still).1,
    unpack_round_trip.2.2 _ (by decide +kernel) hopen⟩

end Scaffold.Library
