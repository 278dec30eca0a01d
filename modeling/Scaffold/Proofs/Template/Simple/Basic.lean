import Scaffold.Field.Basic
import Scaffold.Template.Grammar
import Scaffold.Template.Layout

/-!
# Simple templates

A simple template is made of text, printed names, conditions on names and loops over names. `source`
is how it is written, `nodes` what it is to be read as, and `evaluate` what it is to come to: the
text of a single pass from left to right in which missing names are empty texts, with the names that
were missed. The two conditions on a template are `Readable`, about how it is written, and
`LoopsOverLists`, about the data that it is evaluated with.
-/

namespace Scaffold.Template

/-! ## Names -/

namespace Grammar

/-- A name as templates write it: a letter or underscore, then letters, digits and underscores. -/
def isIdentifier (x : String) : Bool :=
  match x.toList with
  | [] => false
  | c :: cs => isNameStart c && cs.all isNameChar

/-- How truth values are written. -/
def literals : List String := ["true", "false", "True", "False"]

/-- A name that means a variable wherever it stands: it does not begin like a truth value, is not
the word for negations, and has no meaning of its own in loops and pages. -/
structure IsVariable (x : String) : Prop where
  identifier : isIdentifier x = true
  ne_not : x ≠ "not"
  ne_loop : x ≠ "loop"
  ne_context : x ≠ "__tera_context"
  no_literal : ∀ s ∈ literals, ¬ s.toList <+: x.toList

instance (x : String) : Decidable (IsVariable x) :=
  decidable_of_iff (isIdentifier x = true ∧ x ≠ "not" ∧ x ≠ "loop" ∧ x ≠ "__tera_context" ∧
      ∀ s ∈ literals, ¬ s.toList <+: x.toList)
    ⟨fun ⟨h₁, h₂, h₃, h₄, h₅⟩ => ⟨h₁, h₂, h₃, h₄, h₅⟩,
      fun h => ⟨h.identifier, h.ne_not, h.ne_loop, h.ne_context, h.no_literal⟩⟩

end Grammar

open Grammar (isIdentifier IsVariable)

/-! ## Templates -/

/-- A simple template: a piece and the rest of the template behind it. -/
inductive Simple where
  | done
  | text (s : String) (rest : Simple)
  | print (x : String) (rest : Simple)
  | cond (x : String) (yes no rest : Simple)
  | loop (item container : String) (body rest : Simple)
  deriving Repr, DecidableEq

namespace Simple

/-- A tag around some words. -/
def tag (words : String) : String := "\x7b% " ++ words ++ " %\x7d"

/-- How a template is written. -/
def source : Simple → String
  | .done => ""
  | .text s rest => s ++ source rest
  | .print x rest => "\x7b\x7b " ++ x ++ " \x7d\x7d" ++ source rest
  | .cond x yes no rest =>
    tag ("if " ++ x) ++ source yes ++ tag "else" ++ source no ++ tag "endif" ++ source rest
  | .loop item container body rest =>
    tag ("for " ++ item ++ " in " ++ container) ++ source body ++ tag "endfor" ++ source rest

/-- A template can be read: its texts open no tags, and its names are names. -/
def Readable : Simple → Prop
  | .done => True
  | .text s rest => '{' ∉ s.toList ∧ rest.Readable
  | .print x rest => IsVariable x ∧ rest.Readable
  | .cond x yes no rest => IsVariable x ∧ yes.Readable ∧ no.Readable ∧ rest.Readable
  | .loop item container body rest =>
    isIdentifier item = true ∧ IsVariable container ∧ body.Readable ∧ rest.Readable

/-- The edges of tags that leave the white space next to them alone. -/
def edges : Edges := ⟨false, false⟩

/-- The nodes of a template. Texts that touch each other are one node; `before` is the text that
stands right before the template. -/
def nodes (before : String) : Simple → List Node
  | .done => textNodes before
  | .text s rest => nodes (before ++ s) rest
  | .print x rest => textNodes before ++ .print edges (.plain (.name x)) :: nodes "" rest
  | .cond x yes no rest =>
    textNodes before ++ .cond [.mk edges (.plain (.name x)) (nodes "" yes)]
      (some (.mk edges (nodes "" no))) edges :: nodes "" rest
  | .loop item container body rest =>
    textNodes before ++ .forLoop edges none item (.plain (.name container)) (nodes "" body) none
      edges :: nodes "" rest

end Simple

/-! ## Evaluation -/

/-- The text that a template comes to, and the names that are missed on the way, in order. -/
structure Evaluation where
  text : String
  missing : List String
  deriving Repr, DecidableEq

namespace Evaluation

/-- Nothing at all. -/
def nothing : Evaluation := ⟨"", []⟩

/-- One after the other. -/
def andThen (first second : Evaluation) : Evaluation :=
  ⟨first.text ++ second.text, first.missing ++ second.missing⟩

/-- Several in a row. -/
def inTurn (evaluations : List Evaluation) : Evaluation := evaluations.foldr andThen nothing

theorem nothing_andThen (e : Evaluation) : nothing.andThen e = e := by
  simp [nothing, andThen]

/-- A name is missed in a row if it is missed in one of its members. -/
theorem mem_missing_inTurn {evaluations : List Evaluation} {x : String}
    (h : x ∈ (inTurn evaluations).missing) : ∃ e ∈ evaluations, x ∈ e.missing := by
  induction evaluations with
  | nil => cases h
  | cons e evaluations ih =>
    rcases List.mem_append.1 h with hfirst | hrest
    · exact ⟨e, List.mem_cons_self, hfirst⟩
    · obtain ⟨f, hf, hx⟩ := ih hrest
      exact ⟨f, List.mem_cons_of_mem _ hf, hx⟩

end Evaluation

namespace Simple

/-- What a name means: the text that the innermost loop over it has come to, or a field. -/
def lookup (data : Fields) (bound : List (String × String)) (x : String) : Option Field :=
  match bound.lookup x with
  | some s => some (.text s)
  | none => data.get? x

/-- Evaluates a template from left to right, with the names that loops bind, innermost first. A name
is missed where it should be printed or looped over; a condition on it just does not hold. -/
def evaluate (data : Fields) (bound : List (String × String)) : Simple → Evaluation
  | .done => .nothing
  | .text s rest => Evaluation.andThen ⟨s, []⟩ (evaluate data bound rest)
  | .print x rest =>
    let printed : Evaluation :=
      match lookup data bound x with
      | some field => ⟨field.toValue.text, []⟩
      | none => ⟨"", [x]⟩
    printed.andThen (evaluate data bound rest)
  | .cond x yes no rest =>
    let chosen :=
      if (lookup data bound x).any (·.toValue.truthy) then evaluate data bound yes
      else evaluate data bound no
    chosen.andThen (evaluate data bound rest)
  | .loop item container body rest =>
    let rounds : Evaluation :=
      match lookup data bound container with
      | some (.list items) => .inTurn (items.map fun s => evaluate data ((item, s) :: bound) body)
      | some _ => .nothing
      | none => ⟨"", [container]⟩
    rounds.andThen (evaluate data bound rest)

/-- The loops of a template run over lists of the data, or over what is missing there, and not over
what a loop around them binds. -/
def LoopsOverLists (data : Fields) (enclosing : List String) : Simple → Prop
  | .done => True
  | .text _ rest => rest.LoopsOverLists data enclosing
  | .print _ rest => rest.LoopsOverLists data enclosing
  | .cond _ yes no rest =>
    yes.LoopsOverLists data enclosing ∧ no.LoopsOverLists data enclosing ∧
      rest.LoopsOverLists data enclosing
  | .loop item container body rest =>
    container ∉ enclosing ∧
      (data.get? container = none ∨ ∃ items, data.get? container = some (.list items)) ∧
      body.LoopsOverLists data (item :: enclosing) ∧ rest.LoopsOverLists data enclosing

theorem get?_of_lookup_eq_none {data : Fields} {bound : List (String × String)} {x : String}
    (h : lookup data bound x = none) : data.get? x = none := by
  unfold lookup at h
  split at h
  · cases h
  · exact h

/-- **A name that is missed** is a variable, and no field of the data. -/
theorem of_mem_missing {t : Simple} (hread : t.Readable) {data : Fields}
    {bound : List (String × String)} {x : String} (h : x ∈ (t.evaluate data bound).missing) :
    IsVariable x ∧ data.get? x = none := by
  induction t generalizing bound with
  | done => cases h
  | text s rest ih => exact ih hread.2 h
  | print y rest ih =>
    rcases List.mem_append.1 h with hprint | hrest
    · split at hprint
      · cases hprint
      · rename_i hnone
        obtain rfl := List.mem_singleton.1 hprint
        exact ⟨hread.1, get?_of_lookup_eq_none hnone⟩
    · exact ih hread.2 hrest
  | cond y yes no rest ihyes ihno ih =>
    obtain ⟨-, hyes, hno, hrest⟩ := hread
    rcases List.mem_append.1 h with hchosen | hafter
    · split at hchosen
      · exact ihyes hyes hchosen
      · exact ihno hno hchosen
    · exact ih hrest hafter
  | loop item container body rest ihbody ih =>
    obtain ⟨-, hcontainer, hbody, hrest⟩ := hread
    rcases List.mem_append.1 h with hrounds | hafter
    · split at hrounds
      · obtain ⟨e, he, hx⟩ := Evaluation.mem_missing_inTurn hrounds
        obtain ⟨s, -, rfl⟩ := List.mem_map.1 he
        exact ihbody hbody hx
      · cases hrounds
      · rename_i hnone
        obtain rfl := List.mem_singleton.1 hrounds
        exact ⟨hcontainer, get?_of_lookup_eq_none hnone⟩
    · exact ih hrest hafter

end Simple

end Scaffold.Template
