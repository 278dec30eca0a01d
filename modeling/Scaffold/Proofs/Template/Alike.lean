import Scaffold.Proofs.Source.Spelling
import Scaffold.Template.Page

/-!
# Comparing syntax

Floating-point numbers do not compare, so neither do expressions and nodes in general. `alike`
compares those made of texts, whole numbers, truth values, names, comparisons, logical operators and
calls, in text, tags that print or assign, conditions and loops; of anything else it says that it
differs. `Reads.of_spells` tells from a comparison what a text is read as, whatever its name is.
-/

namespace Scaffold.Template

/-! ## Expressions -/

mutual

/-- Whether two expressions are seen to be the same. -/
def Expr.alike : Expr → Expr → Bool
  | .mk o negated filters, .mk o' negated' filters' =>
    o.alike o' && negated == negated' && alikeCalls filters filters'
termination_by structural e => e

/-- Whether two operands are seen to be the same. -/
def Operand.alike : Operand → Operand → Bool
  | .text s, .text s' => s == s'
  | .int n, .int n' => n == n'
  | .bool b, .bool b' => b == b'
  | .name x, .name x' => x == x'
  | .compare op l r, .compare op' l' r' => op == op' && l.alike l' && r.alike r'
  | .logic op l r, .logic op' l' r' => op == op' && l.alike l' && r.alike r'
  | .call c, .call c' => c.alike c'
  | _, _ => false
termination_by structural o => o

/-- Whether two calls are seen to be the same. -/
def Call.alike : Call → Call → Bool
  | .mk name args, .mk name' args' => name == name' && alikeArgs args args'
termination_by structural c => c

/-- Whether calls are seen to be the same, one by one. -/
def alikeCalls : List Call → List Call → Bool
  | [], [] => true
  | c :: cs, c' :: cs' => c.alike c' && alikeCalls cs cs'
  | _, _ => false
termination_by structural cs => cs

/-- Whether arguments are seen to be the same, one by one. -/
def alikeArgs : List (String × Expr) → List (String × Expr) → Bool
  | [], [] => true
  | (n, e) :: args, (n', e') :: args' => n == n' && e.alike e' && alikeArgs args args'
  | _, _ => false
termination_by structural args => args

end

mutual

theorem Expr.eq_of_alike {e e' : Expr} (h : e.alike e' = true) : e = e' := by
  obtain ⟨o, negated, filters⟩ := e
  obtain ⟨o', negated', filters'⟩ := e'
  simp only [Expr.alike, Bool.and_eq_true, beq_iff_eq] at h
  obtain ⟨⟨ho, rfl⟩, hfilters⟩ := h
  rw [Operand.eq_of_alike ho, eq_of_alikeCalls hfilters]
termination_by structural e

theorem Operand.eq_of_alike {o o' : Operand} (h : o.alike o' = true) : o = o' := by
  cases o with
  | text s =>
    cases o' with
    | text s' => rw [eq_of_beq h]
    | _ => cases h
  | int n =>
    cases o' with
    | int n' => rw [eq_of_beq h]
    | _ => cases h
  | bool b =>
    cases o' with
    | bool b' => rw [eq_of_beq h]
    | _ => cases h
  | name x =>
    cases o' with
    | name x' => rw [eq_of_beq h]
    | _ => cases h
  | compare op l r =>
    cases o' with
    | compare op' l' r' =>
      simp only [Operand.alike, Bool.and_eq_true, beq_iff_eq] at h
      obtain ⟨⟨rfl, hl⟩, hr⟩ := h
      rw [Expr.eq_of_alike hl, Expr.eq_of_alike hr]
    | _ => cases h
  | logic op l r =>
    cases o' with
    | logic op' l' r' =>
      simp only [Operand.alike, Bool.and_eq_true, beq_iff_eq] at h
      obtain ⟨⟨rfl, hl⟩, hr⟩ := h
      rw [Expr.eq_of_alike hl, Expr.eq_of_alike hr]
    | _ => cases h
  | call c =>
    cases o' with
    | call c' =>
      rw [Operand.alike] at h
      rw [Call.eq_of_alike h]
    | _ => cases h
  | _ => cases h
termination_by structural o

theorem Call.eq_of_alike {c c' : Call} (h : c.alike c' = true) : c = c' := by
  obtain ⟨name, args⟩ := c
  obtain ⟨name', args'⟩ := c'
  simp only [Call.alike, Bool.and_eq_true, beq_iff_eq] at h
  obtain ⟨rfl, hargs⟩ := h
  rw [eq_of_alikeArgs hargs]
termination_by structural c

theorem eq_of_alikeCalls {cs cs' : List Call} (h : alikeCalls cs cs' = true) : cs = cs' := by
  cases cs with
  | nil =>
    cases cs' with
    | nil => rfl
    | cons c' cs' => cases h
  | cons c cs =>
    cases cs' with
    | nil => cases h
    | cons c' cs' =>
      rw [alikeCalls, Bool.and_eq_true] at h
      rw [Call.eq_of_alike h.1, eq_of_alikeCalls h.2]
termination_by structural cs

theorem eq_of_alikeArgs {args args' : List (String × Expr)} (h : alikeArgs args args' = true) :
    args = args' := by
  cases args with
  | nil =>
    cases args' with
    | nil => rfl
    | cons arg' args' => cases h
  | cons arg args =>
    cases args' with
    | nil => cases h
    | cons arg' args' =>
      obtain ⟨n, e⟩ := arg
      obtain ⟨n', e'⟩ := arg'
      simp only [alikeArgs, Bool.and_eq_true, beq_iff_eq] at h
      obtain ⟨⟨rfl, he⟩, hargs⟩ := h
      rw [Expr.eq_of_alike he, eq_of_alikeArgs hargs]
termination_by structural args

end

/-! ## Nodes -/

mutual

/-- Whether two nodes are seen to be the same. -/
def Node.alike : Node → Node → Bool
  | .text s, .text s' => s == s'
  | .print edges e, .print edges' e' => edges == edges' && e.alike e'
  | .assign edges global name e, .assign edges' global' name' e' =>
    edges == edges' && global == global' && name == name' && e.alike e'
  | .forLoop opening key item e body none closing,
      .forLoop opening' key' item' e' body' none closing' =>
    opening == opening' && key == key' && item == item' && e.alike e' && alikeNodes body body' &&
      closing == closing'
  | .cond branches none closing, .cond branches' none closing' =>
    alikeBranches branches branches' && closing == closing'
  | .cond branches (some (.mk edges body)) closing,
      .cond branches' (some (.mk edges' body')) closing' =>
    alikeBranches branches branches' && edges == edges' && alikeNodes body body' &&
      closing == closing'
  | _, _ => false
termination_by structural n => n

/-- Whether nodes are seen to be the same, one by one. -/
def alikeNodes : List Node → List Node → Bool
  | [], [] => true
  | n :: ns, n' :: ns' => n.alike n' && alikeNodes ns ns'
  | _, _ => false
termination_by structural ns => ns

/-- Whether branches are seen to be the same, one by one. -/
def alikeBranches : List Branch → List Branch → Bool
  | [], [] => true
  | .mk edges c body :: bs, .mk edges' c' body' :: bs' =>
    edges == edges' && c.alike c' && alikeNodes body body' && alikeBranches bs bs'
  | _, _ => false
termination_by structural bs => bs

end

mutual

theorem Node.eq_of_alike {n n' : Node} (h : n.alike n' = true) : n = n' := by
  unfold Node.alike at h
  split at h
  · rw [eq_of_beq h]
  · simp only [Bool.and_eq_true, beq_iff_eq] at h
    obtain ⟨rfl, he⟩ := h
    rw [Expr.eq_of_alike he]
  · simp only [Bool.and_eq_true, beq_iff_eq] at h
    obtain ⟨⟨⟨rfl, rfl⟩, rfl⟩, he⟩ := h
    rw [Expr.eq_of_alike he]
  · simp only [Bool.and_eq_true, beq_iff_eq] at h
    obtain ⟨⟨⟨⟨⟨rfl, rfl⟩, rfl⟩, he⟩, hbody⟩, rfl⟩ := h
    rw [Expr.eq_of_alike he, eq_of_alikeNodes hbody]
  · simp only [Bool.and_eq_true, beq_iff_eq] at h
    obtain ⟨hbranches, rfl⟩ := h
    rw [eq_of_alikeBranches hbranches]
  · simp only [Bool.and_eq_true, beq_iff_eq] at h
    obtain ⟨⟨⟨hbranches, rfl⟩, hbody⟩, rfl⟩ := h
    rw [eq_of_alikeBranches hbranches, eq_of_alikeNodes hbody]
  · cases h

theorem eq_of_alikeNodes {ns ns' : List Node} (h : alikeNodes ns ns' = true) : ns = ns' := by
  unfold alikeNodes at h
  split at h
  · rfl
  · rw [Bool.and_eq_true] at h
    rw [Node.eq_of_alike h.1, eq_of_alikeNodes h.2]
  · cases h

theorem eq_of_alikeBranches {bs bs' : List Branch} (h : alikeBranches bs bs' = true) :
    bs = bs' := by
  unfold alikeBranches at h
  split at h
  · rfl
  · simp only [Bool.and_eq_true, beq_iff_eq] at h
    obtain ⟨⟨⟨rfl, hc⟩, hbody⟩, hbs⟩ := h
    rw [Expr.eq_of_alike hc, eq_of_alikeNodes hbody, eq_of_alikeBranches hbs]
  · cases h

end

/-! ## Pages -/

/-- A text is read as some nodes, whatever its name is. -/
def Reads (text : String) (nodes : List Node) : Prop :=
  ∀ name, Page.read? name text = some ⟨name, nodes⟩

/-- Whether characters are seen to be read as some nodes. -/
def readsAs (cs : List Char) (nodes : List Node) : Bool :=
  match Tags.page cs with
  | none => false
  | some (ns, _) =>
    let page : Page := ⟨"", tidyNodes false false ns⟩
    !hasRepetition ((blocksOf page.nodes).map (·.1)) &&
      !hasRepetition (page.definitions.map (·.name)) && alikeNodes page.nodes nodes

/-- **What a text is read as** can be computed from its characters. -/
theorem Reads.of_spells {text : String} {cs : List Char} {nodes : List Node}
    (hspells : Spells text cs) (h : readsAs cs nodes = true) : Reads text nodes := by
  intro name
  unfold Page.read?
  rw [hspells]
  unfold readsAs at h
  cases hpage : Tags.page cs with
  | none =>
    rw [hpage] at h
    cases h
  | some r =>
    obtain ⟨ns, rest⟩ := r
    rw [hpage] at h
    simp only [Bool.and_eq_true, Bool.not_eq_true'] at h
    obtain ⟨⟨hblocks, hdefinitions⟩, hnodes⟩ := h
    have hsame : (Page.mk name (tidyNodes false false ns)).definitions =
        (Page.mk "" (tidyNodes false false ns)).definitions := rfl
    dsimp only
    rw [hsame, hblocks, hdefinitions, eq_of_alikeNodes hnodes]
    rfl

end Scaffold.Template
