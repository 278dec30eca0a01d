import Scaffold.Proofs.Template.Branching.Condition
import Scaffold.Proofs.Template.Simple.Reading

/-!
# Reading branching templates

The source of a branching template is read as its nodes, much as that of a simple template is. A
printed name may have a filter with a default text, and a condition may lack its second body. Main
facts:

* `expression_printed` : a printed name is read with its default text;
* `chain_source` : the nodes of a template are taken off its source one after the other;
* `read?_source` : the page of a template has its nodes.
-/

namespace Scaffold.Template

open Reader

/-! ## Names with a default text -/

namespace Grammar

variable {x : String} {tail : List Char}

/-- A text in quotes as an argument. -/
theorem logic_text (g : Sub) {value : String} (hvalue : '"' ∉ value.toList)
    (htail : Follower conditionMarks tail) :
    logic g ('"' :: (value.toList ++ '"' :: tail)) = some (.plain (.text value), tail) := by
  have hside : (Side.text '"' value).Readable := ⟨by decide, hvalue⟩
  have hend : Follower sideMarks tail := htail.mono (by decide)
  have hmember := membership_of_item g (item_side g hside hend) hend
  have hcompared := comparison_of_side g (compared_side g hside hend) (htail.mono (by decide))
  rw [source_side_text] at hmember hcompared
  exact logic_of_value g (value_of_item g (negation_of_ne (by decide) _)
    (spaces_bare ⟨'"', _, rfl, rfl⟩) hmember hcompared) htail

/-- The filter with a default text, as it is written behind a name. -/
def defaultFilter (value : String) (rest : List Char) : List Char :=
  ' ' :: '|' :: ' ' :: ("default".toList ++ '(' :: ("value".toList ++ '=' :: '"' ::
    (value.toList ++ '"' :: ')' :: rest)))

/-- A default text as the arguments of a filter. -/
theorem argumentList_default {depth : Nat} {value : String} (hvalue : '"' ∉ value.toList)
    (list : Reader Expr) (rest : List Char) :
    argumentList (sub (depth + 1)) list ('(' :: ("value".toList ++ '=' :: '"' ::
      (value.toList ++ '"' :: ')' :: rest))) =
      some ([("value", .plain (.text value))], rest) := by
  have hopen : ∀ cs, token ['('] ('(' :: cs) = some ((), cs) := fun _ => rfl
  have hstart : ∀ cs, spaces ("value".toList ++ cs) = some ((), "value".toList ++ cs) :=
    fun cs => spaces_bare ⟨'v', _, rfl, rfl⟩
  have hname : ∀ cs, name ("value".toList ++ '=' :: cs) = some ("value", '=' :: cs) :=
    fun cs => name_append (by decide) (by decide) cs
  have hequals : ∀ cs, token ['='] ('=' :: cs) = some ((), cs) := fun _ => rfl
  have hquote : ∀ cs, spaces ('"' :: cs) = some ((), '"' :: cs) :=
    fun cs => spaces_bare ⟨'"', cs, rfl, rfl⟩
  have hlogic : (sub (depth + 1)).logic ('"' :: (value.toList ++ '"' :: ')' :: rest)) =
      some (.plain (.text value), ')' :: rest) := logic_text (sub depth) hvalue (.paren rest)
  have hargument : argument (sub (depth + 1)) list ("value".toList ++ '=' ::
      '"' :: (value.toList ++ '"' :: ')' :: rest)) =
      some (("value", .plain (.text value)), ')' :: rest) := by
    rw [argument, bind_of_some (hname _), bind_of_some (hequals _), bind_of_some (hquote _),
      bind_of_some (orElse_of_some hlogic), pure_apply]
  have hcomma : token [','] (')' :: rest) = none := rfl
  have harguments : arguments (sub (depth + 1)) list ("value".toList ++ '=' ::
      '"' :: (value.toList ++ '"' :: ')' :: rest)) =
      some ([("value", .plain (.text value))], ')' :: rest) := by
    rw [arguments, bind_of_some hargument, bind_of_some (many_of_none (bind_of_none hcomma)),
      bind_of_some (maybe_of_none hcomma), pure_apply]
    rfl
  have hclose : token [')'] (')' :: rest) = some ((), rest) := rfl
  rw [argumentList, bind_of_some (hopen _), bind_of_some (hstart _),
    bind_of_some (maybe_of_some harguments), bind_of_some hclose, pure_apply]
  rfl

/-- A default text is the only filter. -/
theorem filters_default {depth : Nat} {value : String} (hvalue : '"' ∉ value.toList)
    (htail : Follower sideMarks tail) :
    filters (sub (depth + 1)) (defaultFilter value tail) =
      some (Branching.filters (some value), tail) := by
  have hbar : token ['|'] (defaultFilter value tail) = some ((), ' ' :: ("default".toList ++ '(' ::
      ("value".toList ++ '=' :: '"' :: (value.toList ++ '"' :: ')' :: tail)))) := rfl
  have hspaces : ∀ cs, spaces (' ' :: ("default".toList ++ cs)) =
      some ((), "default".toList ++ cs) :=
    fun cs => spaces_blank ⟨'d', _, rfl, rfl⟩
  have hname : ∀ cs, name ("default".toList ++ '(' :: cs) = some ("default", '(' :: cs) :=
    fun cs => name_append (by decide) (by decide) cs
  have hcall : callWith (sub (depth + 1)) (list (sub (depth + 1))) ("default".toList ++ '(' ::
      ("value".toList ++ '=' :: '"' :: (value.toList ++ '"' :: ')' :: tail))) =
      some (.mk "default" [("value", .plain (.text value))], tail) := by
    rw [callWith, bind_of_some (hname _), bind_of_some (argumentList_default hvalue _ tail),
      pure_apply]
  have hfilter : filterWith (sub (depth + 1)) (list (sub (depth + 1)))
      (defaultFilter value tail) =
      some (.mk "default" [("value", .plain (.text value))], tail) := by
    rw [filterWith, bind_of_some hbar, bind_of_some (hspaces _)]
    exact orElse_of_some hcall
  have hstop : filterWith (sub (depth + 1)) (list (sub (depth + 1))) tail = none :=
    bind_of_none (token_follower (by decide) (by decide) htail)
  refine many_of_chain (.step hfilter ?_ (.stop hstop))
  simp only [defaultFilter, List.length_cons, List.length_append]
  omega

/-- **A name with a default text** is a variable with a filter. -/
theorem logic_default {depth : Nat} (hx : IsVariable x) {value : String}
    (hvalue : '"' ∉ value.toList) (htail : Follower conditionMarks tail) :
    logic (sub (depth + 1)) (x.toList ++ defaultFilter value tail) =
      some (.mk (.name x) false (Branching.filters (some value)), tail) := by
  have hbar : Follower operandMarks (defaultFilter value tail) := .mark (by decide) _
  have hend : Follower sideMarks tail := htail.mono (by decide)
  have htext := filteredText_follower (sub (depth + 1)) hx.identifier hbar
  have hbasic : filteredBasic (sub (depth + 1)) (x.toList ++ defaultFilter value tail) =
      some (.mk (.name x) false (Branching.filters (some value)), tail) := by
    rw [filteredBasic,
      bind_of_some (basic_of_term _ (basicTerm_follower _ hx hbar) hbar),
      bind_of_some (filters_default hvalue hend), pure_apply]
  have hitem : (filteredText (sub (depth + 1)) <|> filteredBasic (sub (depth + 1)))
      (x.toList ++ defaultFilter value tail) =
      some (.mk (.name x) false (Branching.filters (some value)), tail) := by
    rw [orElse_of_none htext]
    exact hbasic
  have hcompared := compared_of_filteredBasic _ htext hbasic (hend.mono (by decide))
  exact logic_of_value _ (value_of_item _ (negation_follower hx hbar)
    (spaces_bare ((startsBare_name hx.identifier).append _)) (membership_of_item _ hitem hend)
    (comparison_of_side _ hcompared (htail.mono (by decide)))) htail

/-- **A printed name** is read with its default text, if it has one. -/
theorem expression_printed (hx : IsVariable x) {fallback : Option String}
    (hfallback : ∀ value ∈ fallback, '"' ∉ value.toList) (rest : List Char) :
    expression ((Branching.printed x fallback).toList ++ ' ' :: '}' :: '}' :: rest) =
      some (.mk (.name x) false (Branching.filters fallback), ' ' :: '}' :: '}' :: rest) := by
  cases fallback with
  | none => exact Tags.expression_name hx rest
  | some value =>
    have hsource : (Branching.printed x (some value)).toList ++ ' ' :: '}' :: '}' :: rest =
        x.toList ++ defaultFilter value (' ' :: '}' :: '}' :: rest) := by
      simp [Branching.printed, defaultFilter]
    rw [hsource]
    have hlength : (x.toList ++ defaultFilter value (' ' :: '}' :: '}' :: rest)).length ≠ 0 := by
      simp [defaultFilter]
    obtain ⟨depth, hdepth⟩ := Nat.exists_eq_succ_of_ne_zero hlength
    refine orElse_of_some ?_
    rw [hdepth]
    exact logic_default hx (hfallback value rfl) (.print rest)

end Grammar

/-! ## Nodes -/

namespace Tags

open Grammar Branching

variable {x : String} {place : Place} {bodies : Bodies}

theorem source_printed (before x : String) (fallback : Option String) (rest : Branching)
    (cs : List Char) :
    (Branching.print before x fallback rest).source.toList ++ cs =
      before.toList ++ printTag (printed x fallback) (rest.source.toList ++ cs) := by
  simp [Branching.source, printTag]

theorem source_branches (before : String) (c : Condition) (yes no rest : Branching)
    (cs : List Char) :
    (Branching.cond before c yes no rest).source.toList ++ cs =
      before.toList ++ ifTag c.source (yes.source.toList ++ elseTag (no.source.toList ++
        endifTag (rest.source.toList ++ cs))) := by
  simp [Branching.source, Simple.tag, ifTag, elseTag, endifTag]

theorem source_when (before : String) (c : Condition) (body rest : Branching) (cs : List Char) :
    (Branching.when before c body rest).source.toList ++ cs =
      before.toList ++ ifTag c.source (body.source.toList ++
        endifTag (rest.source.toList ++ cs)) := by
  simp [Branching.source, Simple.tag, ifTag, endifTag]

/-- The bodies of a condition are shorter than the template that it begins. -/
theorem length_source_branches (before : String) (c : Condition) (yes no rest : Branching) :
    yes.source.length + no.source.length + rest.source.length <
      (Branching.cond before c yes no rest).source.length := by
  simp only [Branching.source, Simple.tag, String.length_append]
  have hend : "endif".length = 5 := rfl
  omega

/-- So is the only body of a condition. -/
theorem length_source_when (before : String) (c : Condition) (body rest : Branching) :
    body.source.length + rest.source.length <
      (Branching.when before c body rest).source.length := by
  simp only [Branching.source, Simple.tag, String.length_append]
  have hend : "endif".length = 5 := rfl
  omega

theorem startsBare_printed (hx : IsVariable x) (fallback : Option String) :
    StartsBare (printed x fallback).toList := by
  cases fallback with
  | none => exact startsBare_name hx.identifier
  | some value =>
    simp only [printed, String.toList_append, List.append_assoc]
    exact (startsBare_name hx.identifier).append _

theorem startsBare_condition {c : Condition} (hc : c.Readable) : StartsBare c.source.toList := by
  have hbare := startsBare_source hc []
  rw [List.append_nil] at hbare
  exact hbare

/-- **A condition with one body** is one node. -/
theorem condNode_when {e : Expr} {body : List Node} {cs rest : List Char}
    (hfirst : branch bodies place "if" (ifTag x cs) =
      some (.mk Simple.edges e body, endifTag rest)) :
    condNode bodies place (ifTag x cs) =
      some (.cond [.mk Simple.edges e body] none Simple.edges, rest) := by
  have hothers : many (branch bodies place "elif") (endifTag rest) = some ([], endifTag rest) :=
    many_of_none rfl
  have hotherwise : elseBranch bodies place (endifTag rest) = none := rfl
  have hend : bareTag "endif" (endifTag rest) = some (Simple.edges, rest) := rfl
  rw [condNode, bind_of_some hfirst, bind_of_some hothers,
    bind_of_some (maybe_of_none hotherwise), bind_of_some hend, pure_apply]

/-! ## Bodies and pages -/

/-- Text in front of a tag is one node, or none if it is empty. -/
theorem chain_tag {before : String} (hbefore : IsText before ['{']) {cs out : List Char}
    {ns : List Node} (hcs : opensTag ('{' :: cs) = true)
    (h : Chain (node bodies place) ('{' :: cs) ns out) :
    Chain (node bodies place) (before.toList ++ '{' :: cs) (textNodes before ++ ns) out := by
  have htext : holdsTag (before.toList ++ ('{' :: cs).take 1) = false := hbefore
  exact chain_text htext (.inr hcs) h

/-- **The nodes of a template are taken off its source** one after the other, up to where no node
begins. `depth` bounds the readers of bodies, each of which is shorter than the template. -/
theorem chain_source (t : Branching) {after : List Char} (ht : t.Readable after) (depth : Nat)
    (place : Place) (hplace : place ≠ .block) {stop : List Char} (hstop : Stop stop)
    (hafter : stop.take 1 = after) (hdepth : t.source.length ≤ depth) :
    Chain (node (Tags.bodies depth) place) (t.source.toList ++ stop) t.nodes stop := by
  induction t generalizing after depth place stop with
  | done last =>
    have hend : Chain (node (Tags.bodies depth) place) stop [] stop := .stop (node_stop hstop)
    subst hafter
    have hchain := chain_text ht hstop.endsText hend
    rw [List.append_nil] at hchain
    exact hchain
  | print before x fallback rest ih =>
    obtain ⟨hbefore, hx, hfallback, hrest⟩ := ht
    rw [Branching.source, String.length_append] at hdepth
    have hchain := ih hrest depth place hplace hstop hafter (by omega)
    have hnode := printNode_apply (startsBare_printed hx fallback)
      (expression_printed hx hfallback (rest.source.toList ++ stop))
    rw [source_printed]
    refine chain_tag hbefore rfl (.step (node_print hplace hnode) ?_ hchain)
    simp
    omega
  | cond before c yes no rest ihyes ihno ih =>
    obtain ⟨hbefore, hc, hyes, hno, hrest⟩ := ht
    -- the bodies are shorter than the template, so that one level less is enough for them
    have hlength := length_source_branches before c yes no rest
    obtain ⟨d, rfl⟩ : ∃ d, depth = d + 1 := Nat.exists_eq_succ_of_ne_zero (by omega)
    have hchain := ih hrest (d + 1) place hplace hstop hafter (by omega)
    have hyes : Tags.bodies (d + 1) place _ = _ := many_of_chain (ihyes hyes d place hplace
      (.elseTag (no.source.toList ++ endifTag (rest.source.toList ++ stop))) rfl (by omega))
    have hno : Tags.bodies (d + 1) place _ = _ := many_of_chain (ihno hno d place hplace
      (.endifTag (rest.source.toList ++ stop)) rfl (by omega))
    have hfirst := branch_apply (startsBare_condition hc) (condition_source hc _) hyes
    rw [source_branches]
    refine chain_tag hbefore rfl (.step (node_cond (condNode_apply hfirst hno)) ?_ hchain)
    simp [elseTag, endifTag]
    omega
  | when before c body rest ihbody ih =>
    obtain ⟨hbefore, hc, hbody, hrest⟩ := ht
    have hlength := length_source_when before c body rest
    obtain ⟨d, rfl⟩ : ∃ d, depth = d + 1 := Nat.exists_eq_succ_of_ne_zero (by omega)
    have hchain := ih hrest (d + 1) place hplace hstop hafter (by omega)
    have hbody : Tags.bodies (d + 1) place _ = _ := many_of_chain (ihbody hbody d place hplace
      (.endifTag (rest.source.toList ++ stop)) rfl (by omega))
    have hfirst := branch_apply (startsBare_condition hc) (condition_source hc _) hbody
    rw [source_when]
    refine chain_tag hbefore rfl (.step (node_cond (condNode_when hfirst)) ?_ hchain)
    simp [endifTag]
    omega

/-- Behind a text without tags a comment begins only if one begins behind it. -/
theorem commentNode_append {ts cs : List Char} (hts : holdsTag (ts ++ cs.take 1) = false)
    (hcs : commentNode cs = none) : commentNode (ts ++ cs) = none := by
  cases ts with
  | nil => exact hcs
  | cons t ts =>
    rw [List.cons_append, holdsTag, Bool.or_eq_false_iff, ← opensTag_cons] at hts
    exact bind_of_none (delimiter_of_not_opens (by decide) rfl rfl hts.1)

/-- A template does not begin with a comment. -/
theorem commentNode_readable {t : Branching} (ht : t.Readable []) :
    commentNode t.source.toList = none := by
  rw [← List.append_nil t.source.toList]
  cases t with
  | done last => exact commentNode_append ht rfl
  | print before x fallback rest =>
    rw [source_printed]
    exact commentNode_append ht.1 rfl
  | cond before c yes no rest =>
    rw [source_branches]
    exact commentNode_append ht.1 rfl
  | when before c body rest =>
    rw [source_when]
    exact commentNode_append ht.1 rfl

end Tags

namespace Branching

theorem isPlain_when (e : Expr) {body : List Node} (hbody : ∀ n ∈ body, n.IsPlain) :
    (Node.cond [.mk Simple.edges e body] none Simple.edges).IsPlain := by
  refine ⟨rfl, rfl, ?_, by rw [blocksIn]; simp, rfl⟩
  have hbody' : tidyNodes Simple.edges.right Simple.edges.left body = body :=
    tidyNodes_of_plain hbody
  rw [tidyNode, tidyBranches, hbody']

/-- The nodes of a template have no wishes. -/
theorem isPlain_nodes (t : Branching) : ∀ n ∈ t.nodes, n.IsPlain := by
  induction t with
  | done last => exact fun n hn => Simple.isPlain_of_mem_textNodes hn
  | print before x fallback rest ih => exact Simple.isPlain_append (Simple.isPlain_print _) ih
  | cond before c yes no rest ihyes ihno ih =>
    exact Simple.isPlain_append (Simple.isPlain_cond _ ihyes ihno) ih
  | when before c body rest ihbody ih => exact Simple.isPlain_append (isPlain_when _ ihbody) ih

/-- **The page of a template has its nodes.** -/
theorem read?_source {t : Branching} (ht : t.Readable []) (name : String) :
    Page.read? name t.source = some ⟨name, t.nodes⟩ := by
  have hchain := Tags.chain_source t ht t.source.toList.length .page (by decide) .page rfl
    (Nat.le_of_eq String.length_toList.symm)
  rw [List.append_nil] at hchain
  exact read?_of_plain (Tags.page_of_chain (Tags.commentNode_readable ht) hchain)
    (isPlain_nodes t) name

end Branching

end Scaffold.Template
