import Scaffold.Proofs.Template.Plain
import Scaffold.Proofs.Template.Simple.Expression
import Scaffold.Template.Page

/-!
# Reading simple templates

The source of a simple template is read as its nodes. Every node is recognised by how it starts, so
that the readers in front of the right one fail at once; the bodies of conditions and loops are
read in turn up to the tag that ends them. The key notions are `Stop`, where no node begins, and
`Chain`, the nodes taken one after the other. Main facts:

* `condNode_apply`, `loopNode_apply` : a tag with its bodies is read as one node;
* `chain_nodes` : the nodes of a template are taken off its source one after the other;
* `read?_source` : the page of a template has its nodes.
-/

namespace Scaffold.Template

open Reader

namespace Tags

open Grammar

variable {x : String} {place : Place} {bodies : Bodies}

/-! ## Tags in front of what follows -/

/-- A tag that prints what is written. -/
def printTag (x : String) (rest : List Char) : List Char :=
  '{' :: '{' :: ' ' :: (x.toList ++ ' ' :: '}' :: '}' :: rest)

/-- A tag with a condition. -/
def ifTag (x : String) (rest : List Char) : List Char :=
  '{' :: '%' :: ' ' :: 'i' :: 'f' :: ' ' :: (x.toList ++ ' ' :: '%' :: '}' :: rest)

/-- The tag between the bodies of a condition. -/
def elseTag (rest : List Char) : List Char :=
  '{' :: '%' :: ' ' :: 'e' :: 'l' :: 's' :: 'e' :: ' ' :: '%' :: '}' :: rest

/-- The tag that ends a condition. -/
def endifTag (rest : List Char) : List Char :=
  '{' :: '%' :: ' ' :: 'e' :: 'n' :: 'd' :: 'i' :: 'f' :: ' ' :: '%' :: '}' :: rest

/-- A tag with a loop over a name. -/
def forTag (item container : String) (rest : List Char) : List Char :=
  '{' :: '%' :: ' ' :: 'f' :: 'o' :: 'r' :: ' ' :: (item.toList ++ ' ' :: 'i' :: 'n' :: ' ' ::
    (container.toList ++ ' ' :: '%' :: '}' :: rest))

/-- The tag that ends a loop. -/
def endforTag (rest : List Char) : List Char :=
  '{' :: '%' :: ' ' :: 'e' :: 'n' :: 'd' :: 'f' :: 'o' :: 'r' :: ' ' :: '%' :: '}' :: rest

theorem source_print (x : String) (rest : Simple) (cs : List Char) :
    (Simple.print x rest).source.toList ++ cs = printTag x (rest.source.toList ++ cs) := by
  simp [Simple.source, printTag]

theorem source_cond (x : String) (yes no rest : Simple) (cs : List Char) :
    (Simple.cond x yes no rest).source.toList ++ cs =
      ifTag x (yes.source.toList ++ elseTag (no.source.toList ++
        endifTag (rest.source.toList ++ cs))) := by
  simp [Simple.source, Simple.tag, ifTag, elseTag, endifTag]

theorem source_loop (item container : String) (body rest : Simple) (cs : List Char) :
    (Simple.loop item container body rest).source.toList ++ cs =
      forTag item container (body.source.toList ++ endforTag (rest.source.toList ++ cs)) := by
  simp [Simple.source, Simple.tag, forTag, endforTag]

/-- The bodies of a condition are shorter than the template that it begins. -/
theorem length_source_cond (x : String) (yes no rest : Simple) :
    yes.source.length + no.source.length + rest.source.length <
      (Simple.cond x yes no rest).source.length := by
  simp only [Simple.source, Simple.tag, String.length_append]
  have hend : "endif".length = 5 := rfl
  omega

/-- The body of a loop is shorter than the template that it begins. -/
theorem length_source_loop (item container : String) (body rest : Simple) :
    body.source.length + rest.source.length <
      (Simple.loop item container body rest).source.length := by
  simp only [Simple.source, Simple.tag, String.length_append]
  have hend : "endfor".length = 6 := rfl
  omega

/-! ## Nodes by themselves -/

/-- A value is printed. -/
theorem printNode_apply {e : Expr} {rest : List Char} (hx : StartsBare x.toList)
    (hvalue : expression (x.toList ++ ' ' :: '}' :: '}' :: rest) =
      some (e, ' ' :: '}' :: '}' :: rest)) :
    printNode (printTag x rest) = some (.print Simple.edges e, rest) := by
  have hstart : printStart (printTag x rest) =
      some (false, ' ' :: (x.toList ++ ' ' :: '}' :: '}' :: rest)) := rfl
  have hend : printEnd (' ' :: '}' :: '}' :: rest) = some (false, rest) := rfl
  rw [printNode, bind_of_some hstart, bind_of_some (spaces_blank (hx.append _)),
    bind_of_some hvalue, bind_of_some hend]
  rfl

/-- A name is read as a value. -/
theorem expression_name (hx : IsVariable x) (rest : List Char) :
    expression (x.toList ++ ' ' :: '}' :: '}' :: rest) =
      some (.plain (.name x), ' ' :: '}' :: '}' :: rest) :=
  orElse_of_some (logic_name _ hx (.print rest))

/-- A name is read as a condition. -/
theorem condition_name (hx : IsVariable x) (rest : List Char) :
    condition (x.toList ++ ' ' :: '%' :: '}' :: rest) =
      some (.plain (.name x), ' ' :: '%' :: '}' :: rest) :=
  logic_name _ hx (.tag rest)

theorem branch_apply {e : Expr} (hx : StartsBare x.toList) {body : List Node}
    {cs after : List Char}
    (hcondition : condition (x.toList ++ ' ' :: '%' :: '}' :: cs) =
      some (e, ' ' :: '%' :: '}' :: cs))
    (hbody : bodies place cs = some (body, after)) :
    branch bodies place "if" (ifTag x cs) = some (.mk Simple.edges e body, after) := by
  have hstart : tagStart "if" (ifTag x cs) =
      some (false, ' ' :: (x.toList ++ ' ' :: '%' :: '}' :: cs)) := rfl
  have hend : tagEnd (' ' :: '%' :: '}' :: cs) = some (false, cs) := rfl
  rw [branch, bind_of_some hstart, bind_of_some (spaces1_blank (hx.append _)),
    bind_of_some hcondition, bind_of_some hend, bind_of_some hbody]
  rfl

/-- **A condition with its two bodies** is one node. -/
theorem condNode_apply {e : Expr} {yes no : List Node} {cs ds rest : List Char}
    (hfirst : branch bodies place "if" (ifTag x cs) = some (.mk Simple.edges e yes, elseTag ds))
    (hno : bodies place ds = some (no, endifTag rest)) :
    condNode bodies place (ifTag x cs) =
      some (.cond [.mk Simple.edges e yes] (some (.mk Simple.edges no)) Simple.edges, rest) := by
  have hothers : many (branch bodies place "elif") (elseTag ds) = some ([], elseTag ds) :=
    many_of_none rfl
  have hotherwise : elseBranch bodies place (elseTag ds) =
      some (.mk Simple.edges no, endifTag rest) := by
    have htag : bareTag "else" (elseTag ds) = some (Simple.edges, ds) := rfl
    rw [elseBranch, bind_of_some htag, bind_of_some hno, pure_apply]
  have hend : bareTag "endif" (endifTag rest) = some (Simple.edges, rest) := rfl
  rw [condNode, bind_of_some hfirst, bind_of_some hothers,
    bind_of_some (maybe_of_some hotherwise), bind_of_some hend, pure_apply]

/-- **A loop with its body** is one node. -/
theorem loopNode_apply {item container : String} (hitem : isIdentifier item = true)
    (hcontainer : IsVariable container) {body : List Node} {cs rest : List Char}
    (hbody : bodies .loop cs = some (body, endforTag rest)) :
    loopNode bodies (forTag item container cs) =
      some (.forLoop Simple.edges none item (.plain (.name container)) body none Simple.edges,
        rest) := by
  have hstart : tagStart "for" (forTag item container cs) =
      some (false, ' ' :: (item.toList ++ ' ' :: 'i' :: 'n' :: ' ' ::
        (container.toList ++ ' ' :: '%' :: '}' :: cs))) := rfl
  have hspaces : ∀ ds, spaces1 (' ' :: 'i' :: ds) = some ((), 'i' :: ds) :=
    fun ds => spaces1_blank ⟨'i', ds, rfl, rfl⟩
  have hin : ∀ ds, literal ['i', 'n'] ('i' :: 'n' :: ds) = some ((), ds) := fun _ => rfl
  have hlist : loopContainer (container.toList ++ ' ' :: '%' :: '}' :: cs) =
      some (.plain (.name container), ' ' :: '%' :: '}' :: cs) :=
    orElse_of_some (filteredBasic_follower _ hcontainer (.tag cs))
  have hend : tagEnd (' ' :: '%' :: '}' :: cs) = some (false, cs) := rfl
  have hclose : bareTag "endfor" (endforTag rest) = some (Simple.edges, rest) := rfl
  rw [loopNode, bind_of_some hstart,
    bind_of_some (spaces1_blank ((startsBare_name hitem).append _)),
    bind_of_some (name_append hitem rfl _), bind_of_some (maybe_of_none rfl),
    bind_of_some (hspaces _), bind_of_some (hin _),
    bind_of_some (spaces1_blank ((startsBare_name hcontainer.identifier).append _)),
    bind_of_some hlist, bind_of_some hend, bind_of_some hbody, bind_of_some (many_of_none rfl),
    bind_of_some hclose]
  rfl

/-! ## Choosing the node -/

/-- A reader that is only there under a condition fails where it fails. -/
theorem onlyIf_of_none {α : Type} {p : Reader α} {cs : List Char} (b : Bool) (h : p cs = none) :
    onlyIf b p cs = none := by
  cases b with
  | true => exact h
  | false => rfl

theorem node_print {n : Node} {rest : List Char} (hplace : place ≠ .block)
    (h : printNode (printTag x rest) = some (n, rest)) :
    node bodies place (printTag x rest) = some (n, rest) := by
  have hparent : onlyIf (place = .block) parentNode (printTag x rest) = none := by
    rw [decide_eq_false hplace]
    rfl
  rw [node, orElse_of_none rfl, orElse_of_none hparent, orElse_of_some h]

theorem node_cond {n : Node} {cs rest : List Char}
    (h : condNode bodies place (ifTag x cs) = some (n, rest)) :
    node bodies place (ifTag x cs) = some (n, rest) := by
  rw [node, orElse_of_none rfl, orElse_of_none (onlyIf_of_none _ rfl), orElse_of_none rfl,
    orElse_of_none rfl, orElse_of_none rfl, orElse_of_none rfl,
    orElse_of_none (onlyIf_of_none _ rfl), orElse_of_some h]

theorem node_loop {item container : String} {n : Node} {cs rest : List Char}
    (h : loopNode bodies (forTag item container cs) = some (n, rest)) :
    node bodies place (forTag item container cs) = some (n, rest) := by
  rw [node, orElse_of_none rfl, orElse_of_none (onlyIf_of_none _ rfl), orElse_of_none rfl,
    orElse_of_none rfl, orElse_of_none rfl, orElse_of_none rfl,
    orElse_of_none (onlyIf_of_none _ rfl), orElse_of_none rfl, orElse_of_some h]

/-- The words that the tags of nodes begin with. -/
def keywords : List String :=
  ["include", "set", "set_global", "block", "if", "for", "break", "continue", "filter", "raw"]

/-- Where no delimiter with one of these words stands there can only be text. -/
theorem node_eq_textNode {cs : List Char} (hprint : printStart cs = none)
    (hcomment : delimiter "\x7b#-" "\x7b#" cs = none)
    (htag : ∀ keyword ∈ keywords, tagStart keyword cs = none) :
    node bodies place cs = textNode cs := by
  have hinsert : insertNode cs = none := bind_of_none (htag "include" (by decide))
  have hparent : parentNode cs = none := bind_of_none hprint
  have hvalue : printNode cs = none := bind_of_none hprint
  have hremark : commentNode cs = none := bind_of_none hcomment
  have hset : assignNode "set" false cs = none := bind_of_none (htag "set" (by decide))
  have hglobal : assignNode "set_global" true cs = none :=
    bind_of_none (htag "set_global" (by decide))
  have hblock : blockNode bodies cs = none := bind_of_none (htag "block" (by decide))
  have hcond : condNode bodies place cs = none :=
    bind_of_none (bind_of_none (htag "if" (by decide)))
  have hloop : loopNode bodies cs = none := bind_of_none (htag "for" (by decide))
  have hbreak : bareTag "break" cs = none := bind_of_none (htag "break" (by decide))
  have hcontinue : bareTag "continue" cs = none := bind_of_none (htag "continue" (by decide))
  have hfiltered : filteredNode bodies cs = none := bind_of_none (htag "filter" (by decide))
  have hraw : rawNode cs = none := bind_of_none (bind_of_none (htag "raw" (by decide)))
  rw [node, orElse_of_none hinsert, orElse_of_none (onlyIf_of_none _ hparent),
    orElse_of_none hvalue, orElse_of_none hremark, orElse_of_none hset, orElse_of_none hglobal,
    orElse_of_none (onlyIf_of_none _ hblock), orElse_of_none hcond, orElse_of_none hloop,
    orElse_of_none (onlyIf_of_none _ (bind_of_none hbreak)),
    orElse_of_none (onlyIf_of_none _ (bind_of_none hcontinue)), orElse_of_none hfiltered,
    orElse_of_none hraw]

/-- Where no node begins: at the end of a page, and at the tags that end a body. -/
inductive Stop : List Char → Prop
  | page : Stop []
  | elseTag (rest : List Char) : Stop (elseTag rest)
  | endifTag (rest : List Char) : Stop (endifTag rest)
  | endforTag (rest : List Char) : Stop (endforTag rest)

theorem node_stop {cs : List Char} (h : Stop cs) : node bodies place cs = none := by
  have htag : ∀ keyword ∈ keywords, tagStart keyword cs = none := by
    intro keyword hkeyword
    simp only [keywords, List.mem_cons, List.not_mem_nil, or_false] at hkeyword
    cases h <;> rcases hkeyword with
      rfl | rfl | rfl | rfl | rfl | rfl | rfl | rfl | rfl | rfl <;> rfl
  cases h <;> exact node_eq_textNode rfl rfl htag

/-! ## Text -/

theorem Stop.endsText {cs : List Char} (h : Stop cs) : EndsText cs := by
  cases h with
  | page => exact .inl rfl
  | elseTag | endifTag | endforTag => exact .inr rfl

theorem node_text {ts cs : List Char} (hne : ts ≠ []) (hts : holdsTag (ts ++ cs.take 1) = false)
    (hcs : EndsText cs) : node bodies place (ts ++ cs) = some (.text (String.ofList ts), cs) := by
  obtain ⟨t, more, rfl⟩ := List.exists_cons_of_ne_nil hne
  have hopen : opensTag (t :: (more ++ cs)) = false := by
    rw [List.cons_append, holdsTag, Bool.or_eq_false_iff, ← opensTag_cons] at hts
    exact hts.1
  have htag : ∀ keyword ∈ keywords, tagStart keyword (t :: (more ++ cs)) = none :=
    fun keyword _ => bind_of_none (delimiter_of_not_opens (by decide) rfl rfl hopen)
  have hplain := plainText_append_of_endsText hts hcs
  rw [List.cons_append] at hplain ⊢
  rw [node_eq_textNode (delimiter_of_not_opens (by decide) rfl rfl hopen)
    (delimiter_of_not_opens (by decide) rfl rfl hopen) htag, textNode, hplain]

/-- Text in front of a tag is one node, or none if it is empty. -/
theorem chain_text {before : String} {cs out : List Char}
    (hbefore : holdsTag (before.toList ++ cs.take 1) = false) {ns : List Node}
    (hcs : EndsText cs) (h : Chain (node bodies place) cs ns out) :
    Chain (node bodies place) (before.toList ++ cs) (textNodes before ++ ns) out := by
  by_cases hne : before = ""
  · subst hne
    exact h
  · have hlist : before.toList ≠ [] := fun he => hne (String.toList_eq_nil_iff.1 he)
    have hnode : node bodies place (before.toList ++ cs) = _ := node_text hlist hbefore hcs
    rw [String.ofList_toList] at hnode
    have htext : textNodes before = [.text before] := by
      rw [textNodes, if_neg (by simpa using hne)]
    rw [htext]
    refine .step hnode ?_ h
    have hpos : 0 < before.toList.length := List.length_pos_iff.2 hlist
    rw [List.length_append]
    omega

/-! ## Bodies and pages -/

/-- **The nodes of a template are taken off its source** one after the other, up to where no node
begins. `depth` bounds the readers of bodies, each of which is shorter than the template. -/
theorem chain_nodes (t : Simple) (ht : t.Readable) (before : String) (depth : Nat) (place : Place)
    (stop : List Char) (hbefore : '{' ∉ before.toList) (hplace : place ≠ .block)
    (hstop : Stop stop) (hdepth : t.source.length ≤ depth) :
    Chain (node (Tags.bodies depth) place) (before.toList ++ (t.source.toList ++ stop))
      (t.nodes before) stop := by
  have hempty : '{' ∉ ("" : String).toList := by decide
  induction t generalizing before depth place stop with
  | done =>
    have hend : Chain (node (Tags.bodies depth) place) stop [] stop := .stop (node_stop hstop)
    have hchain := chain_text (holdsTag_of_not_mem hbefore _) hstop.endsText hend
    rw [List.append_nil] at hchain
    exact hchain
  | text s rest ih =>
    rw [Simple.source, String.length_append] at hdepth
    have hjoined : '{' ∉ (before ++ s).toList := by simp [hbefore, ht.1]
    have hchain := ih ht.2 (before ++ s) depth place stop hjoined hplace hstop (by omega)
    rw [String.toList_append, List.append_assoc] at hchain
    rw [Simple.source, String.toList_append, List.append_assoc]
    exact hchain
  | print x rest ih =>
    rw [Simple.source, String.length_append] at hdepth
    have hchain := ih ht.2 "" depth place stop hempty hplace hstop (by omega)
    rw [source_print]
    have hnode := printNode_apply (startsBare_name ht.1.identifier)
      (expression_name ht.1 (rest.source.toList ++ stop))
    refine chain_text (holdsTag_of_not_mem hbefore _) (.inr rfl)
      (.step (node_print hplace hnode) ?_ hchain)
    simp [printTag]
    omega
  | cond x yes no rest ihyes ihno ih =>
    obtain ⟨hx, hyes, hno, hrest⟩ := ht
    -- the bodies are shorter than the template, so that one level less is enough for them
    have hlength := length_source_cond x yes no rest
    obtain ⟨d, rfl⟩ : ∃ d, depth = d + 1 := Nat.exists_eq_succ_of_ne_zero (by omega)
    have hchain := ih hrest "" (d + 1) place stop hempty hplace hstop (by omega)
    have hyes : Tags.bodies (d + 1) place _ = _ := many_of_chain (ihyes hyes "" d place _ hempty
      hplace (.elseTag (no.source.toList ++ endifTag (rest.source.toList ++ stop))) (by omega))
    have hno := many_of_chain (ihno hno "" d place _ hempty hplace
      (.endifTag (rest.source.toList ++ stop)) (by omega))
    have hfirst := branch_apply (startsBare_name hx.identifier) (condition_name hx _) hyes
    rw [source_cond]
    refine chain_text (holdsTag_of_not_mem hbefore _) (.inr rfl)
      (.step (node_cond (condNode_apply hfirst hno)) ?_ hchain)
    simp [ifTag, elseTag, endifTag]
    omega
  | loop item container body rest ihbody ih =>
    obtain ⟨hitem, hcontainer, hbody, hrest⟩ := ht
    have hlength := length_source_loop item container body rest
    obtain ⟨d, rfl⟩ : ∃ d, depth = d + 1 := Nat.exists_eq_succ_of_ne_zero (by omega)
    have hchain := ih hrest "" (d + 1) place stop hempty hplace hstop (by omega)
    have hbody := many_of_chain (ihbody hbody "" d .loop _ hempty (by decide)
      (.endforTag (rest.source.toList ++ stop)) (by omega))
    rw [source_loop]
    refine chain_text (holdsTag_of_not_mem hbefore _) (.inr rfl)
      (.step (node_loop (loopNode_apply hitem hcontainer hbody)) ?_ hchain)
    simp [forTag, endforTag]
    omega

/-- A template does not begin with a comment. -/
theorem commentNode_source {t : Simple} (ht : t.Readable) :
    commentNode t.source.toList = none := by
  induction t with
  | done => rfl
  | text s rest ih =>
    rw [Simple.source, String.toList_append]
    cases hs : s.toList with
    | nil => exact ih ht.2
    | cons c cs =>
      have hc : c ≠ '{' := fun he => ht.1 (hs ▸ he ▸ List.mem_cons_self)
      exact bind_of_none (delimiter_of_not_opens (by decide) rfl rfl (opensTag_of_ne hc _))
  | print x rest _ =>
    rw [← List.append_nil (Simple.print x rest).source.toList, source_print]
    rfl
  | cond x yes no rest _ _ _ =>
    rw [← List.append_nil (Simple.cond x yes no rest).source.toList, source_cond]
    rfl
  | loop item container body rest _ _ =>
    rw [← List.append_nil (Simple.loop item container body rest).source.toList, source_loop]
    rfl

/-- A page that does not begin with a comment has the nodes that are taken off it. -/
theorem page_of_chain {cs : List Char} {ns : List Node} (hcomment : commentNode cs = none)
    (hchain : Chain (node (Tags.bodies cs.length) .page) cs ns []) :
    Tags.page cs = some (ns, []) := by
  have hcomments : many commentNode cs = some ([], cs) := many_of_none hcomment
  have hnodes : many (node (Tags.bodies cs.length) .page <|> defineNode (Tags.bodies cs.length))
      cs = some (ns, []) :=
    many_of_chain (hchain.orElse rfl)
  unfold page
  dsimp only
  rw [bind_of_some hcomments, bind_of_some hnodes]
  rfl

/-- **The source of a template is read as its nodes.** -/
theorem page_source {t : Simple} (ht : t.Readable) :
    Tags.page t.source.toList = some (t.nodes "", []) := by
  have hchain := chain_nodes t ht "" t.source.toList.length .page [] (by decide) (by decide) .page
    (Nat.le_of_eq String.length_toList.symm)
  rw [List.append_nil] at hchain
  exact page_of_chain (commentNode_source ht) hchain

end Tags

/-! ## White space and names of blocks -/

/-- A node without wishes about white space that is no block and no definition. -/
structure Node.IsPlain (n : Node) : Prop where
  trimsBefore : n.trimsBefore = false
  trimsAfter : n.trimsAfter false = false
  tidy : tidyNode false false n = [n]
  blocks : blocksIn n = []
  definitions : (Page.mk "" [n]).definitions = []

/-- Nodes without wishes stay as they are. -/
theorem tidyNodes_of_plain {ns : List Node} (h : ∀ n ∈ ns, n.IsPlain) :
    tidyNodes false false ns = ns := by
  induction ns with
  | nil => rw [tidyNodes]
  | cons n ns ih =>
    have hn := h n List.mem_cons_self
    have hns := ih fun m hm => h m (List.mem_cons_of_mem _ hm)
    cases ns with
    | nil => rw [tidyNodes, hn.tidy]
    | cons m ms =>
      have hm := h m (List.mem_cons_of_mem _ List.mem_cons_self)
      rw [tidyNodes, hm.trimsBefore, hn.trimsAfter, hn.tidy, hns]
      rfl

theorem blocksOf_of_plain {ns : List Node} (h : ∀ n ∈ ns, n.IsPlain) : blocksOf ns = [] := by
  induction ns with
  | nil => rw [blocksOf]
  | cons n ns ih =>
    rw [blocksOf, (h n List.mem_cons_self).blocks,
      ih fun m hm => h m (List.mem_cons_of_mem _ hm)]
    rfl

theorem definitions_of_plain {ns : List Node} (h : ∀ n ∈ ns, n.IsPlain) (name : String) :
    (Page.mk name ns).definitions = [] := by
  rw [Page.definitions, List.filterMap_eq_nil_iff]
  intro n hn
  have hnone := (h n hn).definitions
  rw [Page.definitions, List.filterMap_eq_nil_iff] at hnone
  exact hnone n List.mem_cons_self

/-- A page of plain nodes is taken as it is read. -/
theorem read?_of_plain {text : String} {ns : List Node}
    (hpage : Tags.page text.toList = some (ns, [])) (hplain : ∀ n ∈ ns, n.IsPlain)
    (name : String) : Page.read? name text = some ⟨name, ns⟩ := by
  unfold Page.read?
  rw [hpage]
  dsimp only
  rw [tidyNodes_of_plain hplain, blocksOf_of_plain hplain, definitions_of_plain hplain]
  rfl

namespace Simple

theorem isPlain_of_mem_textNodes {s : String} {n : Node} (h : n ∈ textNodes s) : n.IsPlain := by
  unfold textNodes at h
  split at h
  · cases h
  · rw [List.mem_singleton] at h
    subst h
    exact ⟨rfl, rfl, by rw [tidyNode]; rfl, by rw [blocksIn]; simp, rfl⟩

theorem isPlain_print (e : Expr) : (Node.print edges e).IsPlain :=
  ⟨rfl, rfl, by rw [tidyNode], by rw [blocksIn]; simp, rfl⟩

theorem isPlain_cond (e : Expr) {yes no : List Node} (hyes : ∀ n ∈ yes, n.IsPlain)
    (hno : ∀ n ∈ no, n.IsPlain) :
    (Node.cond [.mk edges e yes] (some (.mk edges no)) edges).IsPlain := by
  refine ⟨rfl, rfl, ?_, by rw [blocksIn]; simp, rfl⟩
  have hyes' : tidyNodes edges.right edges.left yes = yes := tidyNodes_of_plain hyes
  have hno' : tidyNodes edges.right edges.left no = no := tidyNodes_of_plain hno
  rw [tidyNode, tidyBranches, hyes', hno']

theorem isPlain_loop (item : String) (e : Expr) {body : List Node}
    (hbody : ∀ n ∈ body, n.IsPlain) :
    (Node.forLoop edges none item e body none edges).IsPlain := by
  refine ⟨rfl, rfl, ?_, by rw [blocksIn]; simp, rfl⟩
  have hbody' : tidyNodes edges.right edges.left body = body := tidyNodes_of_plain hbody
  rw [tidyNode, hbody']

/-- Behind a text, plain nodes begin with a plain node. -/
theorem isPlain_append {before : String} {first : Node} {ns : List Node} (hfirst : first.IsPlain)
    (hns : ∀ n ∈ ns, n.IsPlain) : ∀ n ∈ textNodes before ++ first :: ns, n.IsPlain := by
  intro n hn
  rcases List.mem_append.1 hn with htext | hrest
  · exact isPlain_of_mem_textNodes htext
  · rcases List.mem_cons.1 hrest with rfl | hlater
    · exact hfirst
    · exact hns n hlater

/-- The nodes of a template have no wishes. -/
theorem isPlain_nodes (t : Simple) (before : String) : ∀ n ∈ t.nodes before, n.IsPlain := by
  induction t generalizing before with
  | done => exact fun n hn => isPlain_of_mem_textNodes hn
  | text s rest ih => exact ih _
  | print x rest ih => exact isPlain_append (isPlain_print _) (ih _)
  | cond x yes no rest ihyes ihno ih =>
    exact isPlain_append (isPlain_cond _ (ihyes _) (ihno _)) (ih _)
  | loop item container body rest ihbody ih =>
    exact isPlain_append (isPlain_loop _ _ (ihbody _)) (ih _)

/-- **The page of a template has its nodes.** -/
theorem read?_source {t : Simple} (ht : t.Readable) (name : String) :
    Page.read? name t.source = some ⟨name, t.nodes ""⟩ :=
  read?_of_plain (Tags.page_source ht) (isPlain_nodes t "") name

end Simple

end Scaffold.Template
