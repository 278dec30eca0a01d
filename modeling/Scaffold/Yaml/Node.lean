import Scaffold.Yaml.Scanner

/-!
# Nodes

The tokens of a text make up a tree of nodes: scalars, sequences and mappings, with tags and
anchors, and aliases of anchored nodes. The tree of a malformed text ends in a node that marks where
it breaks off, so that what comes before it can still be looked at.
-/

namespace Scaffold.Yaml

/-- The number of a node's anchor and its tag. -/
structure Properties where
  anchor : Option Nat
  tag : Option String
  deriving Repr, DecidableEq

/-- A node of a document. -/
inductive Node where
  | scalar (properties : Properties) (plain : Bool) (text : String)
  | sequence (properties : Properties) (items : List Node)
  | mapping (properties : Properties) (entries : List (Node × Node))
  | alias (number : Nat)
  /-- Where a malformed text breaks off. -/
  | cut
  deriving Repr, Inhabited

/-- A text without a node: an empty plain scalar. -/
def Node.void : Node := .scalar ⟨none, none⟩ true ""

/-! ## Reading nodes -/

/-- What is left of the tokens, the anchors named so far with their numbers, and what the handles of
tags stand for. -/
structure Remaining where
  tokens : List Token
  anchors : List (String × Nat)
  handles : List (String × String)

namespace Remaining

/-- Without the first token. -/
def advance (r : Remaining) : Remaining := { r with tokens := r.tokens.drop 1 }

/-- The first token. -/
def head? (r : Remaining) : Option Token := r.tokens.head?

/-- Whether the first token is one of some tokens. -/
def startsWithAny (r : Remaining) (tokens : List Token) : Bool :=
  match r.head? with
  | some t => tokens.contains t
  | none => false

/-- Gives the next number to an anchor. There are as many numbers as names, so that a name that is
used again leaves its number to the next new name. -/
def defineAnchor (r : Remaining) (name : String) : Nat × Remaining :=
  let number := r.anchors.length
  (number, { r with anchors := (name, number) :: r.anchors.filter (·.1 != name) })

end Remaining

/-- Something read from tokens and what is left of them; nothing is left if the text broke off. -/
abbrev Parsed (α : Type) := α × Option Remaining

/-- Where the text breaks off. -/
def broken : Parsed Node := (.cut, none)

/-- The anchor and the tag before a node, each at most once and in either order. -/
structure Decoration where
  anchor : Option String
  tag : Option (String × String)

/-- Reads an anchor and a tag. -/
def decoration (r : Remaining) : Decoration × Remaining :=
  match r.tokens with
  | .anchor a :: .tag h s :: rest => (⟨some a, some (h, s)⟩, { r with tokens := rest })
  | .tag h s :: .anchor a :: rest => (⟨some a, some (h, s)⟩, { r with tokens := rest })
  | .anchor a :: rest => (⟨some a, none⟩, { r with tokens := rest })
  | .tag h s :: rest => (⟨none, some (h, s)⟩, { r with tokens := rest })
  | _ => (⟨none, none⟩, r)

/-- The full tag; `none` if its handle stands for nothing. -/
def fullTag? (handles : List (String × String)) : Option (String × String) → Option (Option String)
  | none => some none
  | some (handle, suffix) =>
    if handle = "" then some (some suffix)
    else (handles.lookup handle).map fun lead => some (lead ++ suffix)

/-- Numbers the anchor of a node. -/
def properties (d : Decoration) (tag : Option String) (r : Remaining) : Properties × Remaining :=
  match d.anchor with
  | some name =>
    let (number, r) := r.defineAnchor name
    (⟨some number, tag⟩, r)
  | none => (⟨none, tag⟩, r)

/-- A scalar keeps its tag unless that only says that it is not to be resolved by its form. -/
def scalarNode (p : Properties) (plain : Bool) (text : String) : Node :=
  .scalar (if p.tag = some "!" then { p with tag := none } else p) plain text

/-- Reads a node unless one of some tokens comes next, which leaves an empty scalar. -/
def nodeUnless (read : Remaining → Parsed Node) (stops : List Token) (r : Remaining) :
    Parsed Node :=
  if r.tokens.isEmpty then broken
  else if r.startsWithAny stops then (.void, some r)
  else read r

/-- Reads the value of an entry; without the token that begins one it is an empty scalar. -/
def valueUnless (read : Remaining → Parsed Node) (stops : List Token) (r : Remaining) :
    Parsed Node :=
  match r.head? with
  | some .value => nodeUnless read stops r.advance
  | some _ => (.void, some r)
  | none => broken

/-- Reads a pair in a sequence in brackets, behind the beginning of its key. A key that is missing
takes the token in its place with it. -/
def pair (read : Remaining → Parsed Node) (r : Remaining) : Parsed Node :=
  let key : Parsed Node :=
    if r.startsWithAny [.value, .flowEntry, .closeSequence] then (.void, some r.advance)
    else read r
  match key with
  | (key, none) => (.mapping ⟨none, none⟩ [(key, .cut)], none)
  | (key, some r) =>
    let (value, rest) := valueUnless read [.flowEntry, .closeSequence] r
    (.mapping ⟨none, none⟩ [(key, value)], rest)

mutual

/-- Reads a node. `block` tells whether a block may begin here, `indentless` whether the entries of
a sequence may stand here without being indented. -/
def node : (fuel : Nat) → (block indentless : Bool) → Remaining → Parsed Node
  | 0, _, _, _ => broken
  | fuel + 1, block, indentless, r =>
    match r.tokens with
    | .alias name :: _ =>
      match r.anchors.lookup name with
      | some number => (.alias number, some r.advance)
      | none => broken
    | _ =>
      let (d, r) := decoration r
      match fullTag? r.handles d.tag with
      | none => broken
      | some tag =>
        let (p, numbered) := properties d tag r
        match r.head? with
        | some (.scalar plain text) => (scalarNode p plain text, some numbered.advance)
        | some .openSequence =>
          let (items, rest) := flowItems fuel true numbered.advance
          (.sequence p items, rest)
        | some .openMapping =>
          let (entries, rest) := flowEntries fuel true numbered.advance
          (.mapping p entries, rest)
        | token =>
          if indentless ∧ token = some .blockEntry then
            let (items, rest) := indentlessItems fuel numbered
            (.sequence p items, rest)
          else if block ∧ token = some .blockSequence then
            let (items, rest) := blockItems fuel numbered.advance
            (.sequence p items, rest)
          else if block ∧ token = some .blockMapping then
            let (entries, rest) := blockEntries fuel numbered.advance
            (.mapping p entries, rest)
          else if token = none then broken
          else if d.anchor.isSome ∨ d.tag.isSome then (.scalar p true "", some numbered)
          else broken

/-- Reads the items of a block sequence. -/
def blockItems : (fuel : Nat) → Remaining → Parsed (List Node)
  | 0, _ => ([.cut], none)
  | fuel + 1, r =>
    match r.head? with
    | some .blockEntry =>
      match nodeUnless (node fuel true false) [.blockEntry, .blockEnd] r.advance with
      | (item, none) => ([item], none)
      | (item, some r) =>
        let (items, rest) := blockItems fuel r
        (item :: items, rest)
    | some .blockEnd => ([], some r.advance)
    | _ => ([.cut], none)

/-- Reads the items of a sequence that is no further indented than the mapping it stands in. -/
def indentlessItems : (fuel : Nat) → Remaining → Parsed (List Node)
  | 0, _ => ([.cut], none)
  | fuel + 1, r =>
    match r.head? with
    | some .blockEntry =>
      match nodeUnless (node fuel true false) [.blockEntry, .key, .value, .blockEnd]
        r.advance with
      | (item, none) => ([item], none)
      | (item, some r) =>
        let (items, rest) := indentlessItems fuel r
        (item :: items, rest)
    | some _ => ([], some r)
    | none => ([.cut], none)

/-- Reads the entries of a block mapping. -/
def blockEntries : (fuel : Nat) → Remaining → Parsed (List (Node × Node))
  | 0, _ => ([(.cut, .cut)], none)
  | fuel + 1, r =>
    match r.head? with
    | some .key =>
      match nodeUnless (node fuel true true) [.key, .value, .blockEnd] r.advance with
      | (key, none) => ([(key, .cut)], none)
      | (key, some r) =>
        match valueUnless (node fuel true true) [.key, .value, .blockEnd] r with
        | (value, none) => ([(key, value)], none)
        | (value, some r) =>
          let (entries, rest) := blockEntries fuel r
          ((key, value) :: entries, rest)
    | some .blockEnd => ([], some r.advance)
    | _ => ([(.cut, .cut)], none)

/-- Reads the items of a sequence in brackets. -/
def flowItems : (fuel : Nat) → (first : Bool) → Remaining → Parsed (List Node)
  | 0, _, _ => ([.cut], none)
  | fuel + 1, first, r =>
    if r.head? = some .closeSequence then ([], some r.advance)
    else if ¬ first ∧ r.head? ≠ some .flowEntry then ([.cut], none)
    else
      let r := if first then r else r.advance
      match r.head? with
      | none => ([.cut], none)
      | some .closeSequence => ([], some r.advance)
      | some token =>
        let item := if token = .key then pair (node fuel false false) r.advance
          else node fuel false false r
        match item with
        | (item, none) => ([item], none)
        | (item, some r) =>
          let (items, rest) := flowItems fuel false r
          (item :: items, rest)

/-- Reads the entries of a mapping in brackets. -/
def flowEntries : (fuel : Nat) → (first : Bool) → Remaining → Parsed (List (Node × Node))
  | 0, _, _ => ([(.cut, .cut)], none)
  | fuel + 1, first, r =>
    if r.head? = some .closeMapping then ([], some r.advance)
    else if ¬ first ∧ r.head? ≠ some .flowEntry then ([(.cut, .cut)], none)
    else
      let r := if first then r else r.advance
      match r.head? with
      | none => ([(.cut, .cut)], none)
      | some .closeMapping => ([], some r.advance)
      | some .key =>
        match nodeUnless (node fuel false false) [.value, .flowEntry, .closeMapping] r.advance with
        | (key, none) => ([(key, .cut)], none)
        | (key, some r) =>
          match valueUnless (node fuel false false) [.flowEntry, .closeMapping] r with
          | (value, none) => ([(key, value)], none)
          | (value, some r) =>
            let (entries, rest) := flowEntries fuel false r
            ((key, value) :: entries, rest)
      | some _ =>
        match node fuel false false r with
        | (key, none) => ([(key, .cut)], none)
        | (key, some r) =>
          let (entries, rest) := flowEntries fuel false r
          ((key, .void) :: entries, rest)

end

/-! ## Documents -/

/-- What the handles of tags stand for unless a directive says otherwise. -/
def standardHandles : List (String × String) := [("!", "!"), ("!!", "tag:yaml.org,2002:")]

/-- Reads the directives before a document, with the handles defined so far: the version at most
once, and only known ones, and each handle at most once. -/
def directives (versioned : Bool) (handles : List (String × String)) :
    List Token → Option (List (String × String) × List Token)
  | .version major minor :: rest =>
    if versioned ∨ major ≠ 1 ∨ (minor ≠ 1 ∧ minor ≠ 2) then none
    else directives true handles rest
  | .tagHandle handle lead :: rest =>
    if (handles.lookup handle).isSome then none
    else directives versioned ((handle, lead) :: handles) rest
  | tokens => some (handles ++ standardHandles, tokens)

/-- A document: its only node, and whether nothing but the end of the text follows it. -/
structure Document where
  root : Node
  complete : Bool
  deriving Repr

/-- Whether only the end of the text is left. -/
def onlyEnd : List Token → Bool
  | .documentEnd :: rest => onlyEnd rest
  | .streamEnd :: _ => true
  | _ => false

/-- Bounds how deeply reading some tokens can nest. -/
def parseFuel (tokens : List Token) : Nat := 4 * tokens.length + 4

/-- The document that some tokens make up. -/
def documentOf (tokens : List Token) : Document :=
  match directives false [] tokens with
  | none => ⟨.cut, false⟩
  | some (handles, rest) =>
    let r : Remaining := ⟨rest, [], handles⟩
    let body : Parsed Node :=
      match rest with
      | .documentStart :: _ =>
        nodeUnless (node (parseFuel tokens) true false)
          [.documentStart, .documentEnd, .streamEnd] r.advance
      | token :: _ =>
        if rest.length < tokens.length then broken
        else if token = .streamEnd then (.void, some r)
        else node (parseFuel tokens) true false r
      | [] => broken
    match body with
    | (root, some r) => ⟨root, onlyEnd r.tokens⟩
    | (root, none) => ⟨root, false⟩

/-! ## Anchored nodes -/

mutual

/-- The number of tokens' worth of content in a node: one for a scalar or alias, two for what has a
beginning and an end. -/
def Node.weight : Node → Nat
  | .scalar _ _ _ | .alias _ | .cut => 1
  | .sequence _ items => 2 + Node.weights items
  | .mapping _ entries => 2 + Node.pairWeights entries

/-- The weight of some nodes. -/
def Node.weights : List Node → Nat
  | [] => 0
  | n :: rest => n.weight + Node.weights rest

/-- The weight of the keys and values of some entries. -/
def Node.pairWeights : List (Node × Node) → Nat
  | [] => 0
  | (k, v) :: rest => k.weight + v.weight + Node.pairWeights rest

end

mutual

/-- The anchored nodes in a node, each with its number, in the order in which they begin. -/
def Node.anchored : Node → List (Nat × Node)
  | .scalar p plain text => (p.anchor.map fun n => (n, Node.scalar p plain text)).toList
  | .sequence p items =>
    (p.anchor.map fun n => (n, Node.sequence p items)).toList ++ Node.anchoredItems items
  | .mapping p entries =>
    (p.anchor.map fun n => (n, Node.mapping p entries)).toList ++ Node.anchoredEntries entries
  | .alias _ | .cut => []

/-- The anchored nodes in some items. -/
def Node.anchoredItems : List Node → List (Nat × Node)
  | [] => []
  | n :: rest => n.anchored ++ Node.anchoredItems rest

/-- The anchored nodes in some entries. -/
def Node.anchoredEntries : List (Node × Node) → List (Nat × Node)
  | [] => []
  | (k, v) :: rest => k.anchored ++ v.anchored ++ Node.anchoredEntries rest

end

/-- The node that an alias of a number stands for: the last one that has the number. -/
def Document.anchored? (document : Document) (number : Nat) : Option Node :=
  document.root.anchored.reverse.lookup number

/-- The document of a text. -/
def Document.ofText (text : String) : Document := documentOf (tokensOf text.toList)

end Scaffold.Yaml
