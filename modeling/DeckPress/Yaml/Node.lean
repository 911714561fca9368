import DeckPress.Yaml.Token

/-!
# YAML nodes

The second half of reading YAML: tokens become a tree of scalars, sequences and mappings. An alias is a
leaf that holds the number of an anchor, and the document knows which node each number stands for, so a
node may stand inside itself. An alias must follow the start of a node with its name. A text holds at
most one document.
-/

namespace DeckPress.Yaml

/-- A YAML node. The tag is the resolved one, absent where none is written. -/
inductive Node where
  | scalar (text : String) (style : Style) (tag : Option Tag)
  | seq (items : List Node) (tag : Option Tag)
  | map (fields : List (Node × Node)) (tag : Option Tag)
  | alias (anchor : Nat)
  deriving Repr, Inhabited

namespace Node

/-- The node that stands where nothing is written. -/
def empty : Node := .scalar "" .plain none

mutual

/-- How many marks a node consists of: one for a scalar or an alias, two for the ends of a collection. -/
def size : Node → Nat
  | .scalar .. | .alias _ => 1
  | .seq items _ => sizeOfItems items + 2
  | .map fields _ => sizeOfFields fields + 2

def sizeOfItems : List Node → Nat
  | [] => 0
  | n :: rest => n.size + sizeOfItems rest

def sizeOfFields : List (Node × Node) → Nat
  | [] => 0
  | (k, v) :: rest => k.size + v.size + sizeOfFields rest

end

end Node

/-- A document: its root, and the nodes that the numbers of anchors stand for; of two with one number the
first counts. -/
structure Document where
  root : Node
  anchored : List (Nat × Node) := []
  deriving Repr, Inhabited

/-- What an alias stands for. A node that is no alias stands for itself. -/
def Document.target? (d : Document) : Node → Option Node
  | .alias n => d.anchored.lookup n
  | node => some node

/-- What is known while the tokens are read. -/
structure Context where
  /-- The numbers that the names stand for. A name gets the count of the names known before, also when it
  is given again; two names may so come to share a number. -/
  numbers : List (String × Nat) := []
  /-- The numbers in the order in which anchors were met, last one first. -/
  met : List Nat := []
  /-- The nodes read to their end that have anchors, with the count of anchors met before. -/
  nodes : List (Nat × Node) := []
  /-- What tag handles stand for. -/
  handles : List (String × Tag)

/-- The handles every document knows. -/
def defaultHandles : List (String × Tag) := [("!", ⟨"!", true⟩), ("!!", ⟨"tag:yaml.org,2002:", true⟩)]

namespace Context

/-- Notes an anchor at the start of its node. -/
def meet (ctx : Context) (name : String) : Context :=
  let number := ctx.numbers.length
  let numbers := match ctx.numbers.lookup name with
    | some _ => ctx.numbers.map fun (a, n) => (a, if a = name then number else n)
    | none => ctx.numbers ++ [(name, number)]
  { ctx with numbers, met := number :: ctx.met }

/-- Notes the node of an anchor; `earlier` anchors were met before it. -/
def finish (ctx : Context) (earlier : Nat) (node : Node) : Context :=
  { ctx with nodes := (earlier, node) :: ctx.nodes }

/-- The document of a root: a number stands for the node that got it last. -/
def document (ctx : Context) (root : Node) : Document :=
  let places := ctx.met.zip (List.range ctx.met.length).reverse
  { root, anchored := places.filterMap fun (n, k) => (ctx.nodes.lookup k).map (n, ·) }

/-- The full tag; `none` outside for an unknown handle. A tag without handle is complete. -/
def resolveTag? (ctx : Context) : Option (String × Tag) → Option (Option Tag)
  | none => some none
  | some (handle, suffix) =>
    if handle.isEmpty then some (some suffix)
    else (ctx.handles.lookup handle).map fun full => some (full.append suffix)

end Context

/-- The properties in front of a node: at most one anchor and one tag, in either order. -/
def readProperties : List Token → Option String × Option (String × Tag) × List Token
  | .anchor a :: .tag h s :: ts => (some a, some (h, s), ts)
  | .tag h s :: .anchor a :: ts => (some a, some (h, s), ts)
  | .anchor a :: ts => (some a, none, ts)
  | .tag h s :: ts => (none, some (h, s), ts)
  | ts => (none, none, ts)

/-- The result of reading: a value, the context after it, and the tokens left. -/
abbrev Read (α : Type) := Option (α × Context × List Token)

mutual

/-- Reads a node. In block context block collections may follow; where `indentless` holds, a sequence
may stand at the indentation of its parent. -/
def readNode? (block indentless : Bool) : Nat → Context → List Token → Read Node
  | 0, _, _ => none
  | fuel + 1, ctx, ts =>
    match ts with
    | .alias name :: rest =>
      (ctx.numbers.lookup name).map fun n => (.alias n, ctx, rest)
    | _ =>
      let (anchor, tag, rest) := readProperties ts
      match ctx.resolveTag? tag with
      | none => none
      | some tag =>
        let earlier := ctx.met.length
        let inner := match anchor with
          | some a => ctx.meet a
          | none => ctx
        match readContent? block indentless fuel tag anchor.isSome inner rest with
        | none => none
        | some (node, ctx, rest) =>
          some (node, if anchor.isSome then ctx.finish earlier node else ctx, rest)

/-- Reads what follows the properties of a node. -/
def readContent? (block indentless : Bool) : Nat → Option Tag → Bool → Context → List Token →
    Read Node
  | 0, _, _, _, _ => none
  | fuel + 1, tag, anchored, ctx, ts =>
    match ts with
    | .scalar text style :: rest =>
      some (.scalar text style tag, ctx, rest)
    | .flowSequenceStart :: rest =>
      (readFlowItems? true fuel ctx rest).map fun (items, ctx, rest) => (.seq items tag, ctx, rest)
    | .flowMappingStart :: rest =>
      (readFlowFields? true fuel ctx rest).map fun (fields, ctx, rest) => (.map fields tag, ctx, rest)
    | _ =>
      match block, indentless, ts with
      | true, _, .blockSequenceStart :: rest =>
        (readBlockItems? fuel ctx rest).map fun (items, ctx, rest) => (.seq items tag, ctx, rest)
      | true, _, .blockMappingStart :: rest =>
        (readBlockFields? fuel ctx rest).map fun (fields, ctx, rest) => (.map fields tag, ctx, rest)
      | _, true, .blockEntry :: _ =>
        (readIndentlessItems? fuel ctx ts).map fun (items, ctx, rest) => (.seq items tag, ctx, rest)
      | _, _, _ =>
        if anchored || tag.isSome then some (.scalar "" .plain tag, ctx, ts)
        else none

/-- The entries of a block sequence up to its end. -/
def readBlockItems? : Nat → Context → List Token → Read (List Node)
  | 0, _, _ => none
  | fuel + 1, ctx, ts =>
    match ts with
    | .blockEntry :: rest =>
      let item : Read Node := match rest with
        | .blockEntry :: _ => some (.empty, ctx, rest)
        | .blockEnd :: _ => some (.empty, ctx, rest)
        | _ => readNode? true false fuel ctx rest
      match item with
      | none => none
      | some (node, ctx, rest) =>
        (readBlockItems? fuel ctx rest).map fun (items, ctx, rest) => (node :: items, ctx, rest)
    | .blockEnd :: rest => some ([], ctx, rest)
    | _ => none

/-- The entries of a sequence at the indentation of its parent; they end with the first token that is
no entry. -/
def readIndentlessItems? : Nat → Context → List Token → Read (List Node)
  | 0, _, _ => none
  | fuel + 1, ctx, ts =>
    match ts with
    | .blockEntry :: rest =>
      let item : Read Node := match rest with
        | .blockEntry :: _ => some (.empty, ctx, rest)
        | .key :: _ => some (.empty, ctx, rest)
        | .value :: _ => some (.empty, ctx, rest)
        | .blockEnd :: _ => some (.empty, ctx, rest)
        | _ => readNode? true false fuel ctx rest
      match item with
      | none => none
      | some (node, ctx, rest) =>
        (readIndentlessItems? fuel ctx rest).map fun (items, ctx, rest) => (node :: items, ctx, rest)
    | _ => some ([], ctx, ts)

/-- The fields of a block mapping up to its end. The sign of a key must be there or implied; a key behind
its sign and a value may be missing. -/
def readBlockFields? : Nat → Context → List Token → Read (List (Node × Node))
  | 0, _, _ => none
  | fuel + 1, ctx, ts =>
    match ts with
    | .blockEnd :: rest => some ([], ctx, rest)
    | _ =>
      let key : Read Node := match ts with
        | .key :: rest =>
          match rest with
          | .key :: _ => some (.empty, ctx, rest)
          | .value :: _ => some (.empty, ctx, rest)
          | .blockEnd :: _ => some (.empty, ctx, rest)
          | _ => readNode? true true fuel ctx rest
        | _ => none
      match key with
      | none => none
      | some (k, ctx, rest) =>
        let value : Read Node := match rest with
          | .value :: rest =>
            match rest with
            | .key :: _ => some (.empty, ctx, rest)
            | .value :: _ => some (.empty, ctx, rest)
            | .blockEnd :: _ => some (.empty, ctx, rest)
            | _ => readNode? true true fuel ctx rest
          | _ => some (.empty, ctx, rest)
        match value with
        | none => none
        | some (v, ctx, rest) =>
          (readBlockFields? fuel ctx rest).map fun (fields, ctx, rest) => ((k, v) :: fields, ctx, rest)

/-- The items of a flow sequence up to its end, with commas between them. A single pair is a mapping
of its own. -/
def readFlowItems? (first : Bool) : Nat → Context → List Token → Read (List Node)
  | 0, _, _ => none
  | fuel + 1, ctx, ts =>
    match ts with
    | .flowSequenceEnd :: rest => some ([], ctx, rest)
    | _ =>
      let start? : Option (List Token) := match first, ts with
        | true, _ => some ts
        | false, .flowEntry :: rest => some rest
        | false, _ => none
      match start? with
      | none => none
      | some (.flowSequenceEnd :: rest) => some ([], ctx, rest)
      | some (.key :: rest) =>
        match readFlowPair? fuel ctx rest with
        | none => none
        | some (pair, ctx, rest) =>
          (readFlowItems? false fuel ctx rest).map fun (items, ctx, rest) =>
            (.map [pair] none :: items, ctx, rest)
      | some ts =>
        match readNode? false false fuel ctx ts with
        | none => none
        | some (node, ctx, rest) =>
          (readFlowItems? false fuel ctx rest).map fun (items, ctx, rest) => (node :: items, ctx, rest)

/-- A pair inside a flow sequence, from behind its key token on. -/
def readFlowPair? : Nat → Context → List Token → Read (Node × Node)
  | 0, _, _ => none
  | fuel + 1, ctx, ts =>
    let key : Read Node := match ts with
      | .value :: rest => some (.empty, ctx, rest)
      | .flowEntry :: rest => some (.empty, ctx, rest)
      | .flowSequenceEnd :: rest => some (.empty, ctx, rest)
      | _ => readNode? false false fuel ctx ts
    match key with
    | none => none
    | some (k, ctx, rest) =>
      let value : Read Node := match rest with
        | .value :: rest =>
          match rest with
          | .flowEntry :: _ => some (.empty, ctx, rest)
          | .flowSequenceEnd :: _ => some (.empty, ctx, rest)
          | _ => readNode? false false fuel ctx rest
        | _ => some (.empty, ctx, rest)
      value.map fun (v, ctx, rest) => ((k, v), ctx, rest)

/-- The fields of a flow mapping up to its end, with commas between them. -/
def readFlowFields? (first : Bool) : Nat → Context → List Token → Read (List (Node × Node))
  | 0, _, _ => none
  | fuel + 1, ctx, ts =>
    match ts with
    | .flowMappingEnd :: rest => some ([], ctx, rest)
    | _ =>
      let start? : Option (List Token) := match first, ts with
        | true, _ => some ts
        | false, .flowEntry :: rest => some rest
        | false, _ => none
      match start? with
      | none => none
      | some (.flowMappingEnd :: rest) => some ([], ctx, rest)
      | some (.key :: rest) =>
        let key : Read Node := match rest with
          | .value :: _ => some (.empty, ctx, rest)
          | .flowEntry :: _ => some (.empty, ctx, rest)
          | .flowMappingEnd :: _ => some (.empty, ctx, rest)
          | _ => readNode? false false fuel ctx rest
        match key with
        | none => none
        | some (k, ctx, rest) =>
          let value : Read Node := match rest with
            | .value :: rest =>
              match rest with
              | .flowEntry :: _ => some (.empty, ctx, rest)
              | .flowMappingEnd :: _ => some (.empty, ctx, rest)
              | _ => readNode? false false fuel ctx rest
            | _ => some (.empty, ctx, rest)
          match value with
          | none => none
          | some (v, ctx, rest) =>
            (readFlowFields? false fuel ctx rest).map fun (fields, ctx, rest) =>
              ((k, v) :: fields, ctx, rest)
      | some ts =>
        match readNode? false false fuel ctx ts with
        | none => none
        | some (k, ctx, rest) =>
          (readFlowFields? false fuel ctx rest).map fun (fields, ctx, rest) =>
            ((k, .empty) :: fields, ctx, rest)

end

/-- Directives in front of a document: at most one version, which must be 1.1 or 1.2, and one meaning
for each tag handle. -/
def readDirectives? : Bool → List (String × Tag) → List Token →
    Option (List (String × Tag) × List Token)
  | versioned, handles, .versionDirective major minor :: ts =>
    if versioned || major ≠ 1 || (minor ≠ 1 && minor ≠ 2) then none
    else readDirectives? true handles ts
  | versioned, handles, .tagDirective handle start :: ts =>
    if (handles.lookup handle).isSome then none
    else readDirectives? versioned ((handle, start) :: handles) ts
  | _, handles, ts => some (handles ++ defaultHandles, ts)

/-- A document from its first token on. -/
def readRoot? (ctx : Context) (ts : List Token) : Option (Document × List Token) :=
  (readNode? true false (4 * ts.length + 4) ctx ts).map fun (node, ctx, rest) => (ctx.document node, rest)

/-- The content of a document after its start marker, which may be missing. -/
def readDocument? (ctx : Context) (ts : List Token) : Option (Document × List Token) :=
  match ts with
  | .streamEnd :: _ => some ({ root := .empty }, ts)
  | .documentEnd :: _ => some ({ root := .empty }, ts)
  | .documentStart :: _ => some ({ root := .empty }, ts)
  | .versionDirective .. :: _ => some ({ root := .empty }, ts)
  | .tagDirective .. :: _ => some ({ root := .empty }, ts)
  | _ => readRoot? ctx ts

/-- Whether nothing but document ends stands before the end of the text. -/
def endsHere : List Token → Bool
  | [.streamEnd] => true
  | .documentEnd :: ts => endsHere ts
  | _ => false

/-- Reads a text that holds at most one document: `some none` if it holds none. -/
def parse? (text : List Char) : Option (Option Document) := do
  let ts ← Token.scan? text
  match ts with
  | .streamEnd :: _ => return none
  | .versionDirective .. :: _ | .tagDirective .. :: _ | .documentStart :: _ =>
    let (handles, ts) ← readDirectives? false [] ts
    match ts with
    | .documentStart :: ts =>
      let (document, rest) ← readDocument? { handles } ts
      if endsHere rest then return some document else none
    | _ => none
  | _ =>
    let (document, rest) ← readRoot? { handles := defaultHandles } ts
    if endsHere rest then return some document else none

end DeckPress.Yaml
