import RealmConvergence.Text.Bytes
import RealmConvergence.Yaml.Token.Stream

/-!
# The events of a document

The tokens of a document are read as a tree and written down in the order of the tree: a scalar or
an alias is one event, a collection one event at each end. A node that is left out is an empty plain
scalar. A text holds one document at most.
-/

set_option autoImplicit false

namespace RealmConvergence.Yaml

/-- The tag of a node. -/
inductive NodeTag where
  /-- A tag of the document's own, without the exclamation marks before its name. -/
  | own (name : String)
  /-- A tag of the document's own whose bytes are no text. It is as good as none. -/
  | unreadable
  /-- A tag that is known everywhere; the empty one if its bytes are no text. -/
  | global (name : String)
deriving DecidableEq

/-- What stands before a node: a name for it and a tag. -/
structure Properties where
  /-- The name that aliases use. -/
  anchor : Option String := none
  /-- The tag, its handle replaced by what it stands for. -/
  tag : Option NodeTag := none
deriving DecidableEq

/-- Whether nothing stands before a node. -/
def Properties.isEmpty (properties : Properties) : Bool :=
  properties.anchor.isNone && properties.tag.isNone

/-- An event. -/
inductive Event where
  /-- A repetition of an anchored node. -/
  | alias (name : String)
  /-- A scalar. -/
  | scalar (properties : Properties) (text : String) (plain : Bool)
  /-- A sequence starts. -/
  | sequenceStart (properties : Properties)
  /-- A sequence ends. -/
  | sequenceEnd
  /-- A mapping starts. -/
  | mappingStart (properties : Properties)
  /-- A mapping ends. -/
  | mappingEnd
deriving DecidableEq

namespace NodeTag

/-- A tag without the exclamation mark before its name. -/
def withoutMark : List Char → List Char
  | '!' :: name :: rest => name :: rest
  | tag => tag

/-- The tag that bytes write. An exclamation mark makes it one of the document's own; up to two of
them may stand before its name. -/
def ofBytes (bytes : List UInt8) : NodeTag :=
  match Text.ofBytes? bytes with
  | none => if bytes.head? = some '!'.toUInt8 then .unreadable else .global ""
  | some text =>
    if text.toList.head? = some '!' then
      .own (String.ofList (withoutMark (withoutMark text.toList)))
    else .global text

end NodeTag

namespace Event

/-- The node that is left out. -/
def empty : Event := .scalar {} "" true

/-- What tag handles stand for. -/
abbrev Handles := List (String × List UInt8)

/-- The handles that every document knows. -/
def standardHandles : Handles :=
  [("!", "!".toList.flatMap String.utf8EncodeChar),
    ("!!", "tag:yaml.org,2002:".toList.flatMap String.utf8EncodeChar)]

/-- A tag with its handle replaced. -/
def resolveTag (handles : Handles) (handle : String) (suffix : List UInt8) :
    Except ReadError NodeTag :=
  if handle.isEmpty then .ok (.ofBytes suffix)
  else
    match handles.lookup handle with
    | some start => .ok (.ofBytes (start ++ suffix))
    | none => .error .badTag

/-- An anchor and a tag, in either order, before a node. -/
def properties (handles : Handles) (tokens : List Token) :
    Except ReadError (Properties × List Token) :=
  match tokens with
  | .anchor name :: .tag handle suffix :: rest =>
    (resolveTag handles handle suffix).map fun tag => (⟨some name, some tag⟩, rest)
  | .tag handle suffix :: .anchor name :: rest =>
    (resolveTag handles handle suffix).map fun tag => (⟨some name, some tag⟩, rest)
  | .anchor name :: rest => .ok (⟨some name, none⟩, rest)
  | .tag handle suffix :: rest =>
    (resolveTag handles handle suffix).map fun tag => (⟨none, some tag⟩, rest)
  | rest => .ok ({}, rest)

/-- Whether a value of a block mapping is left out before these tokens. -/
def endsPair : List Token → Bool
  | .key :: _ => true
  | .value :: _ => true
  | .blockEnd :: _ => true
  | _ => false

/-- Whether a node inside braces or brackets is left out before these tokens. -/
def endsFlowNode (closing : Token) : List Token → Bool
  | .flowEntry :: _ => true
  | token :: _ => token == closing
  | [] => false

mutual
/-- A node. `block` says whether block collections may stand here, `indentless` whether a sequence
may start here without being further in. -/
def node (handles : Handles) :
    (fuel : Nat) → (block indentless : Bool) → List Token →
      Except ReadError (List Event × List Token)
  | 0, _, _, _ => .error .badStructure
  | fuel + 1, block, indentless, tokens => do
    match tokens with
    | .alias name :: rest => pure ([.alias name], rest)
    | _ =>
      let (before, rest) ← properties handles tokens
      match rest with
      | .scalar text plain :: rest => pure ([.scalar before text plain], rest)
      | .flowSequenceStart :: rest =>
        let (events, rest) ← flowSequence handles fuel true rest
        pure (.sequenceStart before :: events, rest)
      | .flowMappingStart :: rest =>
        let (events, rest) ← flowMapping handles fuel true rest
        pure (.mappingStart before :: events, rest)
      | token :: others =>
        if indentless && token == .blockEntry then
          let (events, rest) ← indentlessSequence handles fuel rest
          pure (.sequenceStart before :: events, rest)
        else if block && token == .blockSequenceStart then
          let (events, rest) ← blockSequence handles fuel others
          pure (.sequenceStart before :: events, rest)
        else if block && token == .blockMappingStart then
          let (events, rest) ← blockMapping handles fuel others
          pure (.mappingStart before :: events, rest)
        else if before.isEmpty then .error .badStructure
        else pure ([.scalar before "" true], rest)
      | [] => .error .badStructure

/-- The entries of a block sequence and its end. -/
def blockSequence (handles : Handles) :
    (fuel : Nat) → List Token → Except ReadError (List Event × List Token)
  | 0, _ => .error .badStructure
  | fuel + 1, tokens => do
    match tokens with
    | .blockEnd :: rest => pure ([.sequenceEnd], rest)
    | .blockEntry :: rest =>
      let (entry, rest) ← match rest with
        | .blockEntry :: _ => pure ([empty], rest)
        | .blockEnd :: _ => pure ([empty], rest)
        | _ => node handles fuel true false rest
      let (others, rest) ← blockSequence handles fuel rest
      pure (entry ++ others, rest)
    | _ => .error .badStructure

/-- The entries of a sequence that is not further in than the mapping around it. -/
def indentlessSequence (handles : Handles) :
    (fuel : Nat) → List Token → Except ReadError (List Event × List Token)
  | 0, _ => .error .badStructure
  | fuel + 1, tokens => do
    match tokens with
    | .blockEntry :: rest =>
      let (entry, rest) ← match rest with
        | .blockEntry :: _ => pure ([empty], rest)
        | _ => if endsPair rest then pure ([empty], rest) else node handles fuel true false rest
      let (others, rest) ← indentlessSequence handles fuel rest
      pure (entry ++ others, rest)
    | _ => pure ([.sequenceEnd], tokens)

/-- The pairs of a block mapping and its end. -/
def blockMapping (handles : Handles) :
    (fuel : Nat) → List Token → Except ReadError (List Event × List Token)
  | 0, _ => .error .badStructure
  | fuel + 1, tokens => do
    match tokens with
    | .blockEnd :: rest => pure ([.mappingEnd], rest)
    | .key :: rest =>
      let (key, rest) ←
        if endsPair rest then pure ([empty], rest) else node handles fuel true true rest
      let (value, rest) ← match rest with
        | .value :: rest =>
          if endsPair rest then pure ([empty], rest) else node handles fuel true true rest
        | _ => pure ([empty], rest)
      let (others, rest) ← blockMapping handles fuel rest
      pure (key ++ value ++ others, rest)
    | _ => .error .badStructure

/-- The entries of a sequence in brackets and its end. An entry may be a single pair. -/
def flowSequence (handles : Handles) :
    (fuel : Nat) → (first : Bool) → List Token → Except ReadError (List Event × List Token)
  | 0, _, _ => .error .badStructure
  | fuel + 1, first, tokens => do
    match tokens with
    | .flowSequenceEnd :: rest => pure ([.sequenceEnd], rest)
    | _ =>
      let rest ←
        if first then pure tokens
        else match tokens with
          | .flowEntry :: rest => pure rest
          | _ => .error .badStructure
      match rest with
      | .flowSequenceEnd :: rest => pure ([.sequenceEnd], rest)
      | .key :: rest =>
        let (pair, rest) ← flowPair handles fuel rest
        let (others, rest) ← flowSequence handles fuel false rest
        pure (.mappingStart {} :: pair ++ .mappingEnd :: others, rest)
      | _ =>
        let (entry, rest) ← node handles fuel false false rest
        let (others, rest) ← flowSequence handles fuel false rest
        pure (entry ++ others, rest)

/-- A key and its value as an entry of a sequence in brackets. A key that is left out takes the
token after it along. -/
def flowPair (handles : Handles) :
    (fuel : Nat) → List Token → Except ReadError (List Event × List Token)
  | 0, _ => .error .badStructure
  | fuel + 1, tokens => do
    let (key, rest) ← match tokens with
      | .value :: rest => pure ([empty], rest)
      | .flowEntry :: rest => pure ([empty], rest)
      | .flowSequenceEnd :: rest => pure ([empty], rest)
      | _ => node handles fuel false false tokens
    match rest with
    | .value :: rest =>
      if endsFlowNode .flowSequenceEnd rest then pure (key ++ [empty], rest)
      else
        let (value, rest) ← node handles fuel false false rest
        pure (key ++ value, rest)
    | _ => pure (key ++ [empty], rest)

/-- The pairs of a mapping in braces and its end. A key without a value has an empty one. -/
def flowMapping (handles : Handles) :
    (fuel : Nat) → (first : Bool) → List Token → Except ReadError (List Event × List Token)
  | 0, _, _ => .error .badStructure
  | fuel + 1, first, tokens => do
    match tokens with
    | .flowMappingEnd :: rest => pure ([.mappingEnd], rest)
    | _ =>
      let rest ←
        if first then pure tokens
        else match tokens with
          | .flowEntry :: rest => pure rest
          | _ => .error .badStructure
      match rest with
      | .flowMappingEnd :: rest => pure ([.mappingEnd], rest)
      | .key :: rest =>
        let (key, rest) ← match rest with
          | .value :: _ => pure ([empty], rest)
          | _ =>
            if endsFlowNode .flowMappingEnd rest then pure ([empty], rest)
            else node handles fuel false false rest
        let (value, rest) ← match rest with
          | .value :: rest =>
            if endsFlowNode .flowMappingEnd rest then pure ([empty], rest)
            else node handles fuel false false rest
          | _ => pure ([empty], rest)
        let (others, rest) ← flowMapping handles fuel false rest
        pure (key ++ value ++ others, rest)
      | _ =>
        let (key, rest) ← node handles fuel false false rest
        let (others, rest) ← flowMapping handles fuel false rest
        pure (key ++ empty :: others, rest)
end

/-- The directives before a document. A version other than 1.1 and 1.2, a second version and a
handle given twice are refused. -/
def directives (version : Bool) (given : Handles) :
    List Token → Except ReadError (Handles × List Token)
  | .version major minor :: rest =>
    if version || major ≠ 1 || (minor ≠ 1 && minor ≠ 2) then .error .badDirective
    else directives true given rest
  | .tagHandle handle start :: rest =>
    if (given.lookup handle).isSome then .error .badDirective
    else directives version (given ++ [(handle, start)]) rest
  | rest => .ok (given, rest)

/-- Whether a document ends before these tokens. -/
def endsDocument : List Token → Bool
  | .version _ _ :: _ => true
  | .tagHandle _ _ :: _ => true
  | .documentStart :: _ => true
  | .documentEnd :: _ => true
  | .streamEnd :: _ => true
  | _ => false

/-- Whether nothing but document ends follows. -/
def nothingFollows (tokens : List Token) : Bool :=
  match tokens.dropWhile (· == .documentEnd) with
  | [.streamEnd] => true
  | _ => false

/-- The events of the only document of a text, none where the text holds no document. -/
def ofTokens (tokens : List Token) : Except ReadError (Option (List Event)) := do
  let fuel := 4 * tokens.length + 16
  match tokens with
  | [.streamEnd] => pure none
  | _ =>
    let (given, rest) ← directives false [] tokens
    let handles := given ++ standardHandles
    let starts := rest.length < tokens.length || rest.head? == some .documentStart
    let (events, rest) ←
      if starts then
        match rest with
        | .documentStart :: rest =>
          if endsDocument rest then pure ([empty], rest) else node handles fuel true false rest
        | _ => .error .badStructure
      else node handles fuel true false rest
    if nothingFollows rest then pure (some events) else .error .severalDocuments

end Event

end RealmConvergence.Yaml
