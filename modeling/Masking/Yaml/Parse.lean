import Masking.Yaml.Node
import Masking.Yaml.Scalar

/-! YAML documents read from text: nodes in block style by their indentation and in flow style by
their brackets, with tags, anchors and aliases. -/

namespace Masking.Yaml

/-- What parsing goes on with: a place, and the nodes that have a name. -/
structure Cursor where
  place : Place
  anchors : List (String × Node)
deriving Inhabited

/-- A part of a document read from a cursor on, if it is well formed. -/
abbrev Scan (α : Type) := StateT Cursor Option α

namespace Scan

/-- The text is not well formed. -/
def fail {α : Type} : Scan α := fun _ => none

/-- The place that has been reached. -/
def place : Scan Place := do return (← get).place

/-- Go to a place. -/
def moveTo (place : Place) : Scan Unit := modify fun cursor => { cursor with place }

/-- Pass over some characters of the line. -/
def pass (count : Nat) : Scan Unit :=
  modify fun cursor => { cursor with place := cursor.place.past count }

/-- Pass over everything that is not part of a node. -/
def fill (flow tabs : Bool) : Scan Unit := do
  match (← place).skip flow tabs with
  | some place => moveTo place
  | none => fail

/-- Go on with what a reader of scalars has read. -/
def take (scanned : Option (List Char × Place)) : Scan String := do
  match scanned with
  | some (text, place) =>
      moveTo place
      return String.ofList text
  | none => fail

end Scan

/-- What may stand before a node: a tag, and a name by which it can be used again. -/
structure Properties where
  tag : Option String
  anchor : Option String
deriving Inhabited

namespace Properties

/-- No properties. -/
def none : Properties := ⟨.none, .none⟩

/-- Whether there are no properties. -/
def isNone (properties : Properties) : Bool :=
  properties.tag.isNone && properties.anchor.isNone

end Properties

/-- Give a node its properties. -/
def withProperties (properties : Properties) (node : Node) : Scan Node := do
  let node := node.withTag properties.tag
  match properties.anchor with
  | some name =>
      modify fun cursor => { cursor with anchors := (name, node) :: cursor.anchors }
      return node
  | none => return node

/-- Whether a character may stand in the name of a node. -/
def isNameChar (c : Char) : Bool :=
  c.isAlphanum || c = '-' || c = '_'

/-- Whether a character may stand in a tag. -/
def isTagChar (flow : Bool) (c : Char) : Bool :=
  !isGapChar c && c ≠ '\n' && !(flow && isBracketChar c)

/-- The tag that is written in some way. The short form of core types is written out, and other
short forms are not known. -/
def tagOf (written : List Char) : Option String :=
  match written with
  | '!' :: '!' :: suffix => some (coreTag ++ String.ofList suffix)
  | '!' :: '<' :: rest =>
      if rest.getLast? = some '>' then some (String.ofList rest.dropLast) else none
  | '!' :: suffix => if suffix.contains '!' then none else some (String.ofList written)
  | _ => none

/-- The name at the front of a text. -/
def readName : Scan String := do
  let name := (← Scan.place).rest.takeWhile isNameChar
  if name.isEmpty then Scan.fail
  else
    Scan.pass name.length
    return String.ofList name

/-- The properties before a node, in any order, with the filling after them. -/
def readProperties (flow : Bool) : Nat → Properties → Scan Properties
  | 0, properties => return properties
  | count + 1, properties => do
      match (← Scan.place).rest with
      | '&' :: _ =>
          if properties.anchor.isSome then Scan.fail
          else
            Scan.pass 1
            let name ← readName
            Scan.fill flow true
            readProperties flow count { properties with anchor := some name }
      | '!' :: rest =>
          if properties.tag.isSome then Scan.fail
          else
            let written := '!' :: rest.takeWhile (isTagChar flow)
            match tagOf written with
            | some tag =>
                Scan.pass written.length
                Scan.fill flow true
                readProperties flow count { properties with tag := some tag }
            | none => Scan.fail
      | _ => return properties

/-- The node with a name. -/
def readAlias : Scan Node := do
  Scan.pass 1
  let name ← readName
  match (← get).anchors.lookup name with
  | some node => return node
  | none => Scan.fail

/-- Whether a text begins with a sign that stands for itself. -/
def startsSign (sign : Char) : List Char → Bool
  | [] => false
  | c :: rest => c = sign && endsWord rest

mutual

/-- A node on a single line or within brackets, after its properties. -/
def inlineNode : Nat → (flow : Bool) → (floor : Nat) → Scan Node
  | 0, _, _ => Scan.fail
  | fuel + 1, flow, floor => do
      let place ← Scan.place
      match place.rest with
      | [] => Scan.fail
      | c :: rest =>
          if c = '[' then
            Scan.pass 1
            return .sequence none (← flowItems fuel)
          else if c = '\x7b' then
            Scan.pass 1
            return .mapping none (← flowMembers fuel)
          else if c = '"' then
            return .scalar none .quoted
              (← Scan.take (doubleFrom place.rest.length .none place.line (place.column + 1) rest))
          else if c = '\x27' then
            return .scalar none .quoted
              (← Scan.take (singleFrom .none place.line (place.column + 1) rest))
          else if c = '*' then readAlias
          else if startsPlain flow place.rest then
            return .scalar none .plain
              (← Scan.take (plainFrom flow floor .none place.line place.column place.rest))
          else Scan.fail

/-- A node within brackets, with its properties. -/
def flowNode : Nat → Scan Node
  | 0 => Scan.fail
  | fuel + 1 => do
      let properties ← readProperties true 2 .none
      let rest := (← Scan.place).rest
      let missing := rest.head?.any fun c => c = ',' || c = ']' || c = '\x7d' || c = ':'
      if missing && !properties.isNone then withProperties properties .empty
      else withProperties properties (← inlineNode fuel true 0)

/-- The value after a colon within brackets. -/
def flowValue : Nat → Scan Node
  | 0 => Scan.fail
  | fuel + 1 => do
      Scan.pass 1
      Scan.fill true true
      let rest := (← Scan.place).rest
      if rest.head?.any fun c => c = ',' || c = ']' || c = '\x7d' then return .empty
      else flowNode fuel

/-- A member of a mapping within brackets: a key that may have a value. -/
def flowMember : Nat → Scan (Node × Node)
  | 0 => Scan.fail
  | fuel + 1 => do
      if startsSign '?' (← Scan.place).rest then
        Scan.pass 1
        Scan.fill true true
      let key ← flowNode fuel
      Scan.fill true true
      if (← Scan.place).rest.head? = some ':' then return (key, ← flowValue fuel)
      else return (key, .empty)

/-- An item of a sequence within brackets. A key with a value is a mapping of its own. -/
def flowItem : Nat → Scan Node
  | 0 => Scan.fail
  | fuel + 1 => do
      let start ← Scan.place
      if startsSign '?' start.rest then return .mapping none [← flowMember fuel]
      else
        let item ← flowNode fuel
        Scan.fill true true
        let after ← Scan.place
        if after.rest.head? = some ':' then
          if after.line = start.line then return .mapping none [(item, ← flowValue fuel)]
          else Scan.fail
        else return item

/-- The items of a sequence within brackets, up to the closing one. -/
def flowItems : Nat → Scan (List Node)
  | 0 => Scan.fail
  | fuel + 1 => do
      Scan.fill true true
      if (← Scan.place).rest.head? = some ']' then
        Scan.pass 1
        return []
      else
        let item ← flowItem fuel
        Scan.fill true true
        match (← Scan.place).rest with
        | ',' :: _ =>
            Scan.pass 1
            return item :: (← flowItems fuel)
        | ']' :: _ =>
            Scan.pass 1
            return [item]
        | _ => Scan.fail

/-- The members of a mapping within brackets, up to the closing one. -/
def flowMembers : Nat → Scan (List (Node × Node))
  | 0 => Scan.fail
  | fuel + 1 => do
      Scan.fill true true
      if (← Scan.place).rest.head? = some '\x7d' then
        Scan.pass 1
        return []
      else
        let member ← flowMember fuel
        Scan.fill true true
        match (← Scan.place).rest with
        | ',' :: _ =>
            Scan.pass 1
            return member :: (← flowMembers fuel)
        | '\x7d' :: _ =>
            Scan.pass 1
            return [member]
        | _ => Scan.fail

end

/-- Whether the cursor is at a colon that makes the node from `start` on a key: both are on the same
line. -/
def atKeyColon (start : Place) : Scan Bool := do
  let place := (← Scan.place).skipGap
  return place.line = start.line && !place.fresh && startsSign ':' place.rest

/-- Pass over the colon after a key. -/
def passColon : Scan Unit := do
  Scan.moveTo (← Scan.place).skipGap
  Scan.pass 1

/-- A key on a line of its own, or before its value. -/
def blockKey (fuel : Nat) : Scan Node := do
  let start ← Scan.place
  let properties ← readProperties false 2 .none
  let key ← withProperties properties (← inlineNode fuel false 0)
  if ← atKeyColon start then return key else Scan.fail

mutual

/-- A node outside brackets. It stands at or right of the column `floor`; a sequence may stand at
the column `sequenceFloor` already. Only where `compact` is set may it be a collection that is not
within brackets. -/
def blockNode : Nat → (floor sequenceFloor : Nat) → (compact : Bool) → Scan Node
  | 0, _, _, _ => Scan.fail
  | fuel + 1, floor, sequenceFloor, compact => do
      let start ← Scan.place
      let properties ← readProperties false 2 .none
      let place ← Scan.place
      if properties.isNone || !place.fresh then
        blockContent fuel floor compact start properties
      else if place.atEnd then withProperties properties .empty
      else if floor ≤ place.column
          || (sequenceFloor ≤ place.column && startsSign '-' place.rest) then
        withProperties properties (← blockNode fuel floor sequenceFloor true)
      else withProperties properties .empty

/-- What a node consists of. Its properties stand before it from `start` on, and belong to its first
key if it has one. -/
def blockContent :
    Nat → (floor : Nat) → (compact : Bool) → (start : Place) → Properties → Scan Node
  | 0, _, _, _, _ => Scan.fail
  | fuel + 1, floor, compact, start, properties => do
      let place ← Scan.place
      if place.atEnd then withProperties properties .empty
      else if startsSign '-' place.rest then
        if compact then
          withProperties properties (.sequence none (← blockItems fuel place.column))
        else Scan.fail
      else if startsSign '?' place.rest then
        if compact then
          withProperties properties (.mapping none (← blockMembers fuel place.column))
        else Scan.fail
      else
        match place.rest with
        | '|' :: rest =>
            withProperties properties
              (.scalar none .literal (← Scan.take (readBlock true floor { place with rest })))
        | '>' :: rest =>
            withProperties properties
              (.scalar none .folded (← Scan.take (readBlock false floor { place with rest })))
        | _ =>
            let node ← withProperties properties (← inlineNode fuel false floor)
            if ← atKeyColon start then
              if compact then
                let value ← blockValue fuel start.column
                return .mapping none ((node, value) :: (← blockMembers fuel start.column))
              else Scan.fail
            else return node

/-- The value after the key of a mapping at a column. -/
def blockValue : Nat → (column : Nat) → Scan Node
  | 0, _ => Scan.fail
  | fuel + 1, column => do
      passColon
      Scan.fill false true
      let place ← Scan.place
      if place.atEnd then return .empty
      else if place.fresh then
        if column < place.column then blockNode fuel (column + 1) column true
        else if place.column = column && startsSign '-' place.rest then
          return .sequence none (← blockItems fuel column)
        else return .empty
      else blockNode fuel (column + 1) column false

/-- What follows a sign of its own at a column. -/
def blockEntry : Nat → (column : Nat) → Scan Node
  | 0, _ => Scan.fail
  | fuel + 1, column => do
      Scan.pass 1
      Scan.fill false false
      let place ← Scan.place
      if place.atEnd || (place.fresh && place.column ≤ column) then return .empty
      else blockNode fuel (column + 1) (column + 1) true

/-- The items of a sequence at a column. -/
def blockItems : Nat → (column : Nat) → Scan (List Node)
  | 0, _ => Scan.fail
  | fuel + 1, column => do
      let item ← blockEntry fuel column
      Scan.fill false true
      let place ← Scan.place
      if !place.atEnd && place.fresh && place.column = column && startsSign '-' place.rest then
        return item :: (← blockItems fuel column)
      else return [item]

/-- The further members of a mapping at a column. -/
def blockMembers : Nat → (column : Nat) → Scan (List (Node × Node))
  | 0, _ => Scan.fail
  | fuel + 1, column => do
      Scan.fill false true
      let place ← Scan.place
      if place.atEnd || (place.fresh && place.column < column) then return []
      else if startsSign '?' place.rest then
        let key ← blockEntry fuel column
        Scan.fill false true
        let after ← Scan.place
        if after.fresh && after.column = column && startsSign ':' after.rest then
          let value ← blockEntry fuel column
          return (key, value) :: (← blockMembers fuel column)
        else return (key, .empty) :: (← blockMembers fuel column)
      else if place.fresh && place.column = column then
        let key ← blockKey fuel
        let value ← blockValue fuel column
        return (key, value) :: (← blockMembers fuel column)
      else Scan.fail

end

/-- The documents of a text. Only the first one may begin without a marker, and no directive may
stand before it then. -/
def documentsFrom (whole : Nat) : Nat → (bare : Bool) → Scan (List Node)
  | 0, _ => Scan.fail
  | fuel + 1, bare => do
      Scan.fill false false
      let place ← Scan.place
      if place.rest.isEmpty then return []
      else if place.column = 0 && place.rest.head? = some '%' then
        let directive := place.rest.takeWhile fun c => c ≠ '\n'
        Scan.pass directive.length
        documentsFrom whole fuel false
      else
        let marker := if place.column = 0 then markerOf place.rest else none
        match marker with
        | some '.' =>
            Scan.pass 3
            documentsFrom whole fuel false
        | some _ =>
            Scan.pass 3
            Scan.fill false true
            let place ← Scan.place
            let document ← if place.atEnd then pure .empty else blockNode whole 0 0 place.fresh
            return document :: (← documentsAfter fuel)
        | none =>
            if bare then
              let document ← blockNode whole 0 0 true
              return document :: (← documentsAfter fuel)
            else Scan.fail
where
  documentsAfter (fuel : Nat) : Scan (List Node) := do
    Scan.fill false true
    let place ← Scan.place
    if place.atEnd then documentsFrom whole fuel false else Scan.fail

/-- Line ends of every kind as line feeds. -/
def normalizeBreaks : List Char → List Char
  | [] => []
  | '\r' :: '\n' :: rest => '\n' :: normalizeBreaks rest
  | c :: rest => (if c = '\r' then '\n' else c) :: normalizeBreaks rest

/-- The text without the byte order mark it may begin with. -/
def dropMark : List Char → List Char
  | '\ufeff' :: rest => rest
  | text => text

/-- The documents in a text, if it is well formed. -/
def parse (text : String) : Option (List Node) :=
  let chars := normalizeBreaks (dropMark text.toList)
  let fuel := 8 * chars.length + 16
  ((documentsFrom fuel fuel true).run ⟨.start chars, []⟩).map Prod.fst

end Masking.Yaml
