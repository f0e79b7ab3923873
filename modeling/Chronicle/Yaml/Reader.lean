import Chronicle.Yaml.Lexer

/-!
# From tokens to nodes

A stack automaton over tokens. The stack holds the collections that are still open, each with what
is due in it next. Where a node is due and nothing is written there is an empty scalar.
-/

namespace Chronicle.Yaml

/-- A place in a map: before a key, in a key, after a key, in the value of a key. -/
inductive Due where
  | key
  | keyNode
  | colon (key : Node)
  | valueNode (key : Node)

/-- A place in a list in brackets. An item may be a single member of a map, written without braces
of its own. -/
inductive ItemDue where
  /-- An item or the closing bracket. -/
  | item
  /-- A comma or the closing bracket. -/
  | comma
  | keyNode
  | colon (key : Node)
  | valueNode (key : Node)

/-- A place in a map in braces. -/
inductive MemberDue where
  /-- A key or the closing brace. -/
  | member
  /-- A comma or the closing brace. -/
  | comma
  | keyNode
  /-- In a key that is not announced and has no value. -/
  | bareKey
  | colon (key : Node)
  | valueNode (key : Node)

/-- A collection that is being read, with what it already holds last first. -/
inductive Frame where
  /-- A block list. `due` says that an item has been announced and not been read yet. -/
  | items (rev : List Node) (due : Bool)
  /-- A block list that stands as far left as the key it belongs to, and has no end of its own. -/
  | dashes (rev : List Node) (due : Bool)
  | members (rev : List (Node × Node)) (due : Due)
  | flowItems (rev : List Node) (due : ItemDue)
  | flowMembers (rev : List (Node × Node)) (due : MemberDue)

/-- What a token does to the innermost collection. -/
inductive Move where
  | stay (f : Frame)
  /-- Begins a collection inside. -/
  | enter (f inner : Frame)
  /-- Puts a node in. -/
  | fill (f : Frame) (v : Node)
  | close (v : Node)
  /-- Closes the collection with the token still to come. -/
  | yield (v : Node)

/-- The nodes that may begin somewhere. -/
inductive Allowed where
  | flow
  | block
  /-- Also a block list that stands no further right. -/
  | any

/-- What a token does where a node is due. `f` is the collection around the node. -/
def beginNode? (a : Allowed) (f : Frame) (t : Token) : Option Move :=
  match t, a with
  | .scalar s, _ => some (.fill f (.scalar s))
  | .listOpen, _ => some (.enter f (.flowItems [] .item))
  | .mapOpen, _ => some (.enter f (.flowMembers [] .member))
  | .blockList, .block | .blockList, .any => some (.enter f (.items [] false))
  | .blockMap, .block | .blockMap, .any => some (.enter f (.members [] .key))
  | .item, .any => some (.enter f (.dashes [] true))
  | _, _ => none

/-! ### Block collections -/

def items? (rev : List Node) (due : Bool) (t : Token) : Option Move :=
  match t with
  | .item => some (.stay (.items (if due then .empty :: rev else rev) true))
  | .blockEnd => some (.close (.list (if due then .empty :: rev else rev).reverse))
  | t => if due then beginNode? .block (.items rev true) t else none

def dashes? (rev : List Node) (due : Bool) (t : Token) : Option Move :=
  match t, due with
  | .item, _ => some (.stay (.dashes (if due then .empty :: rev else rev) true))
  | .key, true | .value, true | .blockEnd, true => some (.yield (.list (.empty :: rev).reverse))
  | t, true => beginNode? .block (.dashes rev true) t
  | _, false => some (.yield (.list rev.reverse))

/-- Whether nothing is written where the key or the value of a member is due. -/
def endsMember : Token → Bool
  | .key | .value | .blockEnd => true
  | _ => false

def key? (rev : List (Node × Node)) : Token → Option Move
  | .key => some (.stay (.members rev .keyNode))
  | .blockEnd => some (.close (.map rev.reverse))
  | _ => none

def colon? (rev : List (Node × Node)) (k : Node) : Token → Option Move
  | .value => some (.stay (.members rev (.valueNode k)))
  | t => key? ((k, .empty) :: rev) t

def members? (rev : List (Node × Node)) (due : Due) (t : Token) : Option Move :=
  match due with
  | .key => key? rev t
  | .keyNode =>
    if endsMember t then colon? rev .empty t else beginNode? .any (.members rev .keyNode) t
  | .colon k => colon? rev k t
  | .valueNode k =>
    if endsMember t then key? ((k, .empty) :: rev) t
    else beginNode? .any (.members rev (.valueNode k)) t

/-! ### Collections in brackets -/

/-- A map of one member. -/
def pair (k v : Node) : Node := .map [(k, v)]

def itemComma? (rev : List Node) : Token → Option Move
  | .comma => some (.stay (.flowItems rev .item))
  | .listClose => some (.close (.list rev.reverse))
  | _ => none

/-- Where an announced key is left out, the indicator that comes instead of it is passed over. -/
def flowItems? (rev : List Node) (due : ItemDue) (t : Token) : Option Move :=
  match due, t with
  | .item, .listClose => some (.close (.list rev.reverse))
  | .item, .key => some (.stay (.flowItems rev .keyNode))
  | .comma, t => itemComma? rev t
  | .keyNode, .value | .keyNode, .comma | .keyNode, .listClose =>
    some (.stay (.flowItems rev (.colon .empty)))
  | .colon k, .value => some (.stay (.flowItems rev (.valueNode k)))
  | .colon k, t => itemComma? (pair k .empty :: rev) t
  | .valueNode k, .comma | .valueNode k, .listClose => itemComma? (pair k .empty :: rev) t
  | due, t => beginNode? .flow (.flowItems rev due) t

def memberComma? (rev : List (Node × Node)) : Token → Option Move
  | .comma => some (.stay (.flowMembers rev .member))
  | .mapClose => some (.close (.map rev.reverse))
  | _ => none

def memberColon? (rev : List (Node × Node)) (k : Node) : Token → Option Move
  | .value => some (.stay (.flowMembers rev (.valueNode k)))
  | t => memberComma? ((k, .empty) :: rev) t

def flowMembers? (rev : List (Node × Node)) (due : MemberDue) (t : Token) : Option Move :=
  match due, t with
  | .member, .mapClose => some (.close (.map rev.reverse))
  | .member, .key => some (.stay (.flowMembers rev .keyNode))
  | .member, t => beginNode? .flow (.flowMembers rev .bareKey) t
  | .comma, t => memberComma? rev t
  | .keyNode, .value | .keyNode, .comma | .keyNode, .mapClose => memberColon? rev .empty t
  | .colon k, t => memberColon? rev k t
  | .valueNode k, .comma | .valueNode k, .mapClose => memberComma? ((k, .empty) :: rev) t
  | due, t => beginNode? .flow (.flowMembers rev due) t

namespace Frame

def move? (f : Frame) (t : Token) : Option Move :=
  match f with
  | items rev due => items? rev due t
  | dashes rev due => dashes? rev due t
  | members rev due => members? rev due t
  | flowItems rev due => flowItems? rev due t
  | flowMembers rev due => flowMembers? rev due t

/-- The collection after the node that was due in it. -/
def fill (f : Frame) (v : Node) : Frame :=
  match f with
  | items rev _ => .items (v :: rev) false
  | dashes rev _ => .dashes (v :: rev) false
  | members rev .keyNode => .members rev (.colon v)
  | members rev (.valueNode k) => .members ((k, v) :: rev) .key
  | flowItems rev .keyNode => .flowItems rev (.colon v)
  | flowItems rev (.valueNode k) => .flowItems (pair k v :: rev) .comma
  | flowItems rev _ => .flowItems (v :: rev) .comma
  | flowMembers rev .keyNode => .flowMembers rev (.colon v)
  | flowMembers rev (.valueNode k) => .flowMembers ((k, v) :: rev) .comma
  | flowMembers rev _ => .flowMembers ((v, .empty) :: rev) .comma
  | f => f

end Frame

/-! ### Documents -/

/-- What has been read of a text that holds one document. -/
inductive State where
  /-- Nothing, or only the marker before the document. -/
  | before (started : Bool)
  | inside (f : Frame) (outer : List Frame)
  | done (v : Node)

namespace State

/-- A complete node in the collection around it. -/
def put (v : Node) : List Frame → State
  | [] => .done v
  | f :: outer => .inside (f.fill v) outer

def apply (outer : List Frame) : Move → State
  | .stay f => .inside f outer
  | .enter f inner => .inside inner (f :: outer)
  | .fill f v => .inside (f.fill v) outer
  | .close v | .yield v => put v outer

/-- A node that a document begins with. -/
def root? (t : Token) : Option State :=
  match t with
  | .scalar s => some (.done (.scalar s))
  | .listOpen => some (.inside (.flowItems [] .item) [])
  | .mapOpen => some (.inside (.flowMembers [] .member) [])
  | .blockList => some (.inside (.items [] false) [])
  | .blockMap => some (.inside (.members [] .key) [])
  | _ => none

/-- A token in the innermost collection. One that is closed without it hands it on to the
collection around it. -/
def inside? (f : Frame) (outer : List Frame) (t : Token) : Option State :=
  match f.move? t, outer with
  | some (.yield v), g :: outer => ((g.fill v).move? t).map (apply outer)
  | m, outer => m.map (apply outer)

def next? (s : State) (t : Token) : Option State :=
  match s, t with
  | .before false, .start => some (.before true)
  | .before true, .finish => some (.done .empty)
  | .before _, t => root? t
  | .inside f outer, t => inside? f outer t
  | .done v, .finish => some (.done v)
  | .done _, _ => none

/-- The document of a text that ends here. -/
def node? : State → Option Node
  | .before true => some .empty
  | .done v => some v
  | _ => none

end State

/-- Reads a text as YAML. -/
def ofText? (text : String) : Option Node :=
  (lex? text.toList).bind fun ts => (ts.foldlM State.next? (.before false)).bind (·.node?)

end Chronicle.Yaml
