import SqlRender.Text.NameOrder

/-!
# JSON documents

A document is a tree of values.  Numbers are integers that fit into 64 bits, signed or
unsigned, or floats.  The members of an object are kept in the order of the text, with
repeated names; `canonical` sorts them and keeps the last member of each name.  `fold`
is the recursion on documents, and a `Reader` is what results from a text are made with,
whether or not all of its parts stand for a value.
-/

namespace SqlRender

/-- A JSON value. -/
inductive Json where
  | null
  | bool (b : Bool)
  | int (n : Int)
  | float (x : Float)
  | string (s : String)
  | array (items : List Json)
  | object (members : List (String × Json))

/-- A JSON value whose items and members have been replaced by results of type `α`. -/
inductive Json.Layer (α : Type) where
  | null
  | bool (b : Bool)
  | int (n : Int)
  | float (x : Float)
  | string (s : String)
  | array (items : List α)
  | object (members : List (String × α))

/-- The layer with its parts replaced by their results under `f`. -/
def Json.Layer.map {α β : Type} (f : α → β) : Layer α → Layer β
  | .null => .null
  | .bool b => .bool b
  | .int n => .int n
  | .float x => .float x
  | .string s => .string s
  | .array items => .array (items.map f)
  | .object members => .object (members.map fun (name, x) => (name, f x))

/-- The layer of the results, if there is a result for every part. -/
def Json.Layer.all? {α : Type} : Layer (Option α) → Option (Layer α)
  | .null => some .null
  | .bool b => some (.bool b)
  | .int n => some (.int n)
  | .float x => some (.float x)
  | .string s => some (.string s)
  | .array items => (items.mapM id).map .array
  | .object members => (members.mapM fun (m : String × Option α) => m.2.map fun x => (m.1, x)).map .object

namespace Json

mutual

/-- The result of `step` on a document, given the results on its items and members. -/
def fold {α : Type} (step : Layer α → α) : Json → α
  | null => step .null
  | bool b => step (.bool b)
  | int n => step (.int n)
  | float x => step (.float x)
  | string s => step (.string s)
  | array items => step (.array (foldItems step items))
  | object members => step (.object (foldMembers step members))

/-- The results of `step` on the documents of a list. -/
def foldItems {α : Type} (step : Layer α → α) : List Json → List α
  | [] => []
  | j :: rest => fold step j :: foldItems step rest

/-- The results of `step` on the documents of a list of members. -/
def foldMembers {α : Type} (step : Layer α → α) : List (String × Json) → List (String × α)
  | [] => []
  | (name, j) :: rest => (name, fold step j) :: foldMembers step rest

end

/-- One layer as a document. -/
def ofLayer : Layer Json → Json
  | .null => null
  | .bool b => bool b
  | .int n => int n
  | .float x => float x
  | .string s => string s
  | .array items => array items
  | .object members => object members

/-- The outermost layer of a document. -/
def toLayer : Json → Layer Json
  | null => .null
  | bool b => .bool b
  | int n => .int n
  | float x => .float x
  | string s => .string s
  | array items => .array items
  | object members => .object members

/-- A document whose objects are sorted by name and have each name once. -/
def canonical : Json → Json :=
  fold fun
    | .object members => object (Text.sortByName members)
    | layer => ofLayer layer

/-- What the results for the parts of a text are made with. -/
structure Reader (α : Type) where
  /-- The result for a part, from the results for the parts inside of it. -/
  part : Layer α → α
  /-- The result for a part that is written as it should be but stands for no value. -/
  unreadable : α
  /-- The result for a member whose name is written with escapes, from that for its value. -/
  underEscapedName : α → α

/-- The reader whose result is the document, if every part stands for a value. -/
def document : Reader (Option Json) :=
  ⟨fun layer => layer.all?.map ofLayer, none, id⟩

/-- The reader whose result is the outermost layer, with the documents of its parts. -/
def outermost : Reader (Option (Layer (Option Json)) × Option Json) :=
  ⟨fun layer => (some (layer.map Prod.snd), document.part (layer.map Prod.snd)), (none, none), id⟩

mutual

/-- Equality of documents; floats are compared as numbers. -/
def same : Json → Json → Bool
  | null, null => true
  | bool a, bool b => a == b
  | int a, int b => a == b
  | float a, float b => a == b
  | string a, string b => a == b
  | array a, array b => sameItems a b
  | object a, object b => sameMembers a b
  | _, _ => false

/-- Equality of lists of documents. -/
def sameItems : List Json → List Json → Bool
  | [], [] => true
  | a :: as, b :: bs => same a b && sameItems as bs
  | _, _ => false

/-- Equality of lists of members. -/
def sameMembers : List (String × Json) → List (String × Json) → Bool
  | [], [] => true
  | (m, a) :: as, (n, b) :: bs => m == n && same a b && sameMembers as bs
  | _, _ => false

end

end Json

end SqlRender
