import MacroSandbox.Value
import MacroSandbox.Text.Quoted
import Std.Data.TreeMap

/-! The heap: the contents of lists and maps, and everything about a value that depends on them.

A walk through nested values goes through different places at every level unless a value contains
itself, so the number of places bounds its depth. -/

namespace MacroSandbox

/-- The contents of every list and every map, by place, and how many objects exist. Maps keep their
entries in the order of their keys. -/
structure Heap where
  lists : Array (Array Value) := #[]
  maps : Array (Std.TreeMap String Value) := #[]
  objects : Nat := 0

/-- A value with everything in it, apart from any heap. The keys of a map stand beside its values. -/
inductive Datum
  | integer (value : Int64)
  | float (value : Float)
  | text (value : String)
  | boolean (value : Bool)
  | list (items : List Datum)
  | map (keys : List String) (values : List Datum)
  | null
  | object (identity : Nat) (className : String)
  | unresolved
  deriving Inhabited

namespace Heap

instance : Inhabited Heap := ⟨{}⟩

/-! ## Places -/

def list (heap : Heap) (place : Nat) : Array Value :=
  heap.lists.getD place #[]

def map (heap : Heap) (place : Nat) : Std.TreeMap String Value :=
  heap.maps.getD place ∅

def newList (heap : Heap) (items : Array Value) : Value × Heap :=
  (.list heap.lists.size, { heap with lists := heap.lists.push items })

def newMap (heap : Heap) (entries : Std.TreeMap String Value) : Value × Heap :=
  (.map heap.maps.size, { heap with maps := heap.maps.push entries })

def newObject (heap : Heap) (className : String) : Value × Heap :=
  (.object heap.objects className, { heap with objects := heap.objects + 1 })

def modifyList (heap : Heap) (place : Nat) (change : Array Value → Array Value) : Heap :=
  { heap with lists := heap.lists.modify place change }

def modifyMap (heap : Heap) (place : Nat)
    (change : Std.TreeMap String Value → Std.TreeMap String Value) : Heap :=
  { heap with maps := heap.maps.modify place change }

def depthBound (heap : Heap) : Nat :=
  heap.lists.size + heap.maps.size + 1

/-! ## Text -/

def textWithin (heap : Heap) : (depth : Nat) → Value → String
  | _, .integer value => toString value.toInt
  | _, .float value => floatText value
  | _, .text value => value
  | _, .boolean value => Value.booleanText value
  | 0, .list _ => ""
  | depth + 1, .list place =>
      String.join ((heap.list place).toList.map (heap.textWithin depth))
  | _, .map _ | _, .null | _, .unresolved => ""
  | _, .object _ className => className

/-- The text of a value: a list is the text of its items one after the other, an object is its
class, and a map has none. -/
def text (heap : Heap) (value : Value) : String :=
  heap.textWithin heap.depthBound value

/-- The bytes of a value: the items of a list as integers modulo 256, and else the code points of
its text modulo 256. -/
def bytes (heap : Heap) (value : Value) : ByteArray :=
  match value with
  | .list place =>
      (heap.list place).foldl (fun bytes item => bytes.push item.toInteger.toUInt64.toUInt8)
        ByteArray.empty
  | other =>
      Text.fold (fun bytes character => bytes.push character.val.toUInt8) ByteArray.empty
        (heap.text other)

/-- Whether the value counts as true. Text is false if it is empty, spells false, or is a zero. -/
def isTruthy (heap : Heap) : Value → Bool
  | .integer value => value != 0
  | .float value => value != 0.0
  | .text value =>
      !(value.isEmpty || Text.asciiLower value == "false" || Text.trim value == "0")
  | .boolean value => value
  | .list place => !(heap.list place).isEmpty
  | .map place => !(heap.map place).isEmpty
  | .null | .unresolved => false
  | .object .. => true

/-! ## Equality -/

def pairwise {α : Type} (related : α → α → Bool) (left right : List α) : Bool :=
  left.length == right.length && (left.zip right).all fun (a, b) => related a b

/-- Equality of values that are nested at most `depth` levels deep. With `identity`, two references
to one place are equal without a look at the contents. -/
def sameWithin (heap : Heap) (identity : Bool) : (depth : Nat) → Value → Value → Bool
  | _, .integer left, .integer right => left == right
  | _, .float left, .float right => left == right
  | _, .integer left, .float right => Value.floatOfInteger left == right
  | _, .float left, .integer right => Value.floatOfInteger right == left
  | _, .text left, .text right => left == right
  | _, .boolean left, .boolean right => left == right
  | depth, .list left, .list right =>
      (identity && left == right) ||
        match depth with
        | 0 => false
        | depth + 1 =>
            pairwise (heap.sameWithin identity depth) (heap.list left).toList
              (heap.list right).toList
  | depth, .map left, .map right =>
      (identity && left == right) ||
        match depth with
        | 0 => false
        | depth + 1 =>
            pairwise (fun (a b : String × Value) =>
                a.1 == b.1 && heap.sameWithin identity depth a.2 b.2)
              (heap.map left).toList (heap.map right).toList
  | _, .null, .null => true
  | _, .object left _, .object right _ => left == right
  | _, .unresolved, .unresolved => true
  | _, _, _ => false

/-- Equality of values: numbers by value, containers by contents or by place, objects by
identity. -/
def same (heap : Heap) (left right : Value) : Bool :=
  heap.sameWithin true heap.depthBound left right

/-- Equality of contents: as `same`, but no container is equal to itself merely by its place, so one
that holds an undefined number differs from itself. -/
def sameContents (heap : Heap) (left right : Value) : Bool :=
  heap.sameWithin false heap.depthBound left right

end Heap

/-! ## Copies -/

mutual

def Datum.build : Datum → Heap → Value × Heap
  | .integer value, heap => (.integer value, heap)
  | .float value, heap => (.float value, heap)
  | .text value, heap => (.text value, heap)
  | .boolean value, heap => (.boolean value, heap)
  | .list items, heap =>
      let (items, heap) := Datum.buildAll items heap #[]
      heap.newList items
  | .map keys values, heap =>
      let (values, heap) := Datum.buildAll values heap #[]
      heap.newMap (Std.TreeMap.ofList (keys.zip values.toList))
  | .null, heap => (.null, heap)
  | .object identity className, heap => (.object identity className, heap)
  | .unresolved, heap => (.unresolved, heap)

def Datum.buildAll : List Datum → Heap → (done : Array Value) → Array Value × Heap
  | [], heap, done => (done, heap)
  | datum :: rest, heap, done =>
      let (value, heap) := datum.build heap
      Datum.buildAll rest heap (done.push value)

end

namespace Heap

def contentsWithin (heap : Heap) : (depth : Nat) → Value → Datum
  | _, .integer value => .integer value
  | _, .float value => .float value
  | _, .text value => .text value
  | _, .boolean value => .boolean value
  | 0, .list _ => .list []
  | depth + 1, .list place =>
      .list ((heap.list place).toList.map (heap.contentsWithin depth))
  | 0, .map _ => .map [] []
  | depth + 1, .map place =>
      .map (heap.map place).keys ((heap.map place).values.map (heap.contentsWithin depth))
  | _, .null => .null
  | _, .object identity className => .object identity className
  | _, .unresolved => .unresolved

def contents (heap : Heap) (value : Value) : Datum :=
  heap.contentsWithin heap.depthBound value

def copy (heap : Heap) (value : Value) : Value × Heap :=
  (heap.contents value).build heap

/-! ## Places of an earlier heap -/

def restrictTo (heap earlier : Heap) : Heap :=
  { lists := heap.lists.shrink earlier.lists.size
    maps := heap.maps.shrink earlier.maps.size
    objects := earlier.objects }

def owns (heap : Heap) : Value → Bool
  | .list place => place < heap.lists.size
  | .map place => place < heap.maps.size
  | .object identity _ => identity < heap.objects
  | _ => true

/-- The heap without what was allocated since an earlier heap, unless a list or a map of the earlier
heap holds some of it now. -/
def release (heap earlier : Heap) : Heap :=
  let restricted := heap.restrictTo earlier
  let isClosed := restricted.lists.all (·.all earlier.owns) &&
    restricted.maps.all fun entries => entries.values.all earlier.owns
  if isClosed then restricted else heap

/-! ## Description -/

def describeWithin (heap : Heap) : (depth : Nat) → Value → String
  | _, .integer value => "Integer(" ++ toString value.toInt ++ ")"
  | _, .float value => "Float(" ++ floatText value ++ ")"
  | _, .text value => "String(" ++ Text.quoted value ++ ")"
  | _, .boolean value => "Boolean(" ++ toString value ++ ")"
  | 0, .list _ => "List([])"
  | depth + 1, .list place =>
      let items := (heap.list place).toList.map (heap.describeWithin depth)
      "List([" ++ String.intercalate ", " items ++ "])"
  | 0, .map _ => "Map(\x7b\x7d)"
  | depth + 1, .map place =>
      let entries := (heap.map place).toList.map fun (key, value) =>
        Text.quoted key ++ ": " ++ heap.describeWithin depth value
      "Map(\x7b" ++ String.intercalate ", " entries ++ "\x7d)"
  | _, .null => "Null"
  | _, .object _ className => "Object(" ++ className ++ ")"
  | _, .unresolved => "Unresolved"

/-- A value with its kind, for a reader who needs to tell `1` from `"1"`. -/
def describe (heap : Heap) (value : Value) : String :=
  heap.describeWithin heap.depthBound value

/-! ## Coercion to a declared type -/

/-- What a variable of a declared type holds after `value` is assigned to it. Containers and objects
are never converted. -/
def coerce (heap : Heap) (type : DeclaredType) (value : Value) : Value :=
  match value with
  | .list _ | .map _ | .object .. => value
  | scalar =>
    match type with
    | .string => .text (heap.text scalar)
    | .integer | .long | .byte =>
        match scalar with
        | .float number => .integer (roundFloat .nearestEven number)
        | other => .integer other.toInteger
    | .double => .float scalar.toFloat
    | .boolean => .boolean (heap.isTruthy scalar)
    | .variant | .object => scalar

def coerceTo (heap : Heap) (type : Option DeclaredType) (value : Value) : Value :=
  match type with
  | some type => heap.coerce type value
  | none => value

end Heap

end MacroSandbox
