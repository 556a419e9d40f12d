import MacroSandbox.Text.Blank
import Std.Data.TreeMap

/-! Tables whose keys are names. Names that differ only in the case of ASCII letters are one
name. -/

namespace MacroSandbox

/-- A table from names to entries. Its keys are in lower case. -/
structure NameMap (α : Type) where
  entries : Std.TreeMap String α := ∅

namespace NameMap

variable {α : Type}

instance : Inhabited (NameMap α) := ⟨{}⟩

def empty : NameMap α := {}

def get? (names : NameMap α) (name : String) : Option α :=
  names.entries.get? (Text.asciiLower name)

def insert (names : NameMap α) (name : String) (entry : α) : NameMap α :=
  { entries := names.entries.insert (Text.asciiLower name) entry }

def erase (names : NameMap α) (name : String) : NameMap α :=
  { entries := names.entries.erase (Text.asciiLower name) }

def contains (names : NameMap α) (name : String) : Bool :=
  names.entries.contains (Text.asciiLower name)

def size (names : NameMap α) : Nat :=
  names.entries.size

def isEmpty (names : NameMap α) : Bool :=
  names.entries.isEmpty

def toList (names : NameMap α) : List (String × α) :=
  names.entries.toList

/-- The table of a list of names and entries, of which later ones win. -/
def ofList (entries : List (String × α)) : NameMap α :=
  entries.foldl (fun names (name, entry) => names.insert name entry) empty

theorem get?_insert (names : NameMap α) (name other : String) (entry : α) :
    (names.insert name entry).get? other =
      if Text.asciiLower name = Text.asciiLower other then some entry else names.get? other := by
  simp only [get?, insert, Std.TreeMap.get?_eq_getElem?, Std.TreeMap.getElem?_insert,
    Std.LawfulEqCmp.compare_eq_iff_eq]

theorem contains_eq_isSome (names : NameMap α) (name : String) :
    names.contains name = (names.get? name).isSome := by
  simp [contains, get?]

end NameMap

end MacroSandbox
