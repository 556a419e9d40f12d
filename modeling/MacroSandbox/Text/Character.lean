import MacroSandbox.Text.Property
import MacroSandbox.Text.Table
import MacroSandbox.Text.Visibility

/-! Classes of characters, read off the property tables. -/

namespace MacroSandbox.Text

/-- Whether one of the ranges of a property's table holds the character. -/
def Property.holds (table : Array (Nat × Nat)) (character : Char) : Bool :=
  let code := character.toNat
  (Table.find? (fun range : Nat × Nat => Table.placeInRange code range.1 range.2) table).isSome

def isAlphanumeric (character : Char) : Bool :=
  if character.toNat < 0x80 then character.isAlphanum
  else Property.holds Property.alphanumeric character

def isWordCharacter (character : Char) : Bool :=
  if character.toNat < 0x80 then character.isAlphanum || character == '_'
  else Property.holds Property.word character

def isCased (character : Char) : Bool :=
  Property.holds Property.cased character

def isCaseIgnorable (character : Char) : Bool :=
  Property.holds Property.caseIgnorable character

def isPlainlyVisible (character : Char) : Bool :=
  if character.toNat < 0x80 then 0x20 ≤ character.toNat && character.toNat != 0x7F
  else
    !Property.holds Property.graphemeExtend character &&
      !Property.holds Property.unprintable character

end MacroSandbox.Text
