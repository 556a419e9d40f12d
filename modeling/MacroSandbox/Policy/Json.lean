import MacroSandbox.Number.Numeral

/-! JSON texts, as far as settings need them: numbers are kept only if they are natural, and a
string only if it is well formed. -/

namespace MacroSandbox

/-- A JSON value. A number that is not written as a natural one, or that needs more than 64 bits, is
`natural none`, and a string with half a surrogate pair in it is `string none`. -/
inductive Json
  | null
  | boolean (value : Bool)
  | natural (value : Option Nat)
  | string (value : Option String)
  | array (items : List Json)
  | object (members : List (Option String × Json))

namespace Json

/-! ## Blanks, words and numbers -/

def skipBlanks (text : List Char) : List Char :=
  text.dropWhile fun character =>
    character == ' ' || character == '\n' || character == '\t' || character == '\r'

def takeDigits (text : List Char) : List Char × List Char :=
  (text.takeWhile Char.isDigit, text.dropWhile Char.isDigit)

def skipFraction? : List Char → Option (Bool × List Char)
  | '.' :: rest =>
      let (digits, rest) := takeDigits rest
      if digits.isEmpty then none else some (true, rest)
  | rest => some (false, rest)

def skipExponent? : List Char → Option (Bool × List Char)
  | [] => some (false, [])
  | mark :: rest =>
      if mark == 'e' || mark == 'E' then
        let unsigned := match rest with
          | '+' :: rest => rest
          | '-' :: rest => rest
          | rest => rest
        let (digits, rest) := takeDigits unsigned
        if digits.isEmpty then none else some (true, rest)
      else some (false, mark :: rest)

/-- A number and what follows it. A leading zero stands alone. -/
def number? (text : List Char) : Option (Json × List Char) := do
  let (negative, text) := match text with
    | '-' :: rest => (true, rest)
    | rest => (false, rest)
  let (digits, rest) := takeDigits text
  if digits.isEmpty || (1 < digits.length && digits.head? == some '0') then none
  else
    let (hasFraction, rest) ← skipFraction? rest
    let (hasExponent, rest) ← skipExponent? rest
    let value := if negative || hasFraction || hasExponent then none
      else Numeral.natural? 10 UInt64.size digits
    some (.natural value, rest)

/-! ## Strings -/

/-- One unit of a string: a character, or half of a surrogate pair. -/
inductive StringUnit
  | character (value : Char)
  | half (code : Nat)

def unitOfCode (code : Nat) : StringUnit :=
  if 0xD800 ≤ code && code ≤ 0xDFFF then .half code else .character (Char.ofNat code)

def unitsFrom : List Char → (units : List StringUnit) → Option (List StringUnit × List Char)
  | '"' :: rest, units => some (units, rest)
  | '\\' :: 'u' :: a :: b :: c :: d :: rest, units =>
      match Numeral.natural? 16 0x10000 [a, b, c, d] with
      | some code => unitsFrom rest (unitOfCode code :: units)
      | none => none
  | '\\' :: escape :: rest, units =>
      match escape with
      | '"' => unitsFrom rest (.character '"' :: units)
      | '\\' => unitsFrom rest (.character '\\' :: units)
      | '/' => unitsFrom rest (.character '/' :: units)
      | 'b' => unitsFrom rest (.character '\x08' :: units)
      | 'f' => unitsFrom rest (.character '\x0c' :: units)
      | 'n' => unitsFrom rest (.character '\n' :: units)
      | 'r' => unitsFrom rest (.character '\r' :: units)
      | 't' => unitsFrom rest (.character '\t' :: units)
      | _ => none
  | character :: rest, units =>
      if character.toNat < 0x20 || character == '\\' then none
      else unitsFrom rest (.character character :: units)
  | [], _ => none

/-- Joins the halves of surrogate pairs; a half on its own spoils the string. -/
def joinUnits? : List StringUnit → Option (List Char)
  | [] => some []
  | .character value :: rest => (joinUnits? rest).map (value :: ·)
  | .half high :: .half low :: rest =>
      if high < 0xDC00 && 0xDC00 ≤ low then
        let code := 0x10000 + (high - 0xD800) * 0x400 + (low - 0xDC00)
        (joinUnits? rest).map (Char.ofNat code :: ·)
      else none
  | .half _ :: _ => none

def string? (text : List Char) : Option (Option String × List Char) :=
  (unitsFrom text []).map fun (units, rest) =>
    ((joinUnits? units.reverse).map String.ofList, rest)

/-! ## Values

The three readers follow each other through a text; each step uses up at least one character, so
the length of the text bounds their nesting. -/

mutual

def valueWithin : (depth : Nat) → List Char → Option (Json × List Char)
  | 0, _ => none
  | depth + 1, text =>
      match skipBlanks text with
      | 'n' :: 'u' :: 'l' :: 'l' :: rest => some (.null, rest)
      | 't' :: 'r' :: 'u' :: 'e' :: rest => some (.boolean true, rest)
      | 'f' :: 'a' :: 'l' :: 's' :: 'e' :: rest => some (.boolean false, rest)
      | '"' :: rest => (string? rest).map fun (value, rest) => (.string value, rest)
      | '[' :: rest =>
          match skipBlanks rest with
          | ']' :: rest => some (.array [], rest)
          | rest => (itemsWithin depth rest []).map fun (items, rest) => (.array items, rest)
      | '{' :: rest =>
          match skipBlanks rest with
          | '}' :: rest => some (.object [], rest)
          | rest => (membersWithin depth rest []).map fun (members, rest) =>
              (.object members, rest)
      | text => number? text

def itemsWithin : (depth : Nat) → List Char → (items : List Json) →
    Option (List Json × List Char)
  | 0, _, _ => none
  | depth + 1, text, items =>
      match valueWithin depth text with
      | none => none
      | some (item, rest) =>
          match skipBlanks rest with
          | ']' :: rest => some ((item :: items).reverse, rest)
          | ',' :: rest => itemsWithin depth rest (item :: items)
          | _ => none

def membersWithin : (depth : Nat) → List Char → (members : List (Option String × Json)) →
    Option (List (Option String × Json) × List Char)
  | 0, _, _ => none
  | depth + 1, text, members =>
      match skipBlanks text with
      | '"' :: rest =>
          match string? rest with
          | none => none
          | some (key, rest) =>
              match skipBlanks rest with
              | ':' :: rest =>
                  match valueWithin depth rest with
                  | none => none
                  | some (value, rest) =>
                      match skipBlanks rest with
                      | '}' :: rest => some (((key, value) :: members).reverse, rest)
                      | ',' :: rest => membersWithin depth rest ((key, value) :: members)
                      | _ => none
              | _ => none
      | _ => none

end

def parse? (text : String) : Option Json :=
  let characters := text.toList
  match valueWithin (characters.length + 1) characters with
  | some (value, rest) => if (skipBlanks rest).isEmpty then some value else none
  | none => none

end Json

end MacroSandbox
