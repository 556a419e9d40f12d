import MacroSandbox.Fault
import MacroSandbox.Text.Blank
import MacroSandbox.Text.Search

/-! The text functions of the library. Positions that emulated code sees count from one. -/

namespace MacroSandbox.TextFunction

/-- As many characters as `count` says of a text from a position on, or all of them. What lies past
the end of the text is missing from the result. -/
def middle (text : String) (start : Int) (count : Option Int) : Except Fault String :=
  if start < 1 then .error (.invalidCall ("Invalid Mid start " ++ toString start))
  else
    let first := (start - 1).toNat
    .ok (match count with
      | some count => Text.slice text first count.toNat
      | none => Text.sliceFrom text first)

def left (text : String) (count : Int) : String :=
  Text.takeFirst text count.toNat

def right (text : String) (count : Int) : String :=
  Text.sliceFrom text (text.length - count.toNat)

def sliceFrom? (text : String) (start : Int) : Option String :=
  if 0 ≤ start ∧ start ≤ text.length then some (Text.sliceFrom text start.toNat) else none

/-- The place of the first part of a text that equals `pattern`. The parts have the size of the
pattern, and there are no parts without characters. -/
def findPart? (pattern text : String) : Option (Option Nat) :=
  if 1 ≤ pattern.length then some (Text.find? pattern text) else none

/-- The position of the first occurrence of `pattern` at or after `start`, or zero. There is none if a
part would be taken that the text does not have. -/
def position? (start : Int) (text pattern : String) : Option Nat :=
  let first := max start 1
  if text.length + 1 < first then some 0
  else if pattern.isEmpty then some first.toNat
  else do
    let rest ← sliceFrom? text (first - 1)
    let found ← findPart? pattern rest
    return found.elim 0 (· + first.toNat)

def position (start : Int) (text pattern : String) : Nat :=
  (position? start text pattern).getD 0

/-- The text `current` with characters from position `start` on replaced by those of `replacement`,
at most `count` of them if it is given. The text keeps its length. -/
def overwrite (current : String) (start : Int) (count : Option Int) (replacement : String) :
    Except Fault String :=
  if start < 1 then .error (.invalidCall "Mid start must be positive")
  else
    let offset := (start - 1).toNat
    if current.length < offset then
      .error (.invalidCall "Mid start is past the end of the string")
    else
      let room := min replacement.length (current.length - offset)
      let replaced := match count with
        | some count => min room count.toNat
        | none => room
      .ok (Text.takeFirst current offset ++ Text.takeFirst replacement replaced ++
        Text.sliceFrom current (offset + replaced))

def reverse (text : String) : String :=
  text.foldr (fun character result => result.push character) ""

@[simp] theorem toList_reverse (text : String) : (reverse text).toList = text.toList.reverse := by
  rw [reverse, String.foldr_eq_foldr_toList]
  induction text.toList with
  | nil => rfl
  | cons character rest hypothesis => simp [String.toList_push, hypothesis]

/-- The characters at the start of a text that spell a number, after all white space is taken out of
the text: a sign, digits and points. -/
def leadingNumber (text : String) : String :=
  let isPart (character : Char) : Bool := character.isDigit || character == '.'
  match text.toList.filter (!Text.isBlank ·) with
  | [] => ""
  | first :: rest =>
      if isPart first || first == '-' || first == '+' then
        String.ofList (first :: rest.takeWhile isPart)
      else ""

end MacroSandbox.TextFunction
