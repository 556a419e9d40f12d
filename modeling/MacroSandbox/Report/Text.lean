import MacroSandbox.Encoding.Hex
import MacroSandbox.Report

/-! Reports as indented JSON text. -/

namespace MacroSandbox

/-! ## Indented JSON -/

inductive JsonText
  | number (value : Nat)
  | text (content : String)
  | items (members : List JsonText)
  | fields (members : List (String × JsonText))

namespace JsonText

/-- A character as it stands in a quoted text. Control characters and the two characters with a
meaning of their own are escaped. -/
def escaped (character : Char) : List Char :=
  if character == '"' then ['\\', '"']
  else if character == '\\' then ['\\', '\\']
  else if character == '\n' then ['\\', 'n']
  else if character == '\r' then ['\\', 'r']
  else if character == '\t' then ['\\', 't']
  else if character.toNat == 0x08 then ['\\', 'b']
  else if character.toNat == 0x0C then ['\\', 'f']
  else if character.toNat < 0x20 then
    ['\\', 'u', '0', '0', Hex.lowerDigit (character.toNat / 16),
      Hex.lowerDigit (character.toNat % 16)]
  else [character]

def quote (content : String) : String :=
  "\"" ++ String.ofList (content.toList.flatMap escaped) ++ "\""

def newline (depth : Nat) : String :=
  "\n".pushn ' ' (2 * depth)

def enclose (depth : Nat) (opening closing : String) : List String → String
  | [] => opening ++ closing
  | members =>
      opening ++ newline (depth + 1) ++ String.intercalate ("," ++ newline (depth + 1)) members ++
        newline depth ++ closing

mutual

def render (depth : Nat) : JsonText → String
  | .number value => toString value
  | .text content => quote content
  | .items members => enclose depth "[" "]" (renderItems (depth + 1) members)
  | .fields members => enclose depth "\x7b" "\x7d" (renderFields (depth + 1) members)

def renderItems (depth : Nat) : List JsonText → List String
  | [] => []
  | item :: rest => render depth item :: renderItems depth rest

def renderFields (depth : Nat) : List (String × JsonText) → List String
  | [] => []
  | (name, value) :: rest =>
      (quote name ++ ": " ++ render depth value) :: renderFields depth rest

end

end JsonText

/-! ## Reports -/

def Action.toJsonText (action : Action) : JsonText :=
  .fields [("kind", .text action.kind), ("value", .text action.value),
    ("description", .text action.description)]

def Report.toJsonText (report : Report) : JsonText :=
  .fields
    [("entry_points", .items (report.entryPoints.map .text)),
     ("actions", .items (report.actions.map Action.toJsonText)),
     ("iocs", .items (report.indicators.map .text)),
     ("shellcode", .items (report.memory.map fun byte => .number byte.toNat)),
     ("dropped_files", .fields (report.droppedFiles.map fun (name, digest) =>
       (name, .text digest))),
     ("errors", .number report.errors)]

def Report.render (report : Report) : String :=
  report.toJsonText.render 0

end MacroSandbox
