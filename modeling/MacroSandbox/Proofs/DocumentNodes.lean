import MacroSandbox.Proofs.Assignments
import MacroSandbox.Proofs.StoredVariables

/-! Document nodes between their text and their typed value.

Writing the typed value of a node writes its text in Base64, and writing the text of a node of type
`bin.base64` writes its typed value. Main statement: `State.typed_value_restores_bytes`, by which a value
that is carried over as text has the same bytes at the other end. -/

namespace MacroSandbox

/-! ## Base64 -/

namespace Base64

theorem sextet?_character : ∀ sextet < 64, sextet? (character sextet) = some sextet := by
  decide

theorem character_ne_pad : ∀ sextet < 64, character sextet ≠ '=' := by
  decide

theorem isBlank_character : ∀ sextet < 64, Text.isBlank (character sextet) = false := by
  decide

theorem decode?_encode : ∀ bytes : List UInt8, decode? (encode bytes) = some bytes
  | [] => rfl
  | [first] => by
      have := first.toNat_lt
      have readFirst := sextet?_character (first.toNat / 4) (by omega)
      have readSecond := sextet?_character (first.toNat % 4 * 16) (by omega)
      have whole : first.toNat / 4 * 64 + first.toNat % 4 * 16 = first.toNat * 16 := by omega
      have unused : first.toNat / 4 * 64 % 16 = 0 := by omega
      simp [encode, decode?, readFirst, readSecond, whole, unused]
  | [first, second] => by
      have := first.toNat_lt
      have := second.toNat_lt
      obtain ⟨bits, isBits⟩ : ∃ bits, bits = first.toNat * 256 + second.toNat := ⟨_, rfl⟩
      have readFirst := sextet?_character (bits / 1024) (by omega)
      have readSecond := sextet?_character (bits / 16 % 64) (by omega)
      have readThird := sextet?_character (bits % 16 * 4) (by omega)
      have whole : (bits / 1024 * 64 + bits / 16 % 64) * 64 + bits % 16 * 4 = bits * 4 := by omega
      have unused : (bits / 1024 * 64 + bits / 16 % 64) * 64 % 4 = 0 := by omega
      have isFirst : bits * 4 / 1024 = first.toNat := by omega
      have isSecond : bits % 256 = second.toNat := by omega
      simp only [encode, ← isBits]
      rw [decode?]
      · simp [readFirst, readSecond, readThird, whole, unused, isFirst, isSecond]
      · -- The form with two signs of padding does not apply.
        exact character_ne_pad (bits % 16 * 4) (by omega)
  | first :: second :: third :: rest => by
      have := first.toNat_lt
      have := second.toNat_lt
      have := third.toNat_lt
      obtain ⟨bits, isBits⟩ : ∃ bits,
        bits = (first.toNat * 256 + second.toNat) * 256 + third.toNat := ⟨_, rfl⟩
      have readFirst := sextet?_character (bits / 262144) (by omega)
      have readSecond := sextet?_character (bits / 4096 % 64) (by omega)
      have readThird := sextet?_character (bits / 64 % 64) (by omega)
      have readFourth := sextet?_character (bits % 64) (by omega)
      have noPad := character_ne_pad (bits % 64) (by omega)
      have whole : ((bits / 262144 * 64 + bits / 4096 % 64) * 64 + bits / 64 % 64) * 64 + bits % 64 =
          bits := by omega
      have isFirst : bits / 65536 = first.toNat := by omega
      have isSecond : bits / 256 % 256 = second.toNat := by omega
      have isThird : bits % 256 = third.toNat := by omega
      simp [encode, decode?, ← isBits, readFirst, readSecond, readThird, readFourth, noPad, whole,
        isFirst, isSecond, isThird, decode?_encode rest]

theorem isBlank_of_mem_encode : ∀ {bytes : List UInt8} {character : Char},
    character ∈ encode bytes → Text.isBlank character = false
  | [first], character, member => by
      have := first.toNat_lt
      simp only [encode, List.mem_cons, List.not_mem_nil, or_false] at member
      rcases member with rfl | rfl | rfl | rfl
      · exact isBlank_character _ (by omega)
      · exact isBlank_character _ (by omega)
      · rfl
      · rfl
  | [first, second], character, member => by
      have := first.toNat_lt
      have := second.toNat_lt
      simp only [encode, List.mem_cons, List.not_mem_nil, or_false] at member
      rcases member with rfl | rfl | rfl | rfl
      · exact isBlank_character _ (by omega)
      · exact isBlank_character _ (by omega)
      · exact isBlank_character _ (by omega)
      · rfl
  | first :: second :: third :: rest, character, member => by
      have := first.toNat_lt
      have := second.toNat_lt
      have := third.toNat_lt
      simp only [encode, List.mem_cons] at member
      rcases member with rfl | rfl | rfl | rfl | later
      · exact isBlank_character _ (by omega)
      · exact isBlank_character _ (by omega)
      · exact isBlank_character _ (by omega)
      · exact isBlank_character _ (by omega)
      · exact isBlank_of_mem_encode later

end Base64

/-! ## Bytes of texts -/

@[simp] theorem Heap.text_text (heap : Heap) (content : String) : heap.text (.text content) = content :=
  rfl

theorem Heap.toList_bytes_text (heap : Heap) (content : String) :
    (heap.bytes (.text content)).data.toList = content.toList.map (·.val.toUInt8) := by
  have pushed : ∀ (characters : List Char) (bytes : ByteArray),
      (characters.foldl (fun bytes character => bytes.push character.val.toUInt8) bytes).data.toList =
        bytes.data.toList ++ characters.map (·.val.toUInt8) := by
    intro characters
    induction characters with
    | nil => simp
    | cons character rest induction =>
        intro bytes
        rw [List.foldl_cons, induction]
        simp [ByteArray.push]
  simp only [bytes, Text.fold_eq_foldl, text_text, pushed]
  rfl

theorem Heap.bytes_textOfBytes (heap : Heap) (bytes : ByteArray) :
    heap.bytes (.text (textOfBytes bytes.data.toList)) = bytes := by
  have codePoint (byte : UInt8) : (Char.ofNat byte.toNat).val.toUInt8 = byte := by
    have small := byte.toNat_lt
    have valid : byte.toNat.isValidChar := .inl (by omega)
    rw [← UInt8.toNat_inj, UInt32.toNat_toUInt8, Char.toNat_val, Char.toNat_ofNat, if_pos valid]
    omega
  apply ByteArray.ext
  rw [← Array.toList_inj, toList_bytes_text, textOfBytes, String.toList_ofList, List.map_map]
  exact (List.map_congr_left fun byte _ => codePoint byte).trans (List.map_id _)

/-! ## Names of properties -/

namespace Text

/-- A name with an ending is trimmed at its start, unless the ending has white space at its own ends. -/
theorem trim_append {name ending : String}
    (first : ending.toList.head?.any isBlank = false)
    (last : ending.toList.getLast?.any (!isBlank ·) = true) :
    trim (name ++ ending) = trimStartMatches isBlank name ++ ending := by
  have started : (name.toList ++ ending.toList).dropWhile isBlank =
      name.toList.dropWhile isBlank ++ ending.toList := by
    rw [List.dropWhile_append, dropWhile_eq_self first]
    split
    · rename_i nothing
      rw [List.isEmpty_iff.1 nothing, List.nil_append]
    · rfl
  obtain ⟨finish, isLast, notBlank⟩ := (Option.any_eq_true _ _).1 last
  have finished : (name.toList.dropWhile isBlank ++ ending.toList).getLast?.any isBlank = false := by
    simpa [List.getLast?_append, Option.mem_def.1 isLast] using notBlank
  rw [← String.toList_inj, toList_trim, String.toList_append, trimWhere, started,
    dropWhile_eq_self (by rwa [List.head?_reverse]), List.reverse_reverse, String.toList_append,
    trimStartMatches, String.toList_ofList]

theorem trimStartMatches_asciiLower (text : String) :
    trimStartMatches isBlank (asciiLower text) = asciiLower (trimStartMatches isBlank text) := by
  have blank : isBlank ∘ Char.toLower = isBlank := funext isBlank_toLower
  rw [← String.toList_inj]
  simp only [trimStartMatches, String.toList_ofList, toList_asciiLower, List.dropWhile_map, blank]

@[simp] theorem trimStartMatches_trimStartMatches (skip : Char → Bool) (text : String) :
    trimStartMatches skip (trimStartMatches skip text) = trimStartMatches skip text := by
  simp [trimStartMatches, List.dropWhile_idempotent]

theorem dropEnd?_append_eq_none {name ending other : String}
    (shorter : other.toList.length ≤ ending.toList.length)
    (differs : ¬ other.toList <:+ ending.toList) : dropEnd? other (name ++ ending) = none := by
  refine if_neg fun ends => ?_
  rw [endsWith_iff, String.toList_append] at ends
  exact differs (List.suffix_of_suffix_length_le ends (List.suffix_append _ _) shorter)

end Text

/-- The name of a node as the names of its properties are stored and compared: without white space in
front, in lower case. -/
def nodeKey (node : String) : String :=
  Text.asciiLower (Text.trimStartMatches Text.isBlank node)

section NodeKey

variable (node : String)

theorem asciiLower_trim_property {property lower : String}
    (first : property.toList.head?.any Text.isBlank = false)
    (last : property.toList.getLast?.any (!Text.isBlank ·) = true)
    (isLower : Text.asciiLower property = lower) :
    Text.asciiLower (Text.trim (node ++ property)) = nodeKey node ++ lower := by
  rw [Text.trim_append first last, Text.asciiLower_append, isLower, nodeKey]

theorem asciiLower_trim_text :
    Text.asciiLower (Text.trim (node ++ ".text")) = nodeKey node ++ ".text" :=
  asciiLower_trim_property node (by decide) (by decide) rfl

theorem asciiLower_trim_nodeTypedValue :
    Text.asciiLower (Text.trim (node ++ ".nodeTypedValue")) = nodeKey node ++ ".nodetypedvalue" :=
  asciiLower_trim_property node (by decide) (by decide) rfl

theorem asciiLower_trim_dataType :
    Text.asciiLower (Text.trim (node ++ ".dataType")) = nodeKey node ++ ".datatype" :=
  asciiLower_trim_property node (by decide) (by decide) rfl

theorem asciiLower_nodeKey_append {lower : String} (isLower : Text.asciiLower lower = lower) :
    Text.asciiLower (nodeKey node ++ lower) = nodeKey node ++ lower := by
  rw [Text.asciiLower_append, isLower, nodeKey, Text.asciiLower_asciiLower]

theorem trim_nodeKey_append {property : String}
    (first : property.toList.head?.any Text.isBlank = false)
    (last : property.toList.getLast?.any (!Text.isBlank ·) = true) :
    Text.trim (nodeKey node ++ property) = nodeKey node ++ property := by
  rw [Text.trim_append first last, nodeKey, Text.trimStartMatches_asciiLower,
    Text.trimStartMatches_trimStartMatches]

end NodeKey

/-! ## Bare frames -/

namespace State

variable {state : State} {environment : Environment}

/-- The frame is in no `With` block and knows no types, so names are complete and values are stored as
they are. -/
structure IsBare (state : State) : Prop where
  outside : state.frame.receiverName? = none
  untyped : ∀ name, state.frame.types.get? name = none

theorem isBare_start (environment : Environment) (sink : Option (Array Action)) (heap : Heap)
    (caches : Caches) : (start environment sink heap caches).IsBare :=
  ⟨rfl, fun name => by simp [start, NameMap.get?]⟩

theorem receiver_scope (environment : Environment) (state : State) :
    (state.scope environment).receiver = state.frame.receiverName? := rfl

@[simp] theorem types_bind (placement : Placement) (name : String) (binding : Binding) :
    (state.bind placement name binding).frame.types = state.frame.types := by
  unfold bind
  split <;> rfl

@[simp] theorem types_scanValue (value : Value) :
    (state.scanValue value).frame.types = state.frame.types := by
  cases value <;> rfl

@[simp] theorem types_set (name : String) (value : Value) :
    (state.set environment name value).frame.types = state.frame.types := by
  rcases set_cases environment state name value with result | ⟨sibling, content, _, result⟩ <;>
    simp [result]

namespace IsBare

theorem set (bare : state.IsBare) (environment : Environment) (name : String) (value : Value) :
    (state.set environment name value).IsBare :=
  ⟨by rw [← receiver_scope environment, receiver_set, receiver_scope, bare.outside],
    fun other => by rw [types_set, bare.untyped]⟩

theorem storedName_eq (bare : state.IsBare) (name : String) :
    state.storedName name = Text.trim name := by
  simp [storedName, bare.outside]

theorem set_eq (bare : state.IsBare) (environment : Environment) (name : String) (value : Value) :
    state.set environment name value =
      ((state.scanValue value).convertNode environment .automatic (Text.trim name) value).bind
        .automatic (Text.trim name) (.value value) := by
  simp only [State.set, assign, bare.storedName_eq, bare.untyped, Heap.coerceTo]

theorem get_eq (bare : state.IsBare) {name : String} {value : Value}
    (bound : (state.scope environment).value? (Text.trim name) = some value) :
    (state.scope environment).get name = .ok value := by
  refine Scope.get_of_bound ?_ bound
  simp [Scope.qualified?, receiver_scope, bare.outside]

theorem value?_set (bare : state.IsBare) (environment : Environment) (name : String) (value : Value) :
    ((state.set environment name value).scope environment).value? (Text.trim name) = some value := by
  rw [value?_set_self value (by rw [bare.storedName_eq]), bare.untyped]
  rfl

/-! ## Nodes -/

/-- After the typed value of a node is written, its text is the Base64 of the typed value. -/
theorem get_text_of_typedValue (bare : state.IsBare) (environment : Environment) (node : String)
    (value : Value) :
    ((state.set environment (node ++ ".nodeTypedValue") value).scope environment).get
        (node ++ ".text") =
      .ok (.text (String.ofList (Base64.encode (state.heap.bytes value).data.toList))) := by
  apply (bare.set environment _ value).get_eq
  rw [bare.set_eq, value?_bind, asciiLower_trim_nodeTypedValue, asciiLower_trim_text,
    if_neg (by simp [String.append_right_inj])]
  have noText : Text.dropEnd? ".text" (nodeKey node ++ ".nodetypedvalue") = none :=
    Text.dropEnd?_append_eq_none (by decide) (by decide)
  simp only [convertNode, asciiLower_trim_nodeTypedValue, noText, Text.dropEnd?_append,
    heap_scanValue]
  rw [value?_bind, asciiLower_trim_text, asciiLower_nodeKey_append node rfl, if_pos rfl]

/-- After the text of a node of type `bin.base64` is written, its typed value is the text of the bytes
that the Base64 stands for. -/
theorem get_typedValue_of_text (bare : state.IsBare) (environment : Environment) {node content : String}
    {bytes : List UInt8}
    (isBase64 : (state.scope environment).value? (Text.trim (node ++ ".dataType")) =
      some (.text "bin.base64"))
    (decoded : Base64.decode? (Text.trim content).toList = some bytes) :
    ((state.set environment (node ++ ".text") (.text content)).scope environment).get
        (node ++ ".nodeTypedValue") = .ok (.text (textOfBytes bytes)) := by
  have trimmed : Text.trim (nodeKey node ++ ".datatype") = nodeKey node ++ ".datatype" :=
    trim_nodeKey_append node (by decide) (by decide)
  have known : (state.scope environment).get? (nodeKey node ++ ".datatype") =
      some (.text "bin.base64") := by
    have bound := isBase64
    rw [← Scope.value?_asciiLower, asciiLower_trim_dataType, ← trimmed] at bound
    rw [Scope.get?, bare.get_eq bound]
    rfl
  have isKind : (Text.asciiLower "bin.base64" == "bin.base64") = true := by decide +kernel
  apply (bare.set environment _ (.text content)).get_eq
  rw [bare.set_eq, value?_bind, asciiLower_trim_text, asciiLower_trim_nodeTypedValue,
    if_neg (by simp [String.append_right_inj])]
  simp only [convertNode, asciiLower_trim_text, Text.dropEnd?_append, scope_scanValue,
    heap_scanValue, known, Heap.text_text, isKind, decoded, if_true]
  rw [value?_bind, asciiLower_trim_nodeTypedValue, asciiLower_nodeKey_append node rfl, if_pos rfl]

end IsBare

/-! ## Round trip -/

/-- A value survives as the text of a node: in another run, with the type of the node set to
`bin.base64` and its text to the text that the value gave, the typed value has the bytes of the value. -/
theorem typed_value_restores_bytes (environment later : Environment)
    (sink laterSink : Option (Array Action)) (heap laterHeap : Heap) (caches laterCaches : Caches)
    (node : String) (value : Value) :
    ∃ content restored,
      (((start environment sink heap caches).set environment (node ++ ".nodeTypedValue")
          value).scope environment).get (node ++ ".text") = .ok content ∧
      let final := ((start later laterSink laterHeap laterCaches).set later (node ++ ".dataType")
        (.text "bin.base64")).set later (node ++ ".text") content
      (final.scope later).get (node ++ ".nodeTypedValue") = .ok restored ∧
        final.heap.bytes restored = heap.bytes value := by
  have bare := isBare_start later laterSink laterHeap laterCaches
  have encoded := (isBare_start environment sink heap caches).get_text_of_typedValue environment node
    value
  have decoded : Base64.decode? (Text.trim
      (String.ofList (Base64.encode (heap.bytes value).data.toList))).toList =
        some (heap.bytes value).data.toList := by
    rw [Text.trim_eq_self (by simpa using fun _ => Base64.isBlank_of_mem_encode), String.toList_ofList,
      Base64.decode?_encode]
  have restored := (bare.set later (node ++ ".dataType") (.text "bin.base64")).get_typedValue_of_text
    later (bare.value?_set later _ _) decoded
  exact ⟨_, _, encoded, restored, Heap.bytes_textOfBytes _ _⟩

end State

end MacroSandbox
