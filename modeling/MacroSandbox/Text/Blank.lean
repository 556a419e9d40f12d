import MacroSandbox.Text.Walk

/-! White space, ASCII case and the trimming of text. -/

namespace MacroSandbox.Text

/-! ## White space -/

/-- The characters of the white-space property: the ASCII blanks and line breaks, the next-line and
no-break characters, and the typographic spaces. -/
def isBlank (character : Char) : Bool :=
  let code := character.toNat
  (0x9 ≤ code && code ≤ 0xD) || code == 0x20 || code == 0x85 || code == 0xA0 ||
    code == 0x1680 || (0x2000 ≤ code && code ≤ 0x200A) || code == 0x2028 ||
    code == 0x2029 || code == 0x202F || code == 0x205F || code == 0x3000

def trimWhere (skip : Char → Bool) (characters : List Char) : List Char :=
  ((characters.dropWhile skip).reverse.dropWhile skip).reverse

theorem trimWhere_sublist (skip : Char → Bool) (characters : List Char) :
    (trimWhere skip characters).Sublist characters := by
  have ending := (List.dropWhile_sublist skip (l := (characters.dropWhile skip).reverse)).reverse
  rw [List.reverse_reverse] at ending
  exact ending.trans (List.dropWhile_sublist skip)

/-- The text without the white space around it. Text that has none there is returned as it is. -/
def trim (text : String) : String :=
  if text.front?.any isBlank || text.back?.any isBlank then
    String.ofList (trimWhere isBlank text.toList)
  else text

theorem dropWhile_eq_self {skip : Char → Bool} {characters : List Char}
    (kept : characters.head?.any skip = false) : characters.dropWhile skip = characters := by
  cases characters with
  | nil => rfl
  | cons first rest => exact List.dropWhile_cons_of_neg (by simpa using kept)

/-- Characters are trimmed only if the first or the last of them is to be skipped. -/
theorem trimWhere_eq_self {skip : Char → Bool} {characters : List Char}
    (first : characters.head?.any skip = false) (last : characters.getLast?.any skip = false) :
    trimWhere skip characters = characters := by
  rw [trimWhere, dropWhile_eq_self first, dropWhile_eq_self (by simpa using last),
    List.reverse_reverse]

theorem toList_trim (text : String) : (trim text).toList = trimWhere isBlank text.toList := by
  unfold trim
  rw [String.front?_eq, String.back?_eq]
  split
  · exact String.toList_ofList
  · rename_i noBlank
    simp only [Bool.or_eq_true, not_or, Bool.not_eq_true] at noBlank
    exact (trimWhere_eq_self noBlank.1 noBlank.2).symm

theorem trim_eq_self {text : String}
    (noBlank : ∀ character ∈ text.toList, isBlank character = false) : trim text = text := by
  rw [← String.toList_inj, toList_trim]
  refine trimWhere_eq_self ?_ ?_
  · cases first : text.toList.head? with
    | none => rfl
    | some character => exact noBlank character (List.mem_of_head? first)
  · cases last : text.toList.getLast? with
    | none => rfl
    | some character => exact noBlank character (List.mem_of_getLast? last)

def trimMatches (skip : Char → Bool) (text : String) : String :=
  String.ofList (trimWhere skip text.toList)

def trimStartMatches (skip : Char → Bool) (text : String) : String :=
  String.ofList (text.toList.dropWhile skip)

def trimEndMatches (skip : Char → Bool) (text : String) : String :=
  String.ofList ((text.toList.reverse.dropWhile skip).reverse)

/-! ## ASCII case

Names are compared without regard to the case of the letters `A` to `Z`; every other character
stands for itself. -/

/-- The text with its ASCII letters in lower case. Text without a capital is returned as it is. -/
def asciiLower (text : String) : String :=
  if any Char.isUpper text then map Char.toLower text else text

theorem toLower_eq_self {character : Char} (notUpper : character.isUpper = false) :
    character.toLower = character :=
  dif_neg (of_decide_eq_false notUpper)

theorem toList_asciiLower (text : String) :
    (asciiLower text).toList = text.toList.map Char.toLower := by
  unfold asciiLower
  rw [any_eq]
  split
  · exact toList_map _ _
  · rename_i noCapital
    simp only [List.any_eq_true, not_exists, not_and, Bool.not_eq_true] at noCapital
    have unchanged : ∀ character ∈ text.toList, character.toLower = character :=
      fun character member => toLower_eq_self (noCapital character member)
    rw [List.map_congr_left unchanged, List.map_id']

theorem asciiLower_append (first second : String) :
    asciiLower (first ++ second) = asciiLower first ++ asciiLower second := by
  rw [← String.toList_inj]
  simp [toList_asciiLower]

def asciiUpper (text : String) : String :=
  map Char.toUpper text

def sameIgnoringCase (left right : String) : Bool :=
  asciiLower left == asciiLower right

theorem sameIgnoringCase_iff {left right : String} :
    sameIgnoringCase left right = true ↔ asciiLower left = asciiLower right :=
  beq_iff_eq

end MacroSandbox.Text
