import MacroSandbox.Proofs.LoopSimulation
import Mathlib.Data.List.Forall2

/-! Heaps of two runs of the same code.

Runs that do the same allocate in the same order. So what one run allocates as its third list, say, the
other run allocates as its third list too, and the two lists match as long as their items do. What a
list or a map holds has a shape, which it keeps, so that no value of a run contains itself. -/

namespace MacroSandbox

/-! ## Lists and tables that are alike -/

section

variable {α β : Type} {related : α → β → Prop}

theorem rel_getElem?_of_forall₂ {items : List α} {others : List β}
    (alike : List.Forall₂ related items others) (index : Nat) :
    Option.Rel related items[index]? others[index]? := by
  induction alike generalizing index with
  | nil => exact .none
  | cons same _ induction =>
      cases index with
      | zero => exact .some same
      | succ index => exact induction index

theorem forall₂_set {items : List α} {others : List β} (alike : List.Forall₂ related items others)
    {value : α} {other : β} (same : related value other) (index : Nat) :
    List.Forall₂ related (items.set index value) (others.set index other) := by
  induction alike generalizing index with
  | nil => exact .nil
  | cons first rest induction =>
      cases index with
      | zero => exact .cons same rest
      | succ index => exact .cons first (induction index)

theorem forall₂_replicate {value : α} {other : β} (same : related value other) (count : Nat) :
    List.Forall₂ related (List.replicate count value) (List.replicate count other) := by
  induction count with
  | zero => exact .nil
  | succ count induction => exact .cons same induction

theorem map_eq_map_of_forall₂ {γ : Type} {image : α → γ} {otherImage : β → γ} {items : List α}
    {others : List β} (alike : List.Forall₂ related items others)
    (same : ∀ {item other}, related item other → image item = otherImage other) :
    items.map image = others.map otherImage := by
  induction alike with
  | nil => rfl
  | cons first _ induction => rw [List.map_cons, List.map_cons, same first, induction]

theorem rel_imp {other : α → β → Prop} (weaker : ∀ {value copy}, related value copy → other value copy)
    {value : Option α} {copy : Option β} (same : Option.Rel related value copy) :
    Option.Rel other value copy := by
  cases same with
  | none => exact .none
  | some same => exact .some (weaker same)

theorem map_eq_map_of_rel {γ : Type} {image : α → γ} {otherImage : β → γ} {value : Option α}
    {copy : Option β} (alike : Option.Rel related value copy)
    (same : ∀ {item other}, related item other → image item = otherImage other) :
    value.map image = copy.map otherImage := by
  cases alike with
  | none => rfl
  | some alike => exact congrArg some (same alike)

end

def TablesAlike {α β : Type} (related : String → α → β → Prop) (table : Std.TreeMap String α)
    (other : Std.TreeMap String β) : Prop :=
  ∀ key, Option.Rel (related key) (table.get? key) (other.get? key)

namespace TablesAlike

variable {α β : Type} {entries : α → β → Prop} {related weaker : String → α → β → Prop}
  {table : Std.TreeMap String α} {other : Std.TreeMap String β}

theorem imp (alike : TablesAlike related table other)
    (implies : ∀ {key value copy}, related key value copy → weaker key value copy) :
    TablesAlike weaker table other :=
  fun key => rel_imp implies (alike key)

theorem empty : TablesAlike related ∅ ∅ := by
  intro key
  simp only [Std.TreeMap.get?_eq_getElem?, Std.TreeMap.getElem?_emptyc]
  exact .none

theorem insert (alike : TablesAlike related table other) {key : String} {value : α} {copy : β}
    (same : related key value copy) :
    TablesAlike related (table.insert key value) (other.insert key copy) := by
  intro name
  simp only [Std.TreeMap.get?_eq_getElem?, Std.TreeMap.getElem?_insert]
  split
  · rename_i isKey
    rw [← Std.LawfulEqCmp.compare_eq_iff_eq.1 isKey]
    exact .some same
  · exact alike name

theorem insertMany (alike : TablesAlike related table other) {entries : List (String × α)}
    {others : List (String × β)}
    (same : List.Forall₂ (fun entry copy => entry.1 = copy.1 ∧ related entry.1 entry.2 copy.2) entries
      others) : TablesAlike related (table.insertMany entries) (other.insertMany others) := by
  induction same generalizing table other with
  | nil => simpa only [Std.TreeMap.insertMany_nil] using alike
  | @cons entry copy _ _ first _ induction =>
      rcases entry with ⟨key, value⟩
      rcases copy with ⟨name, value⟩
      rcases first with ⟨sameKey, first⟩
      dsimp only at sameKey first
      subst sameKey
      rw [Std.TreeMap.insertMany_cons, Std.TreeMap.insertMany_cons]
      exact induction (alike.insert first)

theorem ofList {entries : List (String × α)} {others : List (String × β)}
    (same : List.Forall₂ (fun entry copy => entry.1 = copy.1 ∧ related entry.1 entry.2 copy.2) entries
      others) : TablesAlike related (.ofList entries) (.ofList others) := by
  rw [Std.TreeMap.ofList_eq_insertMany_empty, Std.TreeMap.ofList_eq_insertMany_empty]
  exact empty.insertMany same

theorem ofList_zip {keys : List String} {values : List α} {others : List β} {related : α → β → Prop}
    (same : List.Forall₂ related values others) :
    TablesAlike (fun _ => related) (.ofList (keys.zip values)) (.ofList (keys.zip others)) := by
  apply ofList
  induction same generalizing keys with
  | nil => simp
  | cons first _ induction =>
      cases keys with
      | nil => exact .nil
      | cons key keys => exact .cons ⟨rfl, first⟩ induction

theorem contains_eq (alike : TablesAlike related table other) (key : String) :
    table.contains key = other.contains key := by
  have same := alike key
  rw [Std.TreeMap.get?_eq_getElem?, Std.TreeMap.get?_eq_getElem?] at same
  rw [Std.TreeMap.contains_eq_isSome_getElem?, Std.TreeMap.contains_eq_isSome_getElem?]
  generalize table[key]? = found at same
  generalize other[key]? = copy at same
  cases same <;> rfl

theorem keys_eq (alike : TablesAlike related table other) : table.keys = other.keys := by
  apply @List.Perm.eq_of_pairwise _ (fun left right => compare left right = .lt)
  · intro left right _ _ before after
    rw [Std.OrientedCmp.gt_of_lt before] at after
    cases after
  · exact Std.TreeMap.ordered_keys
  · exact Std.TreeMap.ordered_keys
  · apply (List.perm_ext_iff_of_nodup Std.TreeMap.nodup_keys Std.TreeMap.nodup_keys).2
    intro key
    rw [Std.TreeMap.mem_keys, Std.TreeMap.mem_keys, Std.TreeMap.mem_iff_contains,
      Std.TreeMap.mem_iff_contains, alike.contains_eq]

theorem toList (alike : TablesAlike related table other) :
    List.Forall₂ (fun entry copy => entry.1 = copy.1 ∧ related entry.1 entry.2 copy.2) table.toList
      other.toList := by
  have sameKeys := alike.keys_eq
  rw [← Std.TreeMap.map_fst_toList_eq_keys, ← Std.TreeMap.map_fst_toList_eq_keys] at sameKeys
  apply List.forall₂_iff_get.2
  refine ⟨by simpa using congrArg List.length sameKeys, fun index inside insideToo => ?_⟩
  have sameKey : table.toList[index].1 = other.toList[index].1 := by
    have sameKey := congrArg (·[index]?) sameKeys
    simpa only [List.getElem?_map, List.getElem?_eq_getElem inside,
      List.getElem?_eq_getElem insideToo, Option.map_some, Option.some.injEq] using sameKey
  have found : table[table.toList[index].1]? = some table.toList[index].2 :=
    Std.TreeMap.mem_toList_iff_getElem?_eq_some.1 (List.getElem_mem inside)
  have copy : other[other.toList[index].1]? = some other.toList[index].2 :=
    Std.TreeMap.mem_toList_iff_getElem?_eq_some.1 (List.getElem_mem insideToo)
  have same := alike table.toList[index].1
  rw [Std.TreeMap.get?_eq_getElem?, Std.TreeMap.get?_eq_getElem?, found, sameKey, copy] at same
  cases same with
  | some same => exact ⟨sameKey, sameKey.symm ▸ same⟩

theorem values (alike : TablesAlike (fun _ => entries) table other) :
    List.Forall₂ entries table.values other.values := by
  rw [values_eq_map_toList, values_eq_map_toList, List.forall₂_map_left_iff,
    List.forall₂_map_right_iff]
  exact alike.toList.imp fun _ _ same => same.2

end TablesAlike

inductive OutcomesAlike {α β : Type} (related : α → β → Prop) : Except Fault α → Except Fault β → Prop
  | ok {value : α} {copy : β} (same : related value copy) :
      OutcomesAlike related (.ok value) (.ok copy)
  | error (fault : Fault) : OutcomesAlike related (.error fault) (.error fault)

theorem OutcomesAlike.of_eq {α : Type} {outcome other : Except Fault α} (same : outcome = other) :
    OutcomesAlike Eq outcome other := by
  subst same
  cases outcome with
  | error fault => exact .error fault
  | ok value => exact .ok rfl

/-! ## Shapes -/

/-- What containers a value is, and what they hold. A value that is no container has every shape. -/
inductive Shape
  | scalar
  | list (items : Shape)
  | map (entries : Shape)

namespace Shape

def depth : Shape → Nat
  | .scalar => 0
  | .list items => items.depth + 1
  | .map entries => entries.depth + 1

def array (items : Shape) : (dimensions : Nat) → Shape
  | 0 => items
  | dimensions + 1 => .list (items.array dimensions)

/-- What so many indices find in a value. The first index of a map leaves no use for others. -/
def HasElement : (indices : Nat) → Shape → Shape → Prop
  | 0, shape, element => element = shape
  | _ + 1, .scalar, _ => True
  | indices + 1, .list items, element => items.HasElement indices element
  | _ + 1, .map entries, element => element = entries

def HasSlot : Shape → (indices : Nat) → Shape → Prop
  | .map entries, _, stored => stored = entries
  | .list items, 1, stored => stored = items
  | .list items, 2, stored => items = .list stored
  | _, _, _ => True

def HasItems : Shape → Shape → Prop
  | .list items, item => item = items
  | _, _ => True

end Shape

/-- The shapes of what the lists and the maps of a run hold, in the order in which they came to be. -/
structure Layout where
  lists : List Shape := []
  maps : List Shape := []

namespace Layout

structure Grows (layout later : Layout) : Prop where
  lists : layout.lists <+: later.lists
  maps : layout.maps <+: later.maps

private theorem getElem?_of_prefix {shapes later : List Shape} (isPrefix : shapes <+: later)
    {offset : Nat} {found : Shape} (isFound : shapes[offset]? = some found) :
    later[offset]? = some found := by
  rcases isPrefix with ⟨added, rfl⟩
  rw [List.getElem?_append_left (List.getElem?_eq_some_iff.1 isFound).1, isFound]

theorem Grows.refl (layout : Layout) : layout.Grows layout :=
  ⟨List.prefix_rfl, List.prefix_rfl⟩

theorem Grows.trans {layout later last : Layout} (first : layout.Grows later)
    (second : later.Grows last) : layout.Grows last :=
  ⟨first.lists.trans second.lists, first.maps.trans second.maps⟩

theorem Grows.getElem?_lists {layout later : Layout} (grows : layout.Grows later) {offset : Nat}
    {found : Shape} (isFound : layout.lists[offset]? = some found) :
    later.lists[offset]? = some found :=
  getElem?_of_prefix grows.lists isFound

theorem Grows.getElem?_maps {layout later : Layout} (grows : layout.Grows later) {offset : Nat}
    {found : Shape} (isFound : layout.maps[offset]? = some found) :
    later.maps[offset]? = some found :=
  getElem?_of_prefix grows.maps isFound

def addList (layout : Layout) (items : Shape) : Layout :=
  { layout with lists := layout.lists ++ [items] }

def addMap (layout : Layout) (entries : Shape) : Layout :=
  { layout with maps := layout.maps ++ [entries] }

theorem grows_addList (layout : Layout) (items : Shape) : layout.Grows (layout.addList items) :=
  ⟨List.prefix_append _ _, List.prefix_rfl⟩

theorem grows_addMap (layout : Layout) (entries : Shape) : layout.Grows (layout.addMap entries) :=
  ⟨List.prefix_rfl, List.prefix_append _ _⟩

def shallow (layout : Layout) (depth : Nat) : Nat :=
  layout.lists.countP (·.depth < depth) + layout.maps.countP (·.depth < depth)

private theorem countP_le_countP_succ (shapes : List Shape) (depth : Nat) :
    shapes.countP (·.depth < depth) ≤ shapes.countP (·.depth < depth + 1) := by
  apply List.countP_mono_left
  intro other _ less
  simp only [decide_eq_true_eq] at less ⊢
  omega

private theorem countP_lt_countP {shapes : List Shape} {shape : Shape} (member : shape ∈ shapes) :
    shapes.countP (·.depth < shape.depth) < shapes.countP (·.depth < shape.depth + 1) := by
  rcases List.append_of_mem member with ⟨before, after, rfl⟩
  have first := countP_le_countP_succ before shape.depth
  have last := countP_le_countP_succ after shape.depth
  simp only [List.countP_append, List.countP_cons, Nat.lt_irrefl, decide_false, Nat.lt_succ_self,
    decide_true, Bool.false_eq_true, if_false, if_true]
  omega

/-- A walk that is deep enough for a container is deep enough for what it holds. -/
theorem exists_less {layout : Layout} {inner outer depth : Nat}
    (less : layout.shallow inner < layout.shallow outer) (deep : layout.shallow outer ≤ depth) :
    ∃ rest, depth = rest + 1 ∧ layout.shallow inner ≤ rest :=
  ⟨depth - 1, by omega, by omega⟩

theorem shallow_lt_of_list {layout : Layout} {offset : Nat} {items : Shape}
    (found : layout.lists[offset]? = some items) :
    layout.shallow items.depth < layout.shallow (Shape.list items).depth :=
  Nat.add_lt_add_of_lt_of_le (countP_lt_countP (List.mem_of_getElem? found))
    (countP_le_countP_succ _ _)

theorem shallow_lt_of_map {layout : Layout} {offset : Nat} {entries : Shape}
    (found : layout.maps[offset]? = some entries) :
    layout.shallow entries.depth < layout.shallow (Shape.map entries).depth :=
  Nat.add_lt_add_of_le_of_lt (countP_le_countP_succ _ _)
    (countP_lt_countP (List.mem_of_getElem? found))

theorem shallow_le (layout : Layout) (depth : Nat) :
    layout.shallow depth ≤ layout.lists.length + layout.maps.length :=
  Nat.add_le_add List.countP_le_length List.countP_le_length

end Layout

/-! ## Values that match -/

theorem Heap.contentsWithin_congr {heap other : Heap} {value : Value} {depth otherDepth : Nat}
    (scalar : value.isReference = false) :
    heap.contentsWithin depth value = other.contentsWithin otherDepth value := by
  rw [contentsWithin_eq_contents scalar, contentsWithin_eq_contents scalar]
  cases value <;> first | rfl | cases scalar

theorem Heap.textWithin_congr {heap other : Heap} {value : Value} {depth otherDepth : Nat}
    (scalar : value.isReference = false) :
    heap.textWithin depth value = other.textWithin otherDepth value := by
  cases value <;> first | (cases depth <;> cases otherDepth <;> rfl) | cases scalar

/-- The heaps with which two runs start. What the runs allocate stands after what these hold. -/
structure Bases where
  left : Heap
  right : Heap

/-- Two values of a shape are the same, or they are what the two runs allocated as the same list or the
same map. -/
inductive Bases.Matches (bases : Bases) (layout : Layout) : Shape → Value → Value → Prop
  | scalar {shape : Shape} {value : Value} (isScalar : value.isReference = false) :
      bases.Matches layout shape value value
  | list {items : Shape} {offset : Nat} (found : layout.lists[offset]? = some items) :
      bases.Matches layout (.list items) (.list (bases.left.lists.size + offset))
        (.list (bases.right.lists.size + offset))
  | map {entries : Shape} {offset : Nat} (found : layout.maps[offset]? = some entries) :
      bases.Matches layout (.map entries) (.map (bases.left.maps.size + offset))
        (.map (bases.right.maps.size + offset))

namespace Bases.Matches

variable {bases : Bases} {layout later : Layout} {shape : Shape} {value other : Value}

theorem mono (same : bases.Matches layout shape value other) (grows : layout.Grows later) :
    bases.Matches later shape value other := by
  cases same with
  | scalar isScalar => exact .scalar isScalar
  | list found => exact .list (grows.getElem?_lists found)
  | map found => exact .map (grows.getElem?_maps found)

theorem congr {α : Type} (same : bases.Matches layout shape value other) (image : Value → α)
    (lists : ∀ place copy, image (.list place) = image (.list copy))
    (maps : ∀ place copy, image (.map place) = image (.map copy)) : image value = image other := by
  cases same with
  | scalar => rfl
  | list => exact lists _ _
  | map => exact maps _ _

end Bases.Matches

def Bases.Agree (bases : Bases) (layout : Layout) (value other : Value) : Prop :=
  ∃ shape, bases.Matches layout shape value other

namespace Bases.Agree

variable {bases : Bases} {layout later : Layout} {value other : Value}

theorem mono (same : bases.Agree layout value other) (grows : layout.Grows later) :
    bases.Agree later value other :=
  same.imp fun _ same => same.mono grows

theorem congr {α : Type} (same : bases.Agree layout value other) (image : Value → α)
    (lists : ∀ place copy, image (.list place) = image (.list copy))
    (maps : ∀ place copy, image (.map place) = image (.map copy)) : image value = image other :=
  same.elim fun _ same => same.congr image lists maps

theorem toInteger_eq (same : bases.Agree layout value other) : value.toInteger = other.toInteger :=
  same.congr _ (fun _ _ => rfl) fun _ _ => rfl

theorem toFloat_eq (same : bases.Agree layout value other) : value.toFloat = other.toFloat :=
  same.congr _ (fun _ _ => rfl) fun _ _ => rfl

theorem toNumber_eq (same : bases.Agree layout value other) : value.toNumber = other.toNumber :=
  same.congr _ (fun _ _ => rfl) fun _ _ => rfl

theorem dimensionOfBound_eq (same : bases.Agree layout value other) :
    dimensionOfBound value = dimensionOfBound other := by
  simp only [dimensionOfBound, same.toInteger_eq]

theorem apply_eq (same : bases.Agree layout value other) (operator : UnaryOperator) :
    operator.apply value = operator.apply other := by
  cases operator with
  | negate => exact same.congr (UnaryOperator.apply .negate) (fun _ _ => rfl) fun _ _ => rfl
  | complement => exact same.congr (UnaryOperator.apply .complement) (fun _ _ => rfl) fun _ _ => rfl

end Bases.Agree

/-- The heaps of two runs that did the same: what the runs allocated matches. -/
structure Bases.HeapsMatch (bases : Bases) (layout : Layout) (heap other : Heap) : Prop where
  lists : heap.lists.size = bases.left.lists.size + layout.lists.length
  otherLists : other.lists.size = bases.right.lists.size + layout.lists.length
  maps : heap.maps.size = bases.left.maps.size + layout.maps.length
  otherMaps : other.maps.size = bases.right.maps.size + layout.maps.length
  items : ∀ offset shape, layout.lists[offset]? = some shape →
    List.Forall₂ (bases.Matches layout shape) (heap.list (bases.left.lists.size + offset)).toList
      (other.list (bases.right.lists.size + offset)).toList
  entries : ∀ offset shape, layout.maps[offset]? = some shape →
    TablesAlike (fun _ => bases.Matches layout shape) (heap.map (bases.left.maps.size + offset))
      (other.map (bases.right.maps.size + offset))

namespace Bases.HeapsMatch

variable {bases : Bases} {layout : Layout} {heap other : Heap}

/-! ### Walks through values -/

theorem contentsWithin_eq (alike : bases.HeapsMatch layout heap other) :
    ∀ {shape : Shape} {value copy : Value} {depth otherDepth : Nat},
      bases.Matches layout shape value copy → layout.shallow shape.depth ≤ depth →
      layout.shallow shape.depth ≤ otherDepth →
      heap.contentsWithin depth value = other.contentsWithin otherDepth copy
  | _, _, _, _, _, .scalar isScalar, _, _ => Heap.contentsWithin_congr isScalar
  | .list items, _, _, _, _, .list found, deep, deepToo => by
      rcases Layout.exists_less (Layout.shallow_lt_of_list found) deep with ⟨_, rfl, inner⟩
      rcases Layout.exists_less (Layout.shallow_lt_of_list found) deepToo with ⟨_, rfl, innerToo⟩
      exact congrArg Datum.list (map_eq_map_of_forall₂ (alike.items _ _ found)
        fun same => contentsWithin_eq alike same inner innerToo)
  | .map entries, _, _, _, _, .map found, deep, deepToo => by
      rcases Layout.exists_less (Layout.shallow_lt_of_map found) deep with ⟨_, rfl, inner⟩
      rcases Layout.exists_less (Layout.shallow_lt_of_map found) deepToo with ⟨_, rfl, innerToo⟩
      have tables := alike.entries _ _ found
      rw [Heap.contentsWithin, Heap.contentsWithin, tables.keys_eq]
      exact congrArg (Datum.map _) (map_eq_map_of_forall₂ tables.values
        fun same => contentsWithin_eq alike same inner innerToo)

theorem textWithin_eq (alike : bases.HeapsMatch layout heap other) :
    ∀ {shape : Shape} {value copy : Value} {depth otherDepth : Nat},
      bases.Matches layout shape value copy → layout.shallow shape.depth ≤ depth →
      layout.shallow shape.depth ≤ otherDepth →
      heap.textWithin depth value = other.textWithin otherDepth copy
  | _, _, _, _, _, .scalar isScalar, _, _ => Heap.textWithin_congr isScalar
  | .list items, _, _, _, _, .list found, deep, deepToo => by
      rcases Layout.exists_less (Layout.shallow_lt_of_list found) deep with ⟨_, rfl, inner⟩
      rcases Layout.exists_less (Layout.shallow_lt_of_list found) deepToo with ⟨_, rfl, innerToo⟩
      exact congrArg String.join (map_eq_map_of_forall₂ (alike.items _ _ found)
        fun same => textWithin_eq alike same inner innerToo)
  | .map entries, _, _, depth, otherDepth, .map found, _, _ => by
      cases depth <;> cases otherDepth <;> rfl

theorem shallow_le_depthBound (alike : bases.HeapsMatch layout heap other) (depth : Nat) :
    layout.shallow depth ≤ heap.depthBound ∧ layout.shallow depth ≤ other.depthBound := by
  have few := layout.shallow_le depth
  simp only [Heap.depthBound, alike.lists, alike.maps, alike.otherLists, alike.otherMaps]
  omega

variable {value copy : Value}

theorem contents_eq (alike : bases.HeapsMatch layout heap other)
    (same : bases.Agree layout value copy) : heap.contents value = other.contents copy := by
  rcases same with ⟨shape, same⟩
  rcases alike.shallow_le_depthBound shape.depth with ⟨deep, deepToo⟩
  exact alike.contentsWithin_eq same deep deepToo

theorem text_eq (alike : bases.HeapsMatch layout heap other)
    (same : bases.Agree layout value copy) : heap.text value = other.text copy := by
  rcases same with ⟨shape, same⟩
  rcases alike.shallow_le_depthBound shape.depth with ⟨deep, deepToo⟩
  exact alike.textWithin_eq same deep deepToo

/-! ### Reading -/

theorem isTruthy_eq (alike : bases.HeapsMatch layout heap other)
    (same : bases.Agree layout value copy) : heap.isTruthy value = other.isTruthy copy := by
  rcases same with ⟨shape, isScalar | found | found⟩
  · exact Heap.isTruthy_congr isScalar heap other
  · have length := (alike.items _ _ found).length_eq
    simp only [Array.length_toList] at length
    simp only [Heap.isTruthy, Array.isEmpty, length]
  · have sizes := congrArg List.length (alike.entries _ _ found).keys_eq
    simp only [Std.TreeMap.length_keys] at sizes
    simp only [Heap.isTruthy, Std.TreeMap.isEmpty_eq_size_eq_zero, sizes]

theorem bytes_eq (alike : bases.HeapsMatch layout heap other)
    (same : bases.Agree layout value copy) : heap.bytes value = other.bytes copy := by
  have text := alike.text_eq same
  rcases same with ⟨shape, isScalar | found | found⟩
  · cases value with
    | list | map => cases isScalar
    | _ => simp only [Heap.bytes, text]
  · have numbers : (heap.list _).toList.map Value.toInteger = (other.list _).toList.map Value.toInteger :=
      map_eq_map_of_forall₂ (alike.items _ _ found) fun same =>
        same.congr Value.toInteger (fun _ _ => rfl) fun _ _ => rfl
    have folded (heap : Heap) (place : Nat) : heap.bytes (.list place) =
        ((heap.list place).toList.map Value.toInteger).foldl
          (fun bytes number => bytes.push number.toUInt64.toUInt8) ByteArray.empty := by
      rw [List.foldl_map, Array.foldl_toList]
      rfl
    rw [folded, folded, numbers]
  · simp only [Heap.bytes, text]

theorem compareValues_eq (alike : bases.HeapsMatch layout heap other) {left right : Value}
    {leftCopy rightCopy : Value} (sameLeft : bases.Agree layout left leftCopy)
    (sameRight : bases.Agree layout right rightCopy) :
    compareValues heap left right = compareValues other leftCopy rightCopy := by
  simp only [compareValues, alike.text_eq sameLeft, alike.text_eq sameRight, sameLeft.toFloat_eq,
    sameRight.toFloat_eq, sameLeft.congr Value.isText (fun _ _ => rfl) fun _ _ => rfl,
    sameRight.congr Value.isText (fun _ _ => rfl) fun _ _ => rfl,
    sameLeft.congr comparesAsNumber (fun _ _ => rfl) fun _ _ => rfl,
    sameRight.congr comparesAsNumber (fun _ _ => rfl) fun _ _ => rfl]

theorem apply_eq (alike : bases.HeapsMatch layout heap other) (operator : BinaryOperator)
    {left right leftCopy rightCopy : Value} (sameLeft : bases.Agree layout left leftCopy)
    (sameRight : bases.Agree layout right rightCopy) :
    operator.apply heap left right = operator.apply other leftCopy rightCopy := by
  -- Only texts and comparisons look at the heap.
  have withoutHeap (same : ∀ heap other : Heap, operator.apply heap = operator.apply other)
      (leftLists : ∀ place copy right,
        operator.apply heap (.list place) right = operator.apply heap (.list copy) right)
      (leftMaps : ∀ place copy right,
        operator.apply heap (.map place) right = operator.apply heap (.map copy) right)
      (rightLists : ∀ place copy left,
        operator.apply heap left (.list place) = operator.apply heap left (.list copy))
      (rightMaps : ∀ place copy left,
        operator.apply heap left (.map place) = operator.apply heap left (.map copy)) :
      operator.apply heap left right = operator.apply other leftCopy rightCopy := by
    rw [same other heap, sameLeft.congr (operator.apply heap · right) (leftLists · · right)
      (leftMaps · · right)]
    exact sameRight.congr (operator.apply heap leftCopy) (rightLists · · leftCopy)
      (rightMaps · · leftCopy)
  cases operator with
  | concatenate => simp only [BinaryOperator.apply, alike.text_eq sameLeft, alike.text_eq sameRight]
  | equal | notEqual | less | lessOrEqual | greater | greaterOrEqual =>
      simp only [BinaryOperator.apply, alike.compareValues_eq sameLeft sameRight]
  | add | conjunction | disjunction | exclusiveDisjunction =>
      exact withoutHeap (fun _ _ => rfl) (fun _ _ right => by cases right <;> rfl)
        (fun _ _ right => by cases right <;> rfl) (fun _ _ left => by cases left <;> rfl)
        fun _ _ left => by cases left <;> rfl
  | _ =>
      exact withoutHeap (fun _ _ => rfl) (fun _ _ _ => rfl) (fun _ _ _ => rfl) (fun _ _ _ => rfl)
        fun _ _ _ => rfl

theorem coerceTo (same : bases.Matches layout shape value copy) (type : Option DeclaredType)
    (heap other : Heap) :
    bases.Matches layout shape (heap.coerceTo type value) (other.coerceTo type copy) := by
  cases same with
  | scalar isScalar =>
      rw [Heap.coerceTo_congr type other heap]
      exact .scalar (Heap.isReference_coerceTo isScalar)
  | list found => cases type <;> exact .list found
  | map found => cases type <;> exact .map found

theorem elementIndex_eq {items others : Array Value} {shape : Shape}
    (alike : List.Forall₂ (bases.Matches layout shape) items.toList others.toList)
    {index otherIndex : Value} (same : bases.Agree layout index otherIndex) :
    elementIndex items index = elementIndex others otherIndex := by
  have sizes := alike.length_eq
  simp only [Array.length_toList] at sizes
  simp only [elementIndex, same.toInteger_eq, sizes]

theorem getD_matches {items others : Array Value} {shape : Shape}
    (alike : List.Forall₂ (bases.Matches layout shape) items.toList others.toList) (index : Nat) :
    bases.Matches layout shape (items.getD index .null) (others.getD index .null) := by
  have same := rel_getElem?_of_forall₂ alike index
  rw [Array.getElem?_toList, Array.getElem?_toList] at same
  rw [Array.getD_eq_getD_getElem?, Array.getD_eq_getD_getElem?]
  generalize items[index]? = found at same
  generalize others[index]? = copy at same
  cases same with
  | none => exact .scalar rfl
  | some same => exact same

theorem getD_matches_of_tables {entries others : Std.TreeMap String Value} {shape : Shape}
    (alike : TablesAlike (fun _ => bases.Matches layout shape) entries others) (key : String) :
    bases.Matches layout shape (entries.getD key .null) (others.getD key .null) := by
  have same := alike key
  rw [Std.TreeMap.get?_eq_getElem?, Std.TreeMap.get?_eq_getElem?] at same
  rw [Std.TreeMap.getD_eq_getD_getElem?, Std.TreeMap.getD_eq_getD_getElem?]
  generalize entries[key]? = found at same
  generalize others[key]? = copy at same
  cases same with
  | none => exact .scalar rfl
  | some same => exact same

theorem indexValue (alike : bases.HeapsMatch layout heap other) {indices copies : List Value}
    (sameIndices : List.Forall₂ (bases.Agree layout) indices copies) {shape element : Shape}
    {target targetCopy : Value} (same : bases.Matches layout shape target targetCopy)
    (has : shape.HasElement indices.length element) :
    OutcomesAlike (bases.Matches layout element) (MacroSandbox.indexValue heap target indices)
      (MacroSandbox.indexValue other targetCopy copies) := by
  induction sameIndices generalizing shape target targetCopy with
  | nil =>
      cases has
      rw [MacroSandbox.indexValue, MacroSandbox.indexValue]
      exact .ok same
  | cons sameIndex _ induction =>
      cases same with
      | scalar isScalar => cases target <;> first | exact .error _ | cases isScalar
      | list found =>
          have items := alike.items _ _ found
          rw [MacroSandbox.indexValue, MacroSandbox.indexValue, elementIndex_eq items sameIndex]
          split
          · exact induction (getD_matches items _) has
          · exact .error _
      | map found =>
          cases has
          rw [MacroSandbox.indexValue, MacroSandbox.indexValue, alike.text_eq sameIndex]
          exact .ok (getD_matches_of_tables (alike.entries _ _ found) _)

theorem iterationItems (alike : bases.HeapsMatch layout heap other) {shape item : Shape}
    (same : bases.Matches layout shape value copy) (has : shape.HasItems item) :
    OutcomesAlike (List.Forall₂ (bases.Matches layout item)) (MacroSandbox.iterationItems heap value)
      (MacroSandbox.iterationItems other copy) := by
  cases same with
  | scalar isScalar =>
      cases value <;> first | exact .ok .nil | exact .error _ | cases isScalar
  | list found =>
      cases has
      exact .ok (alike.items _ _ found)
  | map found =>
      rw [MacroSandbox.iterationItems, MacroSandbox.iterationItems,
        (alike.entries _ _ found).keys_eq]
      apply OutcomesAlike.ok
      apply List.forall₂_same.2
      intro key member
      rcases List.mem_map.1 member with ⟨_, _, rfl⟩
      exact .scalar rfl

end Bases.HeapsMatch

inductive Bases.SlotsMatch (bases : Bases) (layout : Layout) : Shape → Slot → Slot → Prop
  | entry {entries : Shape} {offset : Nat} (found : layout.maps[offset]? = some entries)
      (key : String) :
      bases.SlotsMatch layout entries (.entry (bases.left.maps.size + offset) key)
        (.entry (bases.right.maps.size + offset) key)
  | item {items : Shape} {offset : Nat} (found : layout.lists[offset]? = some items)
      (position : Nat) :
      bases.SlotsMatch layout items (.item (bases.left.lists.size + offset) position)
        (.item (bases.right.lists.size + offset) position)
  | nested {items : Shape} {offset : Nat} (found : layout.lists[offset]? = some (.list items))
      (row position : Nat) :
      bases.SlotsMatch layout items (.nested (bases.left.lists.size + offset) row position)
        (.nested (bases.right.lists.size + offset) row position)

theorem Bases.HeapsMatch.growingSlot {bases : Bases} {layout : Layout} {heap other : Heap}
    (alike : bases.HeapsMatch layout heap other) {indices copies : List Value}
    (sameIndices : List.Forall₂ (bases.Agree layout) indices copies) {shape stored : Shape}
    {target copy : Value} (same : bases.Matches layout shape target copy)
    (has : shape.HasSlot indices.length stored) :
    OutcomesAlike (bases.SlotsMatch layout stored) (MacroSandbox.growingSlot heap target indices)
      (MacroSandbox.growingSlot other copy copies) := by
  have growingIndex {index indexCopy : Value} (same : bases.Agree layout index indexCopy) :
      growingIndex index = growingIndex indexCopy := by
    simp only [MacroSandbox.growingIndex, same.toInteger_eq]
  cases same with
  | scalar isScalar => cases target <;> first | exact .error _ | cases isScalar
  | map found =>
      have key : (indices.head?.map heap.text).getD "" = (copies.head?.map other.text).getD "" := by
        cases sameIndices with
        | nil => rfl
        | cons same _ => exact alike.text_eq same
      rw [Shape.HasSlot] at has
      subst has
      simp only [MacroSandbox.growingSlot, entrySlot, key]
      exact .ok (.entry found _)
  | list found =>
      rcases sameIndices with _ | ⟨first, _ | ⟨second, rest⟩⟩
      · exact .error _
      · cases has
        rw [MacroSandbox.growingSlot, MacroSandbox.growingSlot, growingIndex first]
        cases MacroSandbox.growingIndex _ with
        | error fault => exact .error fault
        | ok position => exact .ok (.item found position)
      · rcases rest with _ | _
        · cases has
          simp only [MacroSandbox.growingSlot, growingIndex first, growingIndex second]
          cases MacroSandbox.growingIndex _ with
          | error fault => exact .error fault
          | ok row =>
              cases MacroSandbox.growingIndex _ with
              | error fault => exact .error fault
              | ok position => exact .ok (.nested found row position)
        · rename_i third rest
          simp only [MacroSandbox.growingSlot, List.length_cons, rest.length_eq]
          exact .error _

end MacroSandbox
