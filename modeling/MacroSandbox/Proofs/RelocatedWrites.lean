import MacroSandbox.Proofs.RelocatedHeaps

/-! Allocations and writes of two runs of the same code. They keep the heaps of the runs matching, and what
one run allocates matches what the other one does. -/

namespace MacroSandbox

theorem Heap.map_modifyMap_self {heap : Heap} {place : Nat} (has : place < heap.maps.size)
    (change : Std.TreeMap String Value → Std.TreeMap String Value) :
    (heap.modifyMap place change).map place = change (heap.map place) := by
  simp only [modifyMap, map, Array.getD_eq_getD_getElem?, Array.getElem?_modify, if_true,
    Array.getElem?_eq_getElem has, Option.map_some, Option.getD_some]

/-! ## Changes that match -/

def Bases.Leads {α β : Type} (bases : Bases) (layout : Layout) (related : Layout → α → β → Prop)
    (first : α × Heap) (second : β × Heap) : Prop :=
  ∃ later, layout.Grows later ∧ bases.HeapsMatch later first.2 second.2 ∧
    related later first.1 second.1

inductive Bases.ValuesMatch (bases : Bases) (layout : Layout) :
    List Shape → List Value → List Value → Prop
  | nil : bases.ValuesMatch layout [] [] []
  | cons {shape : Shape} {shapes : List Shape} {value copy : Value} {values copies : List Value}
      (same : bases.Matches layout shape value copy)
      (rest : bases.ValuesMatch layout shapes values copies) :
      bases.ValuesMatch layout (shape :: shapes) (value :: values) (copy :: copies)

namespace Bases.ValuesMatch

variable {bases : Bases} {layout later : Layout} {shape : Shape} {shapes : List Shape}
  {values copies : List Value}

theorem mono (same : bases.ValuesMatch layout shapes values copies) (grows : layout.Grows later) :
    bases.ValuesMatch later shapes values copies := by
  induction same with
  | nil => exact .nil
  | cons first _ induction => exact .cons (first.mono grows) induction

theorem length_eq (same : bases.ValuesMatch layout shapes values copies) :
    values.length = shapes.length := by
  induction same with
  | nil => rfl
  | cons _ _ induction => exact congrArg (· + 1) induction

theorem agree (same : bases.ValuesMatch layout shapes values copies) :
    List.Forall₂ (bases.Agree layout) values copies := by
  induction same with
  | nil => exact .nil
  | cons first _ induction => exact .cons ⟨_, first⟩ induction

theorem forall₂ (same : bases.ValuesMatch layout shapes values copies)
    (all : ∀ found ∈ shapes, found = shape) :
    List.Forall₂ (bases.Matches layout shape) values copies := by
  induction same with
  | nil => exact .nil
  | cons first _ induction =>
      cases all _ List.mem_cons_self
      exact .cons first (induction fun found member => all found (List.mem_cons_of_mem _ member))

theorem append {more : List Shape} {moreValues moreCopies : List Value}
    (same : bases.ValuesMatch layout shapes values copies)
    (sameMore : bases.ValuesMatch layout more moreValues moreCopies) :
    bases.ValuesMatch layout (shapes ++ more) (values ++ moreValues) (copies ++ moreCopies) := by
  induction same with
  | nil => exact sameMore
  | cons first _ induction => exact .cons first induction

end Bases.ValuesMatch

namespace Bases.HeapsMatch

variable {bases : Bases} {layout : Layout} {heap other : Heap} {shape : Shape}

/-! ## Allocations -/

theorem items_mono {later : Layout} (grows : layout.Grows later) {items others : List Value}
    (same : List.Forall₂ (bases.Matches layout shape) items others) :
    List.Forall₂ (bases.Matches later shape) items others :=
  same.imp fun _ _ same => same.mono grows

theorem entries_mono {later : Layout} (grows : layout.Grows later)
    {entries others : Std.TreeMap String Value}
    (same : TablesAlike (fun _ => bases.Matches layout shape) entries others) :
    TablesAlike (fun _ => bases.Matches later shape) entries others :=
  same.imp fun same => same.mono grows

theorem offset_lt_of_list (alike : bases.HeapsMatch layout heap other) {offset : Nat}
    (found : layout.lists[offset]? = some shape) :
    bases.left.lists.size + offset < heap.lists.size ∧
      bases.right.lists.size + offset < other.lists.size := by
  have inside := (List.getElem?_eq_some_iff.1 found).1
  rw [alike.lists, alike.otherLists]
  omega

theorem offset_lt_of_map (alike : bases.HeapsMatch layout heap other) {offset : Nat}
    (found : layout.maps[offset]? = some shape) :
    bases.left.maps.size + offset < heap.maps.size ∧
      bases.right.maps.size + offset < other.maps.size := by
  have inside := (List.getElem?_eq_some_iff.1 found).1
  rw [alike.maps, alike.otherMaps]
  omega

theorem found_of_append {shapes : List Shape} {offset : Nat} {found : Shape}
    (isFound : (shapes ++ [shape])[offset]? = some found) :
    shapes[offset]? = some found ∨ offset = shapes.length ∧ found = shape := by
  rw [List.getElem?_append] at isFound
  split at isFound
  · exact .inl isFound
  · have only := List.mem_of_getElem? isFound
    have inside := (List.getElem?_eq_some_iff.1 isFound).1
    rw [List.length_singleton] at inside
    exact .inr ⟨by omega, List.mem_singleton.1 only⟩

theorem newList (alike : bases.HeapsMatch layout heap other) {items others : Array Value}
    (same : List.Forall₂ (bases.Matches layout shape) items.toList others.toList) :
    bases.Leads layout (bases.Matches · (.list shape)) (heap.newList items)
      (other.newList others) := by
  have grows := layout.grows_addList shape
  refine ⟨layout.addList shape, grows, ?_, ?_⟩
  · exact
      { lists := by simp [Heap.newList, Layout.addList, alike.lists, Nat.add_assoc]
        otherLists := by simp [Heap.newList, Layout.addList, alike.otherLists, Nat.add_assoc]
        maps := alike.maps
        otherMaps := alike.otherMaps
        entries := fun offset found isFound => entries_mono grows (alike.entries offset found isFound)
        items := by
          intro offset found isFound
          apply items_mono grows
          rcases found_of_append isFound with isOld | ⟨rfl, rfl⟩
          · rcases alike.offset_lt_of_list isOld with ⟨inside, insideToo⟩
            rw [Heap.list_newList_of_lt inside, Heap.list_newList_of_lt insideToo]
            exact alike.items offset found isOld
          · rw [← alike.lists, ← alike.otherLists, Heap.list_newList, Heap.list_newList]
            exact same }
  · rw [Heap.newList, Heap.newList, alike.lists, alike.otherLists]
    exact .list (by simp [Layout.addList])

theorem newMap (alike : bases.HeapsMatch layout heap other)
    {entries others : Std.TreeMap String Value}
    (same : TablesAlike (fun _ => bases.Matches layout shape) entries others) :
    bases.Leads layout (bases.Matches · (.map shape)) (heap.newMap entries)
      (other.newMap others) := by
  have grows := layout.grows_addMap shape
  refine ⟨layout.addMap shape, grows, ?_, ?_⟩
  · exact
      { lists := alike.lists
        otherLists := alike.otherLists
        maps := by simp [Heap.newMap, Layout.addMap, alike.maps, Nat.add_assoc]
        otherMaps := by simp [Heap.newMap, Layout.addMap, alike.otherMaps, Nat.add_assoc]
        items := fun offset found isFound => items_mono grows (alike.items offset found isFound)
        entries := by
          intro offset found isFound
          apply entries_mono grows
          rcases found_of_append isFound with isOld | ⟨rfl, rfl⟩
          · rcases alike.offset_lt_of_map isOld with ⟨inside, insideToo⟩
            rw [(@Heap.KeepsBut.newMap none heap entries).map_eq inside nofun,
              (@Heap.KeepsBut.newMap none other others).map_eq insideToo nofun]
            exact alike.entries offset found isOld
          · rw [← alike.maps, ← alike.otherMaps, Heap.map_newMap, Heap.map_newMap]
            exact same }
  · rw [Heap.newMap, Heap.newMap, alike.maps, alike.otherMaps]
    exact .map (by simp [Layout.addMap])

end Bases.HeapsMatch

/-! ## Copies of data -/

mutual

/-- A datum has a shape: lists and maps hold data of one shape each. -/
def Datum.HasShape : Datum → Shape → Prop
  | .list items, shape => ∃ inner, shape = .list inner ∧ HaveShapes items (items.map fun _ => inner)
  | .map _ values, shape => ∃ inner, shape = .map inner ∧ HaveShapes values (values.map fun _ => inner)
  | _, _ => True

def Datum.HaveShapes : List Datum → List Shape → Prop
  | [], [] => True
  | datum :: data, shape :: shapes => datum.HasShape shape ∧ HaveShapes data shapes
  | _, _ => False

end

namespace Bases.HeapsMatch

variable {bases : Bases}

mutual

theorem build : ∀ {datum : Datum} {shape : Shape} {layout : Layout} {heap other : Heap},
    bases.HeapsMatch layout heap other → datum.HasShape shape →
    bases.Leads layout (bases.Matches · shape) (datum.build heap) (datum.build other)
  | .list items, shape, layout, heap, other, alike, has => by
      rw [Datum.HasShape] at has
      rcases has with ⟨inner, rfl, has⟩
      rcases buildAll alike .nil has with ⟨later, grows, alikeLater, same⟩
      have sameItems : List.Forall₂ (bases.Matches later inner) _ _ := same.forall₂ (by simp)
      rw [Datum.build, Datum.build]
      rcases alikeLater.newList sameItems with ⟨last, growsMore, alikeLast, sameList⟩
      exact ⟨last, grows.trans growsMore, alikeLast, sameList⟩
  | .map keys values, shape, layout, heap, other, alike, has => by
      rw [Datum.HasShape] at has
      rcases has with ⟨inner, rfl, has⟩
      rcases buildAll alike .nil has with ⟨later, grows, alikeLater, same⟩
      have sameItems : List.Forall₂ (bases.Matches later inner) _ _ := same.forall₂ (by simp)
      rw [Datum.build, Datum.build]
      rcases alikeLater.newMap (@TablesAlike.ofList_zip _ _ keys _ _ _ sameItems) with
        ⟨last, growsMore, alikeLast, sameMap⟩
      exact ⟨last, grows.trans growsMore, alikeLast, sameMap⟩
  | .integer _, _, layout, _, _, alike, _ | .float _, _, layout, _, _, alike, _
  | .text _, _, layout, _, _, alike, _ | .boolean _, _, layout, _, _, alike, _
  | .null, _, layout, _, _, alike, _ | .object _ _, _, layout, _, _, alike, _
  | .unresolved, _, layout, _, _, alike, _ => ⟨layout, .refl layout, alike, .scalar rfl⟩

theorem buildAll : ∀ {data : List Datum} {shapes earlier : List Shape} {layout : Layout}
    {heap other : Heap} {done otherDone : Array Value},
    bases.HeapsMatch layout heap other →
    bases.ValuesMatch layout earlier done.toList otherDone.toList → Datum.HaveShapes data shapes →
    bases.Leads layout
      (fun later values copies =>
        bases.ValuesMatch later (earlier ++ shapes) values.toList copies.toList)
      (Datum.buildAll data heap done) (Datum.buildAll data other otherDone)
  | [], [], earlier, layout, heap, other, done, otherDone, alike, same, _ => by
      rw [Datum.buildAll, Datum.buildAll, List.append_nil]
      exact ⟨layout, .refl layout, alike, same⟩
  | datum :: data, shape :: shapes, earlier, layout, heap, other, done, otherDone, alike, same,
      has => by
      rw [Datum.HaveShapes] at has
      rcases build alike has.1 with ⟨later, grows, alikeLater, sameValue⟩
      have sameDone : bases.ValuesMatch later (earlier ++ [shape])
          (done.push (datum.build heap).1).toList (otherDone.push (datum.build other).1).toList := by
        rw [Array.toList_push, Array.toList_push]
        exact (same.mono grows).append (.cons sameValue .nil)
      rcases buildAll alikeLater sameDone has.2 with ⟨last, growsMore, alikeLast, sameAll⟩
      rw [List.append_assoc] at sameAll
      rw [Datum.buildAll, Datum.buildAll]
      exact ⟨last, grows.trans growsMore, alikeLast, sameAll⟩
  | [], _ :: _, _, _, _, _, _, _, _, _, has | _ :: _, [], _, _, _, _, _, _, _, _, has => by
      simp [Datum.HaveShapes] at has

end

variable {layout : Layout} {heap other : Heap} {shape : Shape}

theorem copy (alike : bases.HeapsMatch layout heap other) {value : Value}
    (scalar : value.isReference = false) :
    bases.Leads layout (bases.Matches · shape) (heap.copy value) (other.copy value) := by
  rw [Heap.copy, Heap.copy, Heap.build_contents scalar, Heap.build_contents scalar]
  exact ⟨layout, .refl layout, alike, .scalar scalar⟩

/-! ## Declared arrays -/

theorem buildMany {build otherBuild : Heap → Value × Heap}
    (each : ∀ {layout heap other}, bases.HeapsMatch layout heap other →
      bases.Leads layout (bases.Matches · shape) (build heap) (otherBuild other)) (count : Nat)
    {layout : Layout} {heap other : Heap} (alike : bases.HeapsMatch layout heap other)
    {done otherDone : Array Value}
    (same : List.Forall₂ (bases.Matches layout shape) done.toList otherDone.toList) :
    bases.Leads layout
      (fun later items others => List.Forall₂ (bases.Matches later shape) items.toList others.toList)
      (MacroSandbox.buildMany build count heap done)
      (MacroSandbox.buildMany otherBuild count other otherDone) := by
  induction count generalizing layout heap other done otherDone with
  | zero => exact ⟨layout, .refl layout, alike, same⟩
  | succ count induction =>
      rcases each alike with ⟨later, grows, alikeLater, sameValue⟩
      have sameDone : List.Forall₂ (bases.Matches later shape) (done.push (build heap).1).toList
          (otherDone.push (otherBuild other).1).toList := by
        rw [Array.toList_push, Array.toList_push]
        exact List.rel_append (items_mono grows same) (.cons sameValue .nil)
      rcases induction alikeLater sameDone with ⟨last, growsMore, alikeLast, sameAll⟩
      exact ⟨last, grows.trans growsMore, alikeLast, sameAll⟩

theorem buildArray (type : Option DeclaredType) (inner : Shape) :
    ∀ (dimensions : List Int64) {layout : Layout} {heap other : Heap},
      bases.HeapsMatch layout heap other →
      bases.Leads layout (bases.Matches · (inner.array dimensions.length))
        (MacroSandbox.buildArray type dimensions heap)
        (MacroSandbox.buildArray type dimensions other)
  | [], layout, _, _, alike => by
      exact ⟨layout, .refl layout, alike, .scalar (isReference_initial type)⟩
  | length :: rest, layout, heap, other, alike => by
      rcases buildMany (buildArray type inner rest) length.toInt.toNat alike .nil with
        ⟨later, grows, alikeLater, sameItems⟩
      rcases alikeLater.newList sameItems with ⟨last, growsMore, alikeLast, sameList⟩
      exact ⟨last, grows.trans growsMore, alikeLast, sameList⟩

theorem newArray (alike : bases.HeapsMatch layout heap other) (dimensions : List Int64)
    (type : Option DeclaredType) (inner : Shape) :
    bases.Leads layout
      (fun later => OutcomesAlike (bases.Matches later (inner.array dimensions.length)))
      (MacroSandbox.newArray heap dimensions type) (MacroSandbox.newArray other dimensions type) := by
  unfold MacroSandbox.newArray
  split
  · split
    · rcases buildArray type inner dimensions alike with ⟨later, grows, alikeLater, same⟩
      exact ⟨later, grows, alikeLater, .ok same⟩
    · exact ⟨layout, .refl layout, alike, .error _⟩
  · exact ⟨layout, .refl layout, alike, .error _⟩

/-! ## Writes -/

theorem modifyList (alike : bases.HeapsMatch layout heap other) {offset : Nat}
    (found : layout.lists[offset]? = some shape) {change otherChange : Array Value → Array Value}
    (same : ∀ {items others : Array Value},
      List.Forall₂ (bases.Matches layout shape) items.toList others.toList →
      List.Forall₂ (bases.Matches layout shape) (change items).toList (otherChange others).toList) :
    bases.HeapsMatch layout (heap.modifyList (bases.left.lists.size + offset) change)
      (other.modifyList (bases.right.lists.size + offset) otherChange) where
  lists := by rw [Heap.modifyList, Array.size_modify, alike.lists]
  otherLists := by rw [Heap.modifyList, Array.size_modify, alike.otherLists]
  maps := alike.maps
  otherMaps := alike.otherMaps
  entries := alike.entries
  items another otherShape isFound := by
    by_cases isOffset : another = offset
    · subst isOffset
      rw [found] at isFound
      cases isFound
      rcases alike.offset_lt_of_list found with ⟨inside, insideToo⟩
      rw [Heap.list_modifyList_self inside, Heap.list_modifyList_self insideToo]
      exact same (alike.items _ _ found)
    · rw [Heap.list_modifyList_of_ne (by omega), Heap.list_modifyList_of_ne (by omega)]
      exact alike.items _ _ isFound

theorem modifyMap (alike : bases.HeapsMatch layout heap other) {offset : Nat}
    (found : layout.maps[offset]? = some shape)
    {change otherChange : Std.TreeMap String Value → Std.TreeMap String Value}
    (same : ∀ {entries others : Std.TreeMap String Value},
      TablesAlike (fun _ => bases.Matches layout shape) entries others →
      TablesAlike (fun _ => bases.Matches layout shape) (change entries) (otherChange others)) :
    bases.HeapsMatch layout (heap.modifyMap (bases.left.maps.size + offset) change)
      (other.modifyMap (bases.right.maps.size + offset) otherChange) where
  lists := alike.lists
  otherLists := alike.otherLists
  maps := by rw [Heap.modifyMap, Array.size_modify, alike.maps]
  otherMaps := by rw [Heap.modifyMap, Array.size_modify, alike.otherMaps]
  items := alike.items
  entries another otherShape isFound := by
    rcases alike.offset_lt_of_map isFound with ⟨inside, insideToo⟩
    by_cases isOffset : another = offset
    · subst isOffset
      rw [found] at isFound
      cases isFound
      rw [Heap.map_modifyMap_self inside, Heap.map_modifyMap_self insideToo]
      exact same (alike.entries _ _ found)
    · rw [(Heap.KeepsBut.modifyMap heap _ change).map_eq inside (by simpa using Ne.symm isOffset),
        (Heap.KeepsBut.modifyMap other _ otherChange).map_eq insideToo (by simpa using Ne.symm isOffset)]
      exact alike.entries _ _ isFound

theorem writeItem (alike : bases.HeapsMatch layout heap other) {offset : Nat}
    (found : layout.lists[offset]? = some shape) (position : Nat) {value copy : Value}
    (same : bases.Matches layout shape value copy) :
    bases.HeapsMatch layout (heap.writeItem (bases.left.lists.size + offset) position value)
      (other.writeItem (bases.right.lists.size + offset) position copy) := by
  apply alike.modifyList found
  intro items others sameItems
  have sizes := sameItems.length_eq
  simp only [Array.length_toList] at sizes
  rw [Array.toList_setIfInBounds, Array.toList_setIfInBounds, Heap.extendWithZeros,
    Heap.extendWithZeros, Array.toList_append, Array.toList_append, Array.toList_replicate,
    Array.toList_replicate, sizes]
  exact forall₂_set (List.rel_append sameItems (forall₂_replicate (.scalar rfl) _)) same position

def SamePlace (bases : Bases) (shape : Shape) (layout : Layout) (place copy : Nat) : Prop :=
  ∃ offset, place = bases.left.lists.size + offset ∧ copy = bases.right.lists.size + offset ∧
    layout.lists[offset]? = some shape

theorem samePlace_of_matches {place copy : Nat}
    (same : bases.Matches layout (.list shape) (.list place) (.list copy)) :
    SamePlace bases shape layout place copy := by
  cases same with
  | scalar isScalar => cases isScalar
  | list found => exact ⟨_, rfl, rfl, found⟩

/-- An item that is no list is replaced by a new list on both sides. -/
private theorem pickRow (alike : bases.HeapsMatch layout heap other) {offset : Nat}
    (found : layout.lists[offset]? = some (.list shape)) (row : Nat) {item itemCopy : Value}
    (same : bases.Matches layout (.list shape) item itemCopy) :
    let pick (heap : Heap) (place : Nat) (item : Value) : Nat × Heap :=
      match item with
      | .list rowPlace => (rowPlace, heap)
      | _ =>
          let rowPlace := heap.lists.size
          let (fresh, heap) := heap.newList #[]
          (rowPlace, heap.modifyList place fun items => items.setIfInBounds row fresh)
    bases.Leads layout (SamePlace bases shape) (pick heap (bases.left.lists.size + offset) item)
      (pick other (bases.right.lists.size + offset) itemCopy) := by
  intro pick
  cases same with
  | list foundRow => exact ⟨layout, .refl layout, alike, _, rfl, rfl, foundRow⟩
  | scalar isScalar =>
      have noList (heap : Heap) (place : Nat) : pick heap place item =
          (heap.lists.size, (heap.newList #[]).2.modifyList place fun items =>
            items.setIfInBounds row (.list heap.lists.size)) := by
        cases item <;> first | rfl | cases isScalar
      rcases alike.newList .nil with ⟨later, grows, alikeLater, sameFresh⟩
      rw [noList, noList]
      refine ⟨later, grows, alikeLater.modifyList (grows.getElem?_lists found) ?_, ?_⟩
      · intro items others sameItems
        rw [Array.toList_setIfInBounds, Array.toList_setIfInBounds]
        exact forall₂_set sameItems sameFresh row
      · exact samePlace_of_matches sameFresh

/-- Rows of an array are made alike: they are what the runs allocated as the same list. -/
theorem ensureRow (alike : bases.HeapsMatch layout heap other) {offset : Nat}
    (found : layout.lists[offset]? = some (.list shape)) (row : Nat) :
    bases.Leads layout (SamePlace bases shape) (heap.ensureRow (bases.left.lists.size + offset) row)
      (other.ensureRow (bases.right.lists.size + offset) row) := by
  have emptyRow {layout : Layout} {heap other : Heap} (alike : bases.HeapsMatch layout heap other) :
      bases.Leads layout (bases.Matches · (.list shape)) (heap.newList #[]) (other.newList #[]) :=
    alike.newList .nil
  have sizes := (alike.items _ _ found).length_eq
  simp only [Array.length_toList] at sizes
  unfold Heap.ensureRow
  dsimp only
  rw [sizes]
  have built := buildMany emptyRow (row + 1 - (other.list (bases.right.lists.size + offset)).size)
    alike .nil
  generalize MacroSandbox.buildMany _ _ heap _ = rows at built
  generalize MacroSandbox.buildMany _ _ other _ = otherRows at built
  rcases built with ⟨later, grows, alikeLater, sameRows⟩
  have foundLater := grows.getElem?_lists found
  have sameItems {items others : Array Value}
      (same : List.Forall₂ (bases.Matches later (.list shape)) items.toList others.toList) :
      List.Forall₂ (bases.Matches later (.list shape)) (items ++ rows.1).toList
        (others ++ otherRows.1).toList := by
    rw [Array.toList_append, Array.toList_append]
    exact List.rel_append same sameRows
  have alikeRows := alikeLater.modifyList foundLater sameItems
  rcases alikeRows.pickRow foundLater row (getD_matches (alikeRows.items _ _ foundLater) row) with
    ⟨last, growsMore, alikeLast, samePlace⟩
  exact ⟨last, grows.trans growsMore, alikeLast, samePlace⟩

theorem write (alike : bases.HeapsMatch layout heap other) {slot slotCopy : Slot}
    (sameSlot : bases.SlotsMatch layout shape slot slotCopy) {value copy : Value}
    (same : bases.Matches layout shape value copy) :
    ∃ later, layout.Grows later ∧
      bases.HeapsMatch later (heap.write slot value) (other.write slotCopy copy) := by
  cases sameSlot with
  | entry found key =>
      exact ⟨layout, .refl layout, alike.modifyMap found fun sameEntries => sameEntries.insert same⟩
  | item found position => exact ⟨layout, .refl layout, alike.writeItem found position same⟩
  | nested found row position =>
      rcases alike.ensureRow found row with
        ⟨later, grows, alikeLater, rowOffset, isPlace, isCopy, foundRow⟩
      refine ⟨later, grows, ?_⟩
      simp only [Heap.write, isPlace, isCopy]
      exact alikeLater.writeItem foundRow position (same.mono grows)

/-! ## Functions of the library -/

variable {arguments copies : List Value}

theorem argument (same : List.Forall₂ (bases.Agree layout) arguments copies) (index : Nat) :
    bases.Agree layout (MacroSandbox.argument arguments index)
      (MacroSandbox.argument copies index) := by
  have found := rel_getElem?_of_forall₂ same index
  rw [MacroSandbox.argument, MacroSandbox.argument, List.getD_eq_getElem?_getD,
    List.getD_eq_getElem?_getD]
  generalize arguments[index]? = value at found
  generalize copies[index]? = copy at found
  cases found with
  | none => exact ⟨.scalar, .scalar rfl⟩
  | some found => exact found

theorem givenArgument? (same : List.Forall₂ (bases.Agree layout) arguments copies) (index : Nat) :
    Option.Rel (bases.Agree layout) (MacroSandbox.givenArgument? arguments index)
      (MacroSandbox.givenArgument? copies index) := by
  have found := rel_getElem?_of_forall₂ same index
  unfold MacroSandbox.givenArgument?
  generalize arguments[index]? = value at found
  generalize copies[index]? = copy at found
  cases found with
  | none => exact .none
  | some found =>
      dsimp only
      rw [found.congr Value.isMissing (fun _ _ => rfl) fun _ _ => rfl]
      split
      · exact .none
      · exact .some found

theorem delimiter_eq (alike : bases.HeapsMatch layout heap other)
    (same : List.Forall₂ (bases.Agree layout) arguments copies) :
    ScalarRoutine.delimiter heap arguments = ScalarRoutine.delimiter other copies := by
  have found := map_eq_map_of_rel (givenArgument? same 1) fun agree => alike.text_eq agree
  have chosen (heap : Heap) (arguments : List Value) : ScalarRoutine.delimiter heap arguments =
      ((MacroSandbox.givenArgument? arguments 1).map heap.text).getD " " := by
    unfold ScalarRoutine.delimiter
    cases MacroSandbox.givenArgument? arguments 1 <;> rfl
  rw [chosen, chosen, found]

theorem itemTexts_eq (alike : bases.HeapsMatch layout heap other) {value copy : Value}
    (same : bases.Agree layout value copy) :
    ScalarRoutine.itemTexts heap value = ScalarRoutine.itemTexts other copy := by
  have text := alike.text_eq same
  rcases same with ⟨shape, isScalar | found | found⟩
  · cases value <;> first | exact congrArg (fun text => [text]) text | cases isScalar
  · exact map_eq_map_of_forall₂ (alike.items _ _ found) fun same => alike.text_eq ⟨_, same⟩
  · exact congrArg (fun text => [text]) text

theorem lastIndex_eq (alike : bases.HeapsMatch layout heap other) {value copy : Value}
    (same : bases.Agree layout value copy) :
    ScalarRoutine.lastIndex heap value = ScalarRoutine.lastIndex other copy := by
  rcases same with ⟨shape, isScalar | found | found⟩
  · cases value <;> first | rfl | cases isScalar
  · have sizes := (alike.items _ _ found).length_eq
    simp only [Array.length_toList] at sizes
    rw [ScalarRoutine.lastIndex, ScalarRoutine.lastIndex, sizes]
  · rfl

theorem positionArguments_eq (alike : bases.HeapsMatch layout heap other)
    (same : List.Forall₂ (bases.Agree layout) arguments copies) :
    ScalarRoutine.positionArguments heap arguments = ScalarRoutine.positionArguments other copies := by
  have text (index : Nat) := alike.text_eq (argument same index)
  have number (index : Nat) := (argument same index).toInteger_eq
  have isNumeric := (argument same 0).congr Value.isNumeric (fun _ _ => rfl) fun _ _ => rfl
  simp only [ScalarRoutine.positionArguments, text, number, isNumeric, same.length_eq]

theorem compute_eq (alike : bases.HeapsMatch layout heap other)
    (same : List.Forall₂ (bases.Agree layout) arguments copies) (routine : ScalarRoutine) :
    routine.compute heap arguments = routine.compute other copies := by
  have text (index : Nat) := alike.text_eq (argument same index)
  have number (index : Nat) := (argument same index).toInteger_eq
  have float (index : Nat) := (argument same index).toFloat_eq
  have numeric (index : Nat) := (argument same index).toNumber_eq
  have count := map_eq_map_of_rel (givenArgument? same 2) fun agree =>
    congrArg Int64.toInt agree.toInteger_eq
  have fill (index : Nat) :=
    (argument same index).congr ScalarRoutine.fillCharacter (fun _ _ => rfl) fun _ _ => rfl
  have spells (index : Nat) :=
    (argument same index).congr ScalarRoutine.spellsNumber (fun _ _ => rfl) fun _ _ => rfl
  cases routine <;>
    simp only [ScalarRoutine.compute, ScalarRoutine.wholeNumber, ScalarRoutine.magnitude, text,
      number, float, numeric, count, fill, spells, alike.delimiter_eq same,
      alike.itemTexts_eq (argument same _), alike.lastIndex_eq (argument same _),
      alike.positionArguments_eq same]

theorem moveOf_eq (alike : bases.HeapsMatch layout heap other)
    {destination source count destinationCopy sourceCopy countCopy : Value}
    (sameDestination : bases.Agree layout destination destinationCopy)
    (sameSource : bases.Agree layout source sourceCopy)
    (sameCount : bases.Agree layout count countCopy) :
    moveOf heap destination source count = moveOf other destinationCopy sourceCopy countCopy := by
  have bytes := alike.bytes_eq sameSource
  have address := sameDestination.toInteger_eq
  have size := sameCount.toInteger_eq
  rcases sameSource with ⟨shape, isScalar | found | found⟩
  · cases source <;> simp only [moveOf, address, size, bytes]
  · simp only [moveOf, address, size, bytes]
  · simp only [moveOf, address, size, bytes]

end Bases.HeapsMatch

/-- What a function of the library returns has a shape, whatever it is called with. -/
def PureRoutine.Returns (routine : PureRoutine) (arguments : List Shape) (shape : Shape) : Prop :=
  match routine with
  | .scalar _ => True
  | .split => ∃ items, shape = .list items
  | .array => ∃ items, shape = .list items ∧ ∀ argument ∈ arguments, argument = items

theorem Bases.HeapsMatch.applyRoutine {bases : Bases} {layout : Layout} {heap other : Heap}
    (alike : bases.HeapsMatch layout heap other) {shapes : List Shape} {arguments copies : List Value}
    (same : bases.ValuesMatch layout shapes arguments copies) {routine : PureRoutine} {shape : Shape}
    (returns : routine.Returns shapes shape) :
    bases.Leads layout (fun later => OutcomesAlike (bases.Matches later shape))
      (routine.apply arguments heap) (routine.apply copies other) := by
  cases routine with
  | scalar routine =>
      refine ⟨layout, .refl layout, alike, ?_⟩
      simp only [PureRoutine.apply, alike.compute_eq same.agree]
      cases computed : routine.compute other copies with
      | error fault => exact .error fault
      | ok value => exact .ok (.scalar (ScalarRoutine.isReference_of_compute computed))
  | split =>
      rcases returns with ⟨items, rfl⟩
      have samePieces (pieces : Array String) : List.Forall₂ (bases.Matches layout items)
          (pieces.map Value.text).toList (pieces.map Value.text).toList := by
        rw [Array.toList_map]
        apply List.forall₂_same.2
        intro piece member
        rcases List.mem_map.1 member with ⟨_, _, rfl⟩
        exact .scalar rfl
      simp only [PureRoutine.apply, alike.delimiter_eq same.agree,
        alike.text_eq (argument same.agree 0)]
      rcases alike.newList (samePieces _) with ⟨later, grows, alikeLater, sameList⟩
      exact ⟨later, grows, alikeLater, .ok sameList⟩
  | array =>
      rcases returns with ⟨items, rfl, all⟩
      rcases alike.newList (same.forall₂ all) with ⟨later, grows, alikeLater, sameList⟩
      exact ⟨later, grows, alikeLater, .ok sameList⟩

end MacroSandbox
