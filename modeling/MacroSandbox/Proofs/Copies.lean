import Mathlib
import MacroSandbox.Proofs.Separation

/-! Data that are built in places of their own.

What a value holds can be built again in new places. The copy holds the same, and goes on to hold it
as long as its own places are left alone, whatever becomes of all others. -/

namespace MacroSandbox

/-! ## Tables in the order of their keys -/

section

variable {α : Type}

theorem toList_ofList_of_ordered {entries : List (String × α)}
    (ordered : entries.Pairwise fun first second => compare first.1 second.1 = .lt) :
    (Std.TreeMap.ofList entries).toList = entries := by
  have irreflexive (entry : String × α) : ¬ compare entry.1 entry.1 = .lt := by simp
  have distinct : entries.Pairwise fun first second => ¬ compare first.1 second.1 = .eq :=
    ordered.imp fun less => by simp [less]
  have nodup {list : List (String × α)}
      (sorted : list.Pairwise fun first second => compare first.1 second.1 = .lt) :
      list.Nodup := by
    refine List.Pairwise.imp ?_ sorted
    rintro first _ less rfl
    exact irreflexive first less
  have sameMembers (entry : String × α) :
      entry ∈ (Std.TreeMap.ofList entries).toList ↔ entry ∈ entries := by
    rw [Std.TreeMap.mem_toList_iff_getElem?_eq_some]
    constructor
    · exact fun found => mem_of_get?_ofList found
    · exact Std.TreeMap.getElem?_ofList_of_mem (by simp) distinct
  refine List.Perm.eq_of_pairwise ?_ Std.TreeMap.ordered_keys_toList ordered
    ((List.perm_ext_iff_of_nodup (nodup Std.TreeMap.ordered_keys_toList) (nodup ordered)).2
      sameMembers)
  intro first second _ _ less greater
  exact absurd (Std.TransCmp.lt_trans less greater) (irreflexive first)

theorem ofList_zip_of_ordered {keys : List String} {values : List α}
    (ordered : keys.Pairwise fun first second => compare first second = .lt)
    (sameLength : values.length = keys.length) :
    (Std.TreeMap.ofList (keys.zip values)).keys = keys ∧
      (Std.TreeMap.ofList (keys.zip values)).values = values := by
  have sameList : (Std.TreeMap.ofList (keys.zip values)).toList = keys.zip values := by
    apply toList_ofList_of_ordered
    have onKeys : ((keys.zip values).map Prod.fst).Pairwise fun first second =>
        compare first second = .lt := by
      rwa [List.map_fst_zip (by omega)]
    exact List.pairwise_map.1 onKeys
  rw [← Std.TreeMap.map_fst_toList_eq_keys, values_eq_map_toList, sameList]
  exact ⟨List.map_fst_zip (by omega), List.map_snd_zip (by omega)⟩

end

/-! ## Data -/

namespace Datum

mutual

/-- Every map has its keys in order and one value for each. -/
def IsSound : Datum → Prop
  | .list items => AreSound items
  | .map keys values =>
      keys.Pairwise (fun first second => compare first second = .lt) ∧
        values.length = keys.length ∧ AreSound values
  | _ => True

def AreSound : List Datum → Prop
  | [] => True
  | datum :: rest => datum.IsSound ∧ AreSound rest

end

mutual

def depth : Datum → Nat
  | .list items => depthOfAll items + 1
  | .map _ values => depthOfAll values + 1
  | _ => 0

def depthOfAll : List Datum → Nat
  | [] => 0
  | datum :: rest => max datum.depth (depthOfAll rest)

end

theorem areSound_iff {data : List Datum} : AreSound data ↔ ∀ datum ∈ data, datum.IsSound := by
  induction data with
  | nil => simp [AreSound]
  | cons datum rest induction => simp [AreSound, induction]

end Datum

namespace Heap

theorem isSound_contentsWithin (heap : Heap) (depth : Nat) (value : Value) :
    (heap.contentsWithin depth value).IsSound := by
  induction depth generalizing value with
  | zero => cases value <;> simp [contentsWithin, Datum.IsSound, Datum.AreSound]
  | succ depth induction =>
      cases value with
      | list place =>
          rw [contentsWithin, Datum.IsSound, Datum.areSound_iff]
          intro datum member
          obtain ⟨item, _, rfl⟩ := List.mem_map.1 member
          exact induction item
      | map place =>
          rw [contentsWithin, Datum.IsSound, Datum.areSound_iff]
          refine ⟨Std.TreeMap.ordered_keys, ?_, ?_⟩
          · rw [values_eq_map_toList]
            simp
          · intro datum member
            obtain ⟨item, _, rfl⟩ := List.mem_map.1 member
            exact induction item
      | _ => simp [contentsWithin, Datum.IsSound]

/-! ## Changes -/

/-- A heap keeps its places, and what they hold but for the place of one value. -/
structure KeepsBut (touched : Option Value) (heap later : Heap) : Prop where
  lists : ∀ place, place < heap.lists.size → touched ≠ some (.list place) →
    later.lists[place]? = heap.lists[place]?
  maps : ∀ place, place < heap.maps.size → touched ≠ some (.map place) →
    later.maps[place]? = heap.maps[place]?
  listsSize : heap.lists.size ≤ later.lists.size
  mapsSize : heap.maps.size ≤ later.maps.size

namespace KeepsBut

variable {touched : Option Value} {heap later : Heap}

theorem refl (heap : Heap) (touched : Option Value) : heap.KeepsBut touched heap :=
  ⟨fun _ _ _ => rfl, fun _ _ _ => rfl, Nat.le_refl _, Nat.le_refl _⟩

theorem trans {last : Heap} (left : heap.KeepsBut touched later)
    (right : later.KeepsBut touched last) : heap.KeepsBut touched last where
  lists place inside other :=
    (right.lists place (Nat.lt_of_lt_of_le inside left.listsSize) other).trans
      (left.lists place inside other)
  maps place inside other :=
    (right.maps place (Nat.lt_of_lt_of_le inside left.mapsSize) other).trans
      (left.maps place inside other)
  listsSize := Nat.le_trans left.listsSize right.listsSize
  mapsSize := Nat.le_trans left.mapsSize right.mapsSize

theorem of_separates (separate : heap.reserve.Separates later) : heap.KeepsBut touched later where
  lists place inside _ := separate.lists place inside
  maps place inside _ := separate.maps place inside
  listsSize := separate.lists_size_le
  mapsSize := separate.maps_size_le

theorem build (datum : Datum) (heap : Heap) : heap.KeepsBut touched (datum.build heap).2 :=
  .of_separates (Reserve.Separates.build heap.reserve datum (.refl heap)).1

theorem buildAll (data : List Datum) (heap : Heap) (done : Array Value) :
    heap.KeepsBut touched (Datum.buildAll data heap done).2 := by
  induction data generalizing heap done with
  | nil =>
      rw [Datum.buildAll]
      exact refl heap touched
  | cons datum rest induction =>
      rw [Datum.buildAll]
      exact (build datum heap).trans (induction _ _)

theorem newList (heap : Heap) (items : Array Value) :
    heap.KeepsBut touched (heap.newList items).2 where
  lists place inside _ := by rw [Heap.newList, Array.getElem?_push, if_neg (by omega)]
  maps _ _ _ := rfl
  listsSize := by simp [Heap.newList]
  mapsSize := Nat.le_refl _

theorem newMap (heap : Heap) (entries : Std.TreeMap String Value) :
    heap.KeepsBut touched (heap.newMap entries).2 where
  lists _ _ _ := rfl
  maps place inside _ := by rw [Heap.newMap, Array.getElem?_push, if_neg (by omega)]
  listsSize := Nat.le_refl _
  mapsSize := by simp [Heap.newMap]

theorem modifyList (heap : Heap) (place : Nat) (change : Array Value → Array Value) :
    heap.KeepsBut (some (.list place)) (heap.modifyList place change) where
  lists other inside differs := by
    rw [Heap.modifyList, Array.getElem?_modify, if_neg (by rintro rfl; exact differs rfl)]
  maps _ _ _ := rfl
  listsSize := by simp [Heap.modifyList]
  mapsSize := Nat.le_refl _

theorem modifyMap (heap : Heap) (place : Nat)
    (change : Std.TreeMap String Value → Std.TreeMap String Value) :
    heap.KeepsBut (some (.map place)) (heap.modifyMap place change) where
  lists _ _ _ := rfl
  maps other inside differs := by
    rw [Heap.modifyMap, Array.getElem?_modify, if_neg (by rintro rfl; exact differs rfl)]
  listsSize := Nat.le_refl _
  mapsSize := by simp [Heap.modifyMap]

theorem list_eq (keeps : heap.KeepsBut touched later) {place : Nat}
    (inside : place < heap.lists.size) (other : touched ≠ some (.list place)) :
    later.list place = heap.list place := by
  simp only [Heap.list, Array.getD_eq_getD_getElem?, keeps.lists place inside other]

theorem map_eq (keeps : heap.KeepsBut touched later) {place : Nat}
    (inside : place < heap.maps.size) (other : touched ≠ some (.map place)) :
    later.map place = heap.map place := by
  simp only [Heap.map, Array.getD_eq_getD_getElem?, keeps.maps place inside other]

theorem depthBound_le (keeps : heap.KeepsBut touched later) : heap.depthBound ≤ later.depthBound := by
  have := keeps.listsSize
  have := keeps.mapsSize
  unfold depthBound
  omega

end KeepsBut

structure IsWithin (base heap : Heap) : Prop where
  listsSize : base.lists.size ≤ heap.lists.size
  mapsSize : base.maps.size ≤ heap.maps.size

theorem KeepsBut.sizes {touched : Option Value} {heap later : Heap}
    (keeps : heap.KeepsBut touched later) : heap.IsWithin later :=
  ⟨keeps.listsSize, keeps.mapsSize⟩

theorem KeepsBut.isWithin {touched : Option Value} {base heap later : Heap}
    (keeps : heap.KeepsBut touched later) (within : base.IsWithin heap) : base.IsWithin later :=
  ⟨Nat.le_trans within.listsSize keeps.listsSize, Nat.le_trans within.mapsSize keeps.mapsSize⟩

/-! ## Values that show data -/

/-- A list or a map of a value stands in a place that the heap has, and that an earlier heap does not
have. -/
def IsNewSince (base heap : Heap) : Value → Prop
  | .list place => base.lists.size ≤ place ∧ place < heap.lists.size
  | .map place => base.maps.size ≤ place ∧ place < heap.maps.size
  | _ => True

theorem IsWithin.owns {base heap : Heap} (within : base.IsWithin heap) {value : Value}
    (reference : value.isReference = true) (owned : base.owns value = true) :
    heap.owns value = true := by
  cases value with
  | list place =>
      exact decide_eq_true (Nat.lt_of_lt_of_le (of_decide_eq_true owned) within.listsSize)
  | map place =>
      exact decide_eq_true (Nat.lt_of_lt_of_le (of_decide_eq_true owned) within.mapsSize)
  | _ => cases reference

theorem owns_of_isNewSince {base heap : Heap} {value : Value}
    (reference : value.isReference = true) (isNew : base.IsNewSince heap value) :
    heap.owns value = true ∧ base.owns value = false := by
  cases value with
  | list place => exact ⟨decide_eq_true isNew.2, decide_eq_false (Nat.not_lt.2 isNew.1)⟩
  | map place => exact ⟨decide_eq_true isNew.2, decide_eq_false (Nat.not_lt.2 isNew.1)⟩
  | _ => cases reference

theorem isNewSince_of_not_isReference {base heap : Heap} {value : Value}
    (scalar : value.isReference = false) : base.IsNewSince heap value := by
  cases value with
  | list | map => cases scalar
  | _ => trivial

mutual

/-- A value holds a datum, with everything in it in places that an earlier heap does not have. -/
def Shows (base heap : Heap) : Datum → Value → Prop
  | .list items, value =>
      ∃ place, value = .list place ∧ ShowsAll base heap items (heap.list place).toList
  | .map keys values, value =>
      ∃ place, value = .map place ∧ (heap.map place).keys = keys ∧
        ShowsAll base heap values (heap.map place).values
  | scalar, value => value = (scalar.build {}).1

def ShowsAll (base heap : Heap) : List Datum → List Value → Prop
  | [], values => values = []
  | datum :: rest, values =>
      ∃ value others, values = value :: others ∧ base.IsNewSince heap value ∧
        Shows base heap datum value ∧ ShowsAll base heap rest others

end

mutual

theorem contentsWithin_of_shows {base heap : Heap} : ∀ (datum : Datum) {value : Value} {depth : Nat},
    base.Shows heap datum value → datum.depth ≤ depth → heap.contentsWithin depth value = datum
  | .list items, _, depth, shows, enough => by
      rw [Shows] at shows
      obtain ⟨place, rfl, showsItems⟩ := shows
      rw [Datum.depth] at enough
      obtain ⟨depth, rfl⟩ := Nat.exists_eq_add_of_lt (Nat.lt_of_succ_le enough)
      rw [contentsWithin, map_contentsWithin_of_showsAll items showsItems (by omega)]
  | .map keys values, _, depth, shows, enough => by
      rw [Shows] at shows
      obtain ⟨place, rfl, rfl, showsValues⟩ := shows
      rw [Datum.depth] at enough
      obtain ⟨depth, rfl⟩ := Nat.exists_eq_add_of_lt (Nat.lt_of_succ_le enough)
      rw [contentsWithin, map_contentsWithin_of_showsAll values showsValues (by omega)]
  | .integer _, _, _, shows, _ | .float _, _, _, shows, _ | .text _, _, _, shows, _
  | .boolean _, _, _, shows, _ | .null, _, _, shows, _ | .object .., _, _, shows, _
  | .unresolved, _, _, shows, _ => by
      simp only [Shows, Datum.build] at shows
      rw [shows, contentsWithin]

theorem map_contentsWithin_of_showsAll {base heap : Heap} :
    ∀ (data : List Datum) {values : List Value} {depth : Nat}, base.ShowsAll heap data values →
      Datum.depthOfAll data ≤ depth → values.map (heap.contentsWithin depth) = data
  | [], _, _, shows, _ => by
      rw [ShowsAll] at shows
      rw [shows, List.map_nil]
  | datum :: rest, _, _, shows, enough => by
      rw [ShowsAll] at shows
      obtain ⟨value, others, rfl, _, showsFirst, showsRest⟩ := shows
      rw [Datum.depthOfAll] at enough
      rw [List.map_cons, contentsWithin_of_shows datum showsFirst (by omega),
        map_contentsWithin_of_showsAll rest showsRest (by omega)]

end

theorem length_eq_of_showsAll {base heap : Heap} {data : List Datum} {values : List Value}
    (shows : base.ShowsAll heap data values) : values.length = data.length := by
  induction data generalizing values with
  | nil =>
      rw [ShowsAll] at shows
      rw [shows, List.length_nil, List.length_nil]
  | cons datum rest induction =>
      rw [ShowsAll] at shows
      obtain ⟨value, others, rfl, _, _, showsRest⟩ := shows
      rw [List.length_cons, List.length_cons, induction showsRest]

def IsLeftAlone (heap : Heap) (touched : Option Value) (value : Value) : Prop :=
  value.isReference = true → heap.owns value = true ∧ touched ≠ some value

theorem isLeftAlone_of_isNewSince {base heap : Heap} {touched : Option Value}
    (old : ∀ value, touched = some value → base.owns value = true) {value : Value}
    (isNew : base.IsNewSince heap value) : heap.IsLeftAlone touched value := by
  intro reference
  obtain ⟨owned, notBefore⟩ := owns_of_isNewSince reference isNew
  refine ⟨owned, fun same => ?_⟩
  rw [old value same] at notBefore
  cases notBefore

theorem IsNewSince.of_keepsBut {base heap later : Heap} {touched : Option Value}
    (keeps : heap.KeepsBut touched later) {value : Value} (isNew : base.IsNewSince heap value) :
    base.IsNewSince later value := by
  cases value with
  | list place => exact ⟨isNew.1, Nat.lt_of_lt_of_le isNew.2 keeps.listsSize⟩
  | map place => exact ⟨isNew.1, Nat.lt_of_lt_of_le isNew.2 keeps.mapsSize⟩
  | _ => trivial

mutual

/-- A value that is left alone shows what it did, if nothing is touched but a place of the earlier
heap. -/
theorem Shows.of_keepsBut {base heap later : Heap} {touched : Option Value}
    (old : ∀ value, touched = some value → base.owns value = true)
    (keeps : heap.KeepsBut touched later) :
    ∀ (datum : Datum) {value : Value}, heap.IsLeftAlone touched value →
      base.Shows heap datum value → base.Shows later datum value
  | .list items, _, alone, shows => by
      rw [Shows] at shows ⊢
      obtain ⟨place, rfl, showsItems⟩ := shows
      have kept := keeps.list_eq (of_decide_eq_true (alone rfl).1) (alone rfl).2
      exact ⟨place, rfl, kept ▸ ShowsAll.of_keepsBut old keeps items showsItems⟩
  | .map keys values, _, alone, shows => by
      rw [Shows] at shows ⊢
      obtain ⟨place, rfl, sameKeys, showsValues⟩ := shows
      have kept := keeps.map_eq (of_decide_eq_true (alone rfl).1) (alone rfl).2
      exact ⟨place, rfl, kept ▸ sameKeys, kept ▸ ShowsAll.of_keepsBut old keeps values showsValues⟩
  | .integer _, _, _, shows | .float _, _, _, shows | .text _, _, _, shows
  | .boolean _, _, _, shows | .null, _, _, shows | .object .., _, _, shows
  | .unresolved, _, _, shows => by
      simpa only [Shows] using shows

theorem ShowsAll.of_keepsBut {base heap later : Heap} {touched : Option Value}
    (old : ∀ value, touched = some value → base.owns value = true)
    (keeps : heap.KeepsBut touched later) :
    ∀ (data : List Datum) {values : List Value},
      base.ShowsAll heap data values → base.ShowsAll later data values
  | [], _, shows => by
      rw [ShowsAll] at shows ⊢
      exact shows
  | datum :: rest, _, shows => by
      rw [ShowsAll] at shows ⊢
      obtain ⟨value, others, rfl, isNew, showsFirst, showsRest⟩ := shows
      exact ⟨value, others, rfl, isNew.of_keepsBut keeps,
        Shows.of_keepsBut old keeps datum (isLeftAlone_of_isNewSince old isNew) showsFirst,
        ShowsAll.of_keepsBut old keeps rest showsRest⟩

end

/-! ## Overwriting -/

theorem Shows.modifyList {base heap : Heap} {datum : Datum} {existing updated : Nat}
    (shows : base.Shows heap datum (.list updated)) (old : base.owns (.list existing) = true)
    (within : base.IsWithin heap) :
    base.Shows (heap.modifyList existing fun _ => heap.list updated) datum (.list existing) := by
  have inside : existing < heap.lists.size :=
    Nat.lt_of_lt_of_le (of_decide_eq_true old) within.listsSize
  have written : (heap.modifyList existing fun _ => heap.list updated).list existing =
      heap.list updated := by
    simp only [Heap.list, Heap.modifyList, Array.getD_eq_getD_getElem?, Array.getElem?_modify,
      if_true, Array.getElem?_eq_getElem inside, Option.map_some, Option.getD_some]
  cases datum with
  | list items =>
      rw [Shows] at shows ⊢
      obtain ⟨place, ⟨⟩, showsItems⟩ := shows
      refine ⟨existing, rfl, ?_⟩
      rw [written]
      refine ShowsAll.of_keepsBut ?_ (.modifyList heap existing _) items showsItems
      rintro value ⟨⟩
      exact old
  | map keys values =>
      rw [Shows] at shows
      obtain ⟨place, ⟨⟩, _⟩ := shows
  | _ =>
      simp only [Shows, Datum.build] at shows
      cases shows

theorem Shows.modifyMap {base heap : Heap} {datum : Datum} {existing updated : Nat}
    (shows : base.Shows heap datum (.map updated)) (old : base.owns (.map existing) = true)
    (within : base.IsWithin heap) :
    base.Shows (heap.modifyMap existing fun _ => heap.map updated) datum (.map existing) := by
  have inside : existing < heap.maps.size :=
    Nat.lt_of_lt_of_le (of_decide_eq_true old) within.mapsSize
  have written : (heap.modifyMap existing fun _ => heap.map updated).map existing =
      heap.map updated := by
    simp only [Heap.map, Heap.modifyMap, Array.getD_eq_getD_getElem?, Array.getElem?_modify,
      if_true, Array.getElem?_eq_getElem inside, Option.map_some, Option.getD_some]
  cases datum with
  | map keys values =>
      rw [Shows] at shows ⊢
      obtain ⟨place, ⟨⟩, sameKeys, showsValues⟩ := shows
      refine ⟨existing, rfl, ?_⟩
      rw [written]
      refine ⟨sameKeys, ShowsAll.of_keepsBut ?_ (.modifyMap heap existing _) values showsValues⟩
      rintro value ⟨⟩
      exact old
  | list items =>
      rw [Shows] at shows
      obtain ⟨place, ⟨⟩, _⟩ := shows
  | _ =>
      simp only [Shows, Datum.build] at shows
      cases shows

/-! ## Building -/

mutual

/-- A datum that is built stands in new places, at least as many as it is deep. -/
theorem depthBound_build : ∀ (datum : Datum) (heap : Heap),
    heap.depthBound + datum.depth ≤ (datum.build heap).2.depthBound
  | .list items, heap => by
      have inside := depthBound_buildAll items heap #[]
      simp only [Datum.build, Datum.depth, newList, depthBound, Array.size_push] at inside ⊢
      omega
  | .map _ values, heap => by
      have inside := depthBound_buildAll values heap #[]
      simp only [Datum.build, Datum.depth, newMap, depthBound, Array.size_push] at inside ⊢
      omega
  | .integer _, _ | .float _, _ | .text _, _ | .boolean _, _ | .null, _ | .object .., _
  | .unresolved, _ => by
      simp [Datum.build, Datum.depth]

theorem depthBound_buildAll : ∀ (data : List Datum) (heap : Heap) (done : Array Value),
    heap.depthBound + Datum.depthOfAll data ≤ (Datum.buildAll data heap done).2.depthBound
  | [], heap, done => by simp [Datum.buildAll, Datum.depthOfAll]
  | datum :: rest, heap, done => by
      have first := depthBound_build datum heap
      rw [Datum.buildAll, Datum.depthOfAll]
      generalize datum.build heap = built at first
      have others := depthBound_buildAll rest built.2 (done.push built.1)
      dsimp only
      omega

end

theorem list_newList (heap : Heap) (items : Array Value) :
    (heap.newList items).2.list heap.lists.size = items := by
  simp [newList, list]

theorem map_newMap (heap : Heap) (entries : Std.TreeMap String Value) :
    (heap.newMap entries).2.map heap.maps.size = entries := by
  simp [newMap, map]

mutual

theorem shows_build {base : Heap} : ∀ (datum : Datum) {heap : Heap}, datum.IsSound →
    base.IsWithin heap →
    base.Shows (datum.build heap).2 datum (datum.build heap).1 ∧
      base.IsNewSince (datum.build heap).2 (datum.build heap).1
  | .list items, heap, sound, within => by
      rw [Datum.IsSound] at sound
      obtain ⟨values, built, shows⟩ := showsAll_buildAll items sound within #[]
      have inside := (@KeepsBut.buildAll none items heap #[]).isWithin within
      rw [Datum.build]
      generalize Datum.buildAll items heap #[] = all at built shows inside
      -- The new list is put behind what was built, so the items are shown in it, too.
      have stays := ShowsAll.of_keepsBut (by simp) (@KeepsBut.newList none all.2 all.1) items shows
      refine ⟨?_, inside.listsSize, by simp [newList]⟩
      rw [Shows]
      refine ⟨_, rfl, ?_⟩
      rw [list_newList, built, Array.empty_append]
      exact stays
  | .map keys values, heap, sound, within => by
      rw [Datum.IsSound] at sound
      obtain ⟨ordered, sameLength, sound⟩ := sound
      obtain ⟨built, isBuilt, shows⟩ := showsAll_buildAll values sound within #[]
      have inside := (@KeepsBut.buildAll none values heap #[]).isWithin within
      rw [Datum.build]
      generalize Datum.buildAll values heap #[] = all at isBuilt shows inside
      have table := ofList_zip_of_ordered ordered
        ((length_eq_of_showsAll shows).trans sameLength)
      rw [Array.empty_append] at isBuilt
      dsimp only
      rw [isBuilt]
      have stays := ShowsAll.of_keepsBut (by simp)
        (@KeepsBut.newMap none all.2 (Std.TreeMap.ofList (keys.zip built.toList))) values shows
      refine ⟨?_, inside.mapsSize, by simp [newMap]⟩
      rw [Shows]
      refine ⟨_, rfl, ?_⟩
      rw [map_newMap, table.1, table.2]
      exact ⟨rfl, stays⟩
  | .integer _, _, _, _ | .float _, _, _, _ | .text _, _, _, _ | .boolean _, _, _, _
  | .null, _, _, _ | .object .., _, _, _ | .unresolved, _, _, _ => by
      simp [Datum.build, Shows, IsNewSince]

theorem showsAll_buildAll {base : Heap} : ∀ (data : List Datum) {heap : Heap},
    Datum.AreSound data → base.IsWithin heap → ∀ (done : Array Value),
    ∃ values, (Datum.buildAll data heap done).1 = done ++ values ∧
      base.ShowsAll (Datum.buildAll data heap done).2 data values.toList
  | [], heap, _, _, done => ⟨#[], by simp [Datum.buildAll], by simp [ShowsAll]⟩
  | datum :: rest, heap, sound, within, done => by
      rw [Datum.AreSound] at sound
      obtain ⟨shows, isNew⟩ := shows_build datum sound.1 within
      have inside := (@KeepsBut.build none datum heap).isWithin within
      rw [Datum.buildAll]
      generalize datum.build heap = first at shows isNew inside
      obtain ⟨others, added, showsRest⟩ :=
        showsAll_buildAll rest sound.2 inside (done.push first.1)
      have keeps := @KeepsBut.buildAll none rest first.2 (done.push first.1)
      refine ⟨#[first.1] ++ others, ?_, ?_⟩
      · rw [added, Array.push_eq_append, Array.append_assoc]
      · rw [ShowsAll]
        refine ⟨first.1, others.toList, by simp, isNew.of_keepsBut keeps, ?_, showsRest⟩
        exact Shows.of_keepsBut (by simp) keeps datum
          (isLeftAlone_of_isNewSince (by simp) isNew) shows

end

end Heap

end MacroSandbox
