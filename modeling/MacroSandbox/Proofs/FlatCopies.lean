import MacroSandbox.Loop.Machine
import MacroSandbox.Proofs.Copies

/-! Copies of values without nested lists and maps.

Such a value is no reference, or a list of values that are none. A program starts with copies of its
initial values: what is no reference is its own copy, and every list is copied to a place of its own,
also where several names have the same list. -/

namespace MacroSandbox

namespace Heap

/-! ## Building flat values -/

theorem build_contents {value : Value} (isScalar : value.isReference = false)
    (heap other : Heap) : (heap.contents value).build other = (value, other) := by
  cases value <;> first | rfl | cases isScalar

theorem contentsWithin_eq_contents {value : Value} (isScalar : value.isReference = false)
    (heap : Heap) (depth : Nat) : heap.contentsWithin depth value = heap.contents value := by
  cases value <;> first | (cases depth <;> rfl) | cases isScalar

theorem buildAll_contents {values : List Value}
    (areScalar : ∀ value ∈ values, value.isReference = false) (heap other : Heap)
    (done : Array Value) :
    Datum.buildAll (values.map heap.contents) other done = (done ++ values, other) := by
  induction values generalizing done with
  | nil => simp [Datum.buildAll]
  | cons value rest induction =>
      simp only [List.map_cons, Datum.buildAll, build_contents (areScalar value (by simp))]
      rw [induction fun later member => areScalar later (by simp [member])]
      simp

theorem build_contents_list {heap : Heap} {place : Nat}
    (areScalar : ∀ item ∈ heap.list place, item.isReference = false) (other : Heap) :
    (heap.contents (.list place)).build other = other.newList (heap.list place) := by
  have items : heap.contents (.list place) =
      .list ((heap.list place).toList.map heap.contents) := by
    rw [contents, depthBound, contentsWithin]
    refine congrArg Datum.list (List.map_congr_left fun item member => ?_)
    exact contentsWithin_eq_contents (areScalar item (by simpa using member)) heap _
  have areScalar : ∀ item ∈ (heap.list place).toList, item.isReference = false :=
    fun item member => areScalar item (by simpa using member)
  rw [items, Datum.build, buildAll_contents areScalar]
  simp

/-! ## Copies -/

/-- A value is no reference, or a list without references. -/
def IsFlat (heap : Heap) (value : Value) : Prop :=
  value.isReference = false ∨
    ∃ place, value = .list place ∧ ∀ item ∈ heap.list place, item.isReference = false

/-- A value of an earlier heap was copied: what is no reference stays as it is, and the items of a
list are those of another list, in a place that the heap `base` does not have. -/
def IsCopy (base earlier heap : Heap) (value copy : Value) : Prop :=
  (value.isReference = false ∧ copy = value) ∨
    ∃ place here, value = .list place ∧ copy = .list here ∧ base.lists.size ≤ here ∧
      here < heap.lists.size ∧ heap.list here = earlier.list place

theorem IsCopy.of_later {base earlier other heap : Heap} {value copy : Value}
    (isCopy : IsCopy other earlier heap value copy) (later : base.lists.size ≤ other.lists.size) :
    IsCopy base earlier heap value copy := by
  rcases isCopy with scalar | ⟨place, here, same, copied, isNew, inside, items⟩
  · exact .inl scalar
  · exact .inr ⟨place, here, same, copied, Nat.le_trans later isNew, inside, items⟩

def IsCopiedEntry (base earlier heap : Heap) (entry copied : String × Value) : Prop :=
  copied.1 = entry.1 ∧ IsCopy base earlier heap entry.2 copied.2

def AreDistinct (first second : String × Value) : Prop :=
  first.2.isReference = true → first.2 ≠ second.2

instance : Std.Symm AreDistinct :=
  ⟨fun _ _ distinct reference same => distinct (same ▸ reference) same.symm⟩

private theorem exists_of_mem_copied {base earlier heap : Heap}
    {entries copied : List (String × Value)}
    (areCopies : List.Forall₂ (IsCopiedEntry base earlier heap) entries copied)
    {copy : String × Value} (member : copy ∈ copied) :
    ∃ entry ∈ entries, IsCopiedEntry base earlier heap entry copy := by
  induction areCopies with
  | nil => cases member
  | cons first _ induction =>
      rcases List.mem_cons.1 member with rfl | later
      · exact ⟨_, .head _, first⟩
      · obtain ⟨entry, inside, isCopy⟩ := induction later
        exact ⟨entry, .tail _ inside, isCopy⟩

theorem exists_copy_of_mem {base earlier heap : Heap} {entries copied : List (String × Value)}
    (areCopies : List.Forall₂ (IsCopiedEntry base earlier heap) entries copied)
    {entry : String × Value} (member : entry ∈ entries) :
    ∃ copy ∈ copied, IsCopiedEntry base earlier heap entry copy := by
  induction areCopies with
  | nil => cases member
  | cons first _ induction =>
      rcases List.mem_cons.1 member with rfl | later
      · exact ⟨_, .head _, first⟩
      · obtain ⟨copy, inside, isCopy⟩ := induction later
        exact ⟨copy, .tail _ inside, isCopy⟩

theorem copies_buildAll {earlier : Heap} : ∀ {entries : List (String × Value)} (heap : Heap)
    (done : Array Value), (∀ entry ∈ entries, earlier.IsFlat entry.2) →
    ∃ copied later, Datum.buildAll (entries.map fun entry => earlier.contents entry.2) heap done =
        (done ++ (copied.map Prod.snd).toArray, later) ∧
      List.Forall₂ (IsCopiedEntry heap earlier later) entries copied ∧
      copied.Pairwise AreDistinct ∧ heap.KeepsBut none later
  | [], heap, done, _ => ⟨[], heap, by simp [Datum.buildAll], .nil, .nil, .refl heap none⟩
  | (name, value) :: rest, heap, done, flat => by
      have flatRest : ∀ entry ∈ rest, earlier.IsFlat entry.2 :=
        fun entry member => flat entry (List.mem_cons_of_mem _ member)
      rcases flat (name, value) (by simp) with scalar | ⟨place, same, areScalar⟩
      · obtain ⟨copied, later, built, areCopies, distinct, keeps⟩ :=
          copies_buildAll heap (done.push value) flatRest
        refine ⟨(name, value) :: copied, later, ?_, .cons ⟨rfl, .inl ⟨scalar, rfl⟩⟩ areCopies, ?_,
          keeps⟩
        · simp only [List.map_cons, Datum.buildAll, build_contents scalar, built]
          simp
        · refine .cons (fun _ _ reference => ?_) distinct
          rw [scalar] at reference
          cases reference
      · obtain rfl : value = .list place := same
        let grown := (heap.newList (earlier.list place)).2
        have sizes : grown.lists.size = heap.lists.size + 1 := by simp [grown, newList]
        have inside : heap.lists.size < grown.lists.size := by omega
        obtain ⟨copied, later, built, areCopies, distinct, keeps⟩ :=
          copies_buildAll grown (done.push (.list heap.lists.size)) flatRest
        refine ⟨(name, .list heap.lists.size) :: copied, later, ?_, .cons ⟨rfl, .inr ?_⟩ ?_, ?_,
          (KeepsBut.newList heap _).trans keeps⟩
        · have copies := build_contents_list areScalar heap
          simp only [List.map_cons, Datum.buildAll, copies]
          rw [show heap.newList (earlier.list place) = (.list heap.lists.size, grown) from rfl]
          simp only [built]
          simp
        · refine ⟨place, heap.lists.size, rfl, rfl, Nat.le_refl _,
            Nat.lt_of_lt_of_le inside keeps.listsSize, ?_⟩
          rw [keeps.list_eq inside (by simp)]
          exact list_newList heap _
        · exact areCopies.imp fun _ _ isCopy => ⟨isCopy.1, isCopy.2.of_later (by omega)⟩
        · -- Whatever is copied later stands behind this copy.
          refine .cons (fun copy member _ same => ?_) distinct
          obtain ⟨source, _, _, ⟨scalar, isSource⟩ | ⟨_, here, _, isHere, isNew, _⟩⟩ :=
            exists_of_mem_copied areCopies member
          · rw [← isSource, ← same] at scalar
            cases scalar
          · rw [isHere] at same
            cases same
            omega

end Heap

/-- A program whose initial values are flat starts with copies of them. No two names start with the
same list. -/
theorem Machine.copyPrologue_of_flat {prologue : Std.TreeMap String Value} {heap : Heap}
    (flat : ∀ name value, prologue.get? name = some value → heap.IsFlat value) :
    (∀ name value, prologue.get? name = some value → ∃ copy,
      (copyPrologue heap prologue).1.get? name = some copy ∧
        heap.IsCopy heap (copyPrologue heap prologue).2 value copy) ∧
    ∀ {name other : String} {value : Value}, value.isReference = true →
      (copyPrologue heap prologue).1.get? name = some value →
      (copyPrologue heap prologue).1.get? other = some value → name = other := by
  have flatEntries : ∀ entry ∈ prologue.toList, heap.IsFlat entry.2 := fun entry member =>
    flat entry.1 entry.2 (Std.TreeMap.mem_toList_iff_getElem?_eq_some.1 member)
  obtain ⟨copied, later, built, areCopies, distinct, _⟩ :=
    Heap.copies_buildAll heap #[] flatEntries
  have names : copied.map Prod.fst = prologue.keys := by
    rw [← Std.TreeMap.map_fst_toList_eq_keys, ← List.forall₂_eq_eq_eq, List.forall₂_map_left_iff,
      List.forall₂_map_right_iff]
    exact (areCopies.imp fun _ _ isCopy => isCopy.1).flip
  have stored : copyPrologue heap prologue = (Std.TreeMap.ofList copied, later) := by
    have entries : prologue.keys.zip (copied.map Prod.snd) = copied :=
      (List.zip_of_prod names rfl).symm
    simp [copyPrologue, built, entries]
  have once : copied.Pairwise fun first second => ¬ compare first.1 second.1 = .eq := by
    have distinctKeys := @Std.TreeMap.distinct_keys _ _ _ prologue _
    rw [← names] at distinctKeys
    exact List.pairwise_map.1 distinctKeys
  rw [stored]
  refine ⟨fun name value found => ?_, fun reference first second => ?_⟩
  · have listed := Std.TreeMap.mem_toList_iff_getElem?_eq_some.2 found
    obtain ⟨⟨_, copy⟩, member, rfl, isCopy⟩ := Heap.exists_copy_of_mem areCopies listed
    exact ⟨copy, Std.TreeMap.getElem?_ofList_of_mem (by simp) once member, isCopy⟩
  · by_contra differs
    have apart := distinct.forall (mem_of_get?_ofList first) (mem_of_get?_ofList second)
      (by simpa using differs)
    exact apart reference rfl

end MacroSandbox
