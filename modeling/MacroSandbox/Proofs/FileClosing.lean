import MacroSandbox.Proofs.FileHistories
import MacroSandbox.Proofs.Running

/-! Which files are closed at the end of a run.

Every open file is closed under its own name, but the name is read like a number first. A name that is
also a number in use closes the file behind the number, and a name that is kept with a blank in front or
behind is not found again. -/

namespace MacroSandbox

namespace FileTable

variable {files after : FileTable} {name : String}

/-! ## Closing several files -/

/-- Closes files one after the other: those that were closed with what they held, and the table
afterwards. -/
def closeEach (files : FileTable) : List String → List (String × ByteArray) × FileTable
  | [] => ([], files)
  | number :: rest =>
      match files.close? number with
      | none => files.closeEach rest
      | some (name, contents, after) =>
          ((name, contents) :: (after.closeEach rest).1, (after.closeEach rest).2)

/-- Some open files were dropped: they are closed with what they held, and the others are as they
were. -/
structure Drops (before : FileTable) (dropped : List (String × ByteArray)) (after : FileTable) :
    Prop where
  nodup : (dropped.map Prod.fst).Nodup
  held : ∀ name contents, (name, contents) ∈ dropped →
    before.opened[name]? = some contents ∧ after.opened[name]? = none ∧
      after.closed[name]? = some contents
  others : ∀ name, name ∉ dropped.map Prod.fst →
    after.opened[name]? = before.opened[name]? ∧ after.closed[name]? = before.closed[name]?

theorem closeEach_cons_of_none {number : String} {rest : List String}
    (notOpen : files.opened[files.resolve number]? = none) :
    files.closeEach (number :: rest) = files.closeEach rest := by
  simp only [closeEach, close?_eq_none notOpen]

theorem closeEach_cons_of_some {number : String} {rest : List String} {contents : ByteArray}
    (isOpen : files.opened[files.resolve number]? = some contents) :
    files.closeEach (number :: rest) =
      ((files.resolve number, contents) ::
          ((files.without (files.resolve number) contents).closeEach rest).1,
        ((files.without (files.resolve number) contents).closeEach rest).2) := by
  simp only [closeEach, close?_eq_some isOpen]

theorem Drops.cons {contents : ByteArray} {dropped : List (String × ByteArray)}
    (isOpen : files.opened[name]? = some contents)
    (rest : (files.without name contents).Drops dropped after) :
    files.Drops ((name, contents) :: dropped) after := by
  have gone : (files.without name contents).opened[name]? = none := by
    simp [getElem?_opened_without]
  -- The rest is dropped from files without this one, so it is not dropped again.
  have once : name ∉ dropped.map Prod.fst := by
    intro again
    obtain ⟨⟨_, bytes⟩, member, rfl⟩ := List.mem_map.1 again
    rw [(rest.held _ bytes member).1] at gone
    cases gone
  refine ⟨?_, ?_, ?_⟩
  · exact List.nodup_cons.2 ⟨once, rest.nodup⟩
  · intro other bytes member
    rcases List.mem_cons.1 member with same | later
    · cases same
      refine ⟨isOpen, ?_, ?_⟩
      · rw [(rest.others name once).1, gone]
      · rw [(rest.others name once).2, getElem?_closed_without, if_pos rfl]
    · obtain ⟨heldThen, closed⟩ := rest.held other bytes later
      have different : name ≠ other := by
        rintro rfl
        exact once (List.mem_map.2 ⟨_, later, rfl⟩)
      rw [getElem?_opened_without, if_neg different] at heldThen
      exact ⟨heldThen, closed⟩
  · intro other notDropped
    rw [List.map_cons, List.mem_cons, not_or] at notDropped
    have kept := rest.others other notDropped.2
    rw [getElem?_opened_without, getElem?_closed_without,
      if_neg (Ne.symm notDropped.1), if_neg (Ne.symm notDropped.1)] at kept
    exact kept

theorem drops_closeEach (files : FileTable) (numbers : List String) :
    files.Drops (files.closeEach numbers).1 (files.closeEach numbers).2 := by
  induction numbers generalizing files with
  | nil =>
      refine ⟨List.nodup_nil, ?_, fun _ _ => ⟨rfl, rfl⟩⟩
      intro name contents member
      cases member
  | cons number rest induction =>
      cases held : files.opened[files.resolve number]? with
      | none =>
          rw [closeEach_cons_of_none held]
          exact induction files
      | some contents =>
          rw [closeEach_cons_of_some held]
          exact .cons held (induction _)

theorem length_closeEach_le (files : FileTable) (numbers : List String) :
    (files.closeEach numbers).1.length ≤ numbers.length := by
  induction numbers generalizing files with
  | nil => exact Nat.le_refl 0
  | cons number rest induction =>
      cases held : files.opened[files.resolve number]? with
      | none =>
          rw [closeEach_cons_of_none held]
          exact Nat.le_succ_of_le (induction files)
      | some contents =>
          rw [closeEach_cons_of_some held]
          exact Nat.succ_le_succ (induction _)

/-! ## Names that are found -/

theorem Drops.eq_toList_iff {dropped : List (String × ByteArray)}
    (drops : files.Drops dropped after) :
    dropped = files.opened.toList ↔ dropped.map Prod.fst = files.openNames := by
  have sameNames : files.opened.toList.map Prod.fst = files.openNames :=
    Std.TreeMap.map_fst_toList_eq_keys
  constructor
  · rintro rfl
    exact sameNames
  · intro same
    have length : dropped.length = files.opened.toList.length := by
      rw [← List.length_map (f := Prod.fst), same, ← sameNames, List.length_map]
    apply List.ext_getElem length
    intro index inDropped inFiles
    have sameName : dropped[index].1 = files.opened.toList[index].1 := by
      rw [← sameNames] at same
      have sameIndex := List.getElem_of_eq same (by rwa [List.length_map])
      rwa [List.getElem_map, List.getElem_map] at sameIndex
    have heldDropped := (drops.held dropped[index].1 dropped[index].2 (List.getElem_mem _)).1
    have held : files.opened[files.opened.toList[index].1]? = some files.opened.toList[index].2 :=
      Std.TreeMap.mem_toList_iff_getElem?_eq_some.1 (List.getElem_mem inFiles)
    rw [sameName, held] at heldDropped
    exact Prod.ext sameName (Option.some.inj heldDropped).symm

theorem Drops.openNames_eq_nil (drops : files.Drops files.opened.toList after) :
    after.openNames = [] := by
  rw [List.eq_nil_iff_forall_not_mem]
  intro name member
  rw [openNames, Std.TreeMap.mem_keys, Std.TreeMap.mem_iff_isSome_getElem?] at member
  cases held : files.opened[name]? with
  | none =>
      have notDropped : name ∉ files.opened.toList.map Prod.fst := by
        rw [Std.TreeMap.map_fst_toList_eq_keys, Std.TreeMap.mem_keys,
          Std.TreeMap.mem_iff_isSome_getElem?, held]
        exact Bool.false_ne_true
      rw [(drops.others name notDropped).1, held] at member
      cases member
  | some contents =>
      have dropped := Std.TreeMap.mem_toList_iff_getElem?_eq_some.2 held
      rw [(drops.held name contents dropped).2.1] at member
      cases member

/-- When the files are closed in the order of their names, this name still means its own file when its
turn comes: as a number it does not mean a file that comes later, and it either means its own file or
reads as the name that it is. -/
structure IsFound (files : FileTable) (name : String) : Prop where
  number : ∀ other : String, files.numbers[numberKey name]? = some other →
    compare other name ≠ .gt
  key : files.numbers[numberKey name]? = some name ∨ fileKey name = name

theorem isFound_iff_of_first
    (numbers : ∀ number key : String, files.numbers[number]? = some key → key ∈ files.opened)
    (first : ∀ other ∈ files.opened, other ≠ name → compare other name = .gt) :
    files.IsFound name ↔ files.resolve name = name := by
  unfold resolve
  simp only [Std.TreeMap.get?_eq_getElem?]
  constructor
  · intro found
    cases means : files.numbers[numberKey name]? with
    | none =>
        rcases found.key with own | own
        · rw [means] at own
          cases own
        · exact own
    | some other =>
        by_contra different
        -- A number that means another file means a later one, and keeps this file from being found.
        exact found.number other means (first other (numbers _ other means) different)
  · intro same
    cases means : files.numbers[numberKey name]? with
    | none =>
        rw [means] at same
        refine ⟨?_, .inr same⟩
        intro other impossible
        rw [means] at impossible
        cases impossible
    | some other =>
        rw [means] at same
        have own : other = name := same
        rw [own] at means
        refine ⟨?_, .inl means⟩
        intro again meansToo
        rw [means] at meansToo
        cases meansToo
        simp

theorem isFound_without_iff {earlier : String} (before : compare earlier name = .lt)
    (contents : ByteArray) :
    (files.without earlier contents).IsFound name ↔ files.IsFound name := by
  have different : name ≠ earlier := by
    rintro rfl
    simp at before
  constructor
  · intro found
    refine ⟨?_, ?_⟩
    · intro other means
      by_cases same : other = earlier
      · rw [same, before]
        decide
      · -- A number of any other file still means it.
        apply found.number
        rw [getElem?_numbers_without, means]
        simp [same]
    · apply found.key.imp _ id
      intro own
      rw [getElem?_numbers_without] at own
      exact (Option.filter_eq_some_iff.1 own).1
  · intro found
    refine ⟨?_, ?_⟩
    · intro other means
      rw [getElem?_numbers_without] at means
      exact found.number other (Option.filter_eq_some_iff.1 means).1
    · apply found.key.imp _ id
      intro own
      rw [getElem?_numbers_without, own]
      simp [different]

/-- Files are closed in the order of their names if and only if every name is found. -/
theorem map_fst_closeEach_eq_iff {names : List String}
    (ordered : names.Pairwise fun left right => compare left right = .lt)
    (areOpen : ∀ name, name ∈ files.opened ↔ name ∈ names)
    (numbers : ∀ number key : String, files.numbers[number]? = some key → key ∈ files.opened) :
    (files.closeEach names).1.map Prod.fst = names ↔ ∀ name ∈ names, files.IsFound name := by
  induction names generalizing files with
  | nil => simp [closeEach]
  | cons name rest induction =>
      obtain ⟨isFirst, restOrdered⟩ := List.pairwise_cons.1 ordered
      have found : files.IsFound name ↔ files.resolve name = name := by
        apply isFound_iff_of_first numbers
        intro other isOpen different
        rcases List.mem_cons.1 ((areOpen other).1 isOpen) with same | later
        · exact absurd same different
        · exact Std.OrientedCmp.gt_iff_lt.2 (isFirst other later)
      rw [List.forall_mem_cons, found]
      cases held : files.opened[files.resolve name]? with
      | none =>
          -- One file too few is closed, and the first name means no open file.
          rw [closeEach_cons_of_none held]
          constructor
          · intro same
            have few := files.length_closeEach_le rest
            rw [← List.length_map (f := Prod.fst), same, List.length_cons] at few
            omega
          · rintro ⟨own, -⟩
            have isOpen := (areOpen name).2 List.mem_cons_self
            rw [own] at held
            rw [Std.TreeMap.mem_iff_isSome_getElem?, held] at isOpen
            cases isOpen
      | some contents =>
          rw [closeEach_cons_of_some held, List.map_cons, List.cons.injEq]
          apply and_congr_right
          intro own
          dsimp only at own
          rw [own] at held ⊢
          have areOpenNext (other : String) :
              other ∈ (files.without name contents).opened ↔ other ∈ rest := by
            rw [mem_opened_without_iff, areOpen other, List.mem_cons]
            constructor
            · rintro ⟨different, rfl | later⟩
              · exact absurd rfl different
              · exact later
            · intro later
              refine ⟨?_, .inr later⟩
              rintro rfl
              simpa using isFirst name later
          rw [induction restOrdered areOpenNext (mem_opened_of_numbers_without numbers)]
          apply forall₂_congr
          intro other later
          exact isFound_without_iff (isFirst other later) contents

end FileTable

/-! ## Closing all files of a run -/

theorem Hex.lowerDigit_ne_nul : ∀ value < 16, lowerDigit value ≠ '\x00' := by
  decide

theorem Sha256.not_mem_digest_nul (bytes : ByteArray) : '\x00' ∉ (digest bytes).toList := by
  unfold digest Hex.encode
  simp only [String.toList_ofList, List.mem_flatMap, not_exists, not_and]
  intro byte _ member
  have small := byte.toNat_lt
  rcases List.mem_pair.1 member with same | same
  · exact Hex.lowerDigit_ne_nul _ (by omega) same.symm
  · exact Hex.lowerDigit_ne_nul _ (by omega) same.symm

def droppedFile (file : String × ByteArray) : Action :=
  { kind := "Dropped File Hash"
    value := Sha256.digest file.2
    description := "File Name: " ++ file.1 }

namespace Eval

def useFile : FileOperation → Eval Unit
  | .openFile name number => openFile name number
  | .write number value => writeFile number value
  | .close number => closeFile number

def useFiles : List FileOperation → Eval Unit
  | [] => pure ()
  | operation :: rest => do
      useFile operation
      useFiles rest

section

variable (environment : Environment) (state : State)

theorem closeFile_of_none {number : String} (notOpen : state.run.files.close? number = none) :
    closeFile number environment state = .ok () state := by
  unfold closeFile
  simp only [Running.run_bind, Running.run_get, notOpen]
  rfl

theorem closeFile_of_some {number name : String} {contents : ByteArray} {files : FileTable}
    (closed : state.run.files.close? number = some (name, contents, files)) :
    closeFile number environment state =
      .ok () ({ state with run.files := files }.reporting [droppedFile (name, contents)]) := by
  unfold closeFile
  simp only [Running.run_bind, Running.run_get, closed]
  exact report_eq (Sha256.not_mem_digest_nul contents) _ _ environment _

theorem closeFiles_eq (numbers : List String) :
    closeFiles numbers environment state =
      .ok () ({ state with run.files := (state.run.files.closeEach numbers).2 }.reporting
        ((state.run.files.closeEach numbers).1.map droppedFile)) := by
  induction numbers generalizing state with
  | nil =>
      simp [closeFiles, FileTable.closeEach, State.reporting]
  | cons number rest induction =>
      rw [closeFiles, Running.run_bind]
      cases closed : state.run.files.close? number with
      | none =>
          rw [closeFile_of_none environment state closed]
          simp only [FileTable.closeEach, closed]
          exact induction state
      | some result =>
          obtain ⟨name, contents, files⟩ := result
          rw [closeFile_of_some environment state closed]
          simp only [FileTable.closeEach, closed]
          rw [induction]
          simp [State.reporting, Option.map_map, Function.comp_def]

theorem closeAllFiles_eq :
    closeAllFiles environment state =
      .ok () ({ state with
        run.files := (state.run.files.closeEach state.run.files.openNames).2 }.reporting
        ((state.run.files.closeEach state.run.files.openNames).1.map droppedFile)) :=
  closeFiles_eq environment state _

theorem useFile_performs (operation : FileOperation) :
    ∃ after, useFile operation environment state = .ok () after ∧ after.heap = state.heap ∧
      after.run.files = state.run.files.perform state.heap operation := by
  cases operation with
  | openFile name number => exact ⟨_, rfl, rfl, rfl⟩
  | write number value => exact ⟨_, rfl, rfl, rfl⟩
  | close number =>
      cases closed : state.run.files.close? number with
      | none =>
          refine ⟨state, closeFile_of_none environment state closed, rfl, ?_⟩
          simp only [FileTable.perform, closed]
      | some result =>
          obtain ⟨name, contents, files⟩ := result
          refine ⟨_, closeFile_of_some environment state closed, rfl, ?_⟩
          simp only [FileTable.perform, closed]
          rfl

theorem files_after_useFiles (operations : List FileOperation) :
    ((useFiles operations).after environment state).run.files =
      state.run.files.performAll (operations.map fun operation => (state.heap, operation)) := by
  induction operations generalizing state with
  | nil => rfl
  | cons operation rest induction =>
      obtain ⟨next, used, sameHeap, files⟩ := useFile_performs environment state operation
      rw [useFiles, after_bind, used]
      refine (induction next).trans ?_
      rw [sameHeap, files]
      rfl

end

/-- What is left open when all files are closed. After any operations on files, closing all of them drops
open files with exactly what they held, reports each of these once, and leaves the others as they were.
It drops all files that are open, in the order of their names, if and only if all names are found, and then
no file is open any more. -/
theorem closeAllFiles_drops (environment : Environment) (state : State)
    (operations : List FileOperation) :
    let before := (useFiles operations).after environment { state with run.files := {} }
    let after := closeAllFiles.after environment before
    ∃ dropped : List (String × ByteArray),
      before.run.files.Drops dropped after.run.files ∧
      after.run.actions = before.run.actions ++ (dropped.map droppedFile).toArray ∧
      (dropped = before.run.files.opened.toList ↔
        ∀ name ∈ before.run.files.openNames, before.run.files.IsFound name) ∧
      (dropped = before.run.files.opened.toList → after.run.files.openNames = []) := by
  intro before after
  let files := before.run.files
  have numbers : ∀ number key : String, files.numbers[number]? = some key → key ∈ files.opened := by
    have agrees := FileTable.agrees_empty.performAll
      (operations.map fun operation => (state.heap, operation))
    simp only [files, before, files_after_useFiles]
    exact agrees.numbers
  have areOpen (name : String) : name ∈ files.opened ↔ name ∈ files.openNames :=
    Std.TreeMap.mem_keys.symm
  have ended : after =
      { before with run.files := (files.closeEach files.openNames).2 }.reporting
        ((files.closeEach files.openNames).1.map droppedFile) :=
    after_of_ok (closeAllFiles_eq environment before)
  have drops := files.drops_closeEach files.openNames
  refine ⟨(files.closeEach files.openNames).1, ?_, ?_, ?_, ?_⟩
  · rw [ended]
    exact drops
  · rw [ended]
    rfl
  · rw [drops.eq_toList_iff]
    exact FileTable.map_fst_closeEach_eq_iff Std.TreeMap.ordered_keys areOpen numbers
  · intro all
    rw [ended]
    rw [all] at drops
    exact drops.openNames_eq_nil

/-- A file whose name is a number in use is left open: the file behind the number is closed in its
place. -/
theorem closeAllFiles_leaves_open :
    let before := (useFiles [.openFile "a" (some "#1"), .openFile "1" none]).after {}
      (State.start {} none {} {})
    let after := closeAllFiles.after {} before
    before.run.files.openNames = ["1", "a"] ∧ after.run.files.openNames = ["1"] ∧
      after.run.files.closed.contains "1" = false ∧ after.run.actions.size = 1 := by
  decide +kernel

end Eval

end MacroSandbox
