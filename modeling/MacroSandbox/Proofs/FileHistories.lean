import Mathlib.Data.List.DropRight
import MacroSandbox.Files

/-! What an open file holds is what was written to it since it was opened last.

Numbers may be used again, several numbers may mean one file, and files may be opened anew, opened by a
write, or closed, under a number or under their names. Whatever becomes of other files meanwhile, the
history of one file decides what is in it. -/

namespace MacroSandbox

/-! ## Operations and what they do -/

inductive FileOperation
  | openFile (name : String) (number : Option String)
  | write (number : String) (value : Value)
  | close (number : String)

inductive FileEvent
  | opened
  | written (bytes : ByteArray)
  | closed

namespace FileTable

def perform (files : FileTable) (heap : Heap) : FileOperation → FileTable
  | .openFile name number => files.openFile name number
  | .write number value => files.write number (fileBytes heap value)
  | .close number =>
      match files.close? number with
      | some (_, _, after) => after
      | none => files

def performAll (files : FileTable) (operations : List (Heap × FileOperation)) : FileTable :=
  operations.foldl (fun files (heap, operation) => files.perform heap operation) files

def event (files : FileTable) (heap : Heap) : FileOperation → String × FileEvent
  | .openFile name _ => (fileKey name, .opened)
  | .write number value => (files.resolve number, .written (fileBytes heap value))
  | .close number => (files.resolve number, .closed)

def events (files : FileTable) : List (Heap × FileOperation) → List (String × FileEvent)
  | [] => []
  | (heap, operation) :: rest =>
      files.event heap operation :: (files.perform heap operation).events rest

end FileTable

/-! ## Histories of one file -/

namespace FileEvent

def bytes? : FileEvent → Option ByteArray
  | .written bytes => some bytes
  | .opened | .closed => none

def of (key : String) (events : List (String × FileEvent)) : List FileEvent :=
  (events.filter (·.1 = key)).map Prod.snd

def recentBytes (history : List FileEvent) : ByteArray :=
  ((history.rtakeWhile (·.bytes?.isSome)).filterMap bytes?).foldl (· ++ ·) ByteArray.empty

/-- What a file with a history holds if it is open. It is open unless nothing happened to it or it was
closed last. -/
def contents? (history : List FileEvent) : Option ByteArray :=
  match history.getLast? with
  | none | some .closed => none
  | some _ => some (recentBytes history)

theorem of_concat_self (key : String) (events : List (String × FileEvent)) (event : FileEvent) :
    of key (events ++ [(key, event)]) = of key events ++ [event] := by
  simp [of]

theorem of_concat_of_ne {key other : String} (different : other ≠ key)
    (events : List (String × FileEvent)) (event : FileEvent) :
    of key (events ++ [(other, event)]) = of key events := by
  simp [of, different]

theorem contents?_concat_opened (history : List FileEvent) :
    contents? (history ++ [.opened]) = some ByteArray.empty := by
  simp [contents?, recentBytes, bytes?]

theorem contents?_concat_closed (history : List FileEvent) :
    contents? (history ++ [.closed]) = none := by
  simp [contents?]

theorem recentBytes_concat_written (history : List FileEvent) (bytes : ByteArray) :
    recentBytes (history ++ [.written bytes]) = recentBytes history ++ bytes := by
  simp [recentBytes, bytes?]

theorem recentBytes_of_contents?_eq_none {history : List FileEvent}
    (notOpen : contents? history = none) : recentBytes history = ByteArray.empty := by
  induction history using List.reverseRecOn with
  | nil => rfl
  | append_singleton history last _ =>
      cases last with
      | opened => simp [contents?] at notOpen
      | written bytes => simp [contents?] at notOpen
      | closed => simp [recentBytes, bytes?]

theorem contents?_concat_written (history : List FileEvent) (bytes : ByteArray) :
    contents? (history ++ [.written bytes]) =
      some ((contents? history).getD ByteArray.empty ++ bytes) := by
  have ended : contents? (history ++ [.written bytes]) =
      some (recentBytes (history ++ [.written bytes])) := by
    simp [contents?]
  rw [ended, recentBytes_concat_written]
  cases held : contents? history with
  | none => rw [recentBytes_of_contents?_eq_none held, Option.getD_none]
  | some contents =>
      unfold contents? at held
      split at held
      · cases held
      · cases held
      · rw [← Option.some.inj held, Option.getD_some]

end FileEvent

namespace FileTable

variable {files : FileTable}

/-! ## Steps -/

theorem getElem?_opened_openFile (files : FileTable) (name other : String)
    (number : Option String) :
    (files.openFile name number).opened[other]? =
      if fileKey name = other then some ByteArray.empty else files.opened[other]? := by
  simp [openFile, Std.TreeMap.getElem?_insert]

theorem getElem?_opened_write (files : FileTable) (number other : String) (bytes : ByteArray) :
    (files.write number bytes).opened[other]? =
      if files.resolve number = other then
        some ((files.opened[other]?).getD ByteArray.empty ++ bytes)
      else files.opened[other]? := by
  simp only [write, Std.TreeMap.getElem?_alter, Std.LawfulEqCmp.compare_eq_iff_eq]
  split
  · rename_i same
    rw [same]
  · rfl

def without (files : FileTable) (name : String) (contents : ByteArray) : FileTable :=
  { opened := files.opened.erase name
    numbers := files.numbers.filter fun _ other => other != name
    closed := files.closed.insert name contents }

theorem getElem?_opened_without (files : FileTable) (name other : String) (contents : ByteArray) :
    (files.without name contents).opened[other]? =
      if name = other then none else files.opened[other]? := by
  simp [without, Std.TreeMap.getElem?_erase]

theorem getElem?_closed_without (files : FileTable) (name other : String) (contents : ByteArray) :
    (files.without name contents).closed[other]? =
      if name = other then some contents else files.closed[other]? := by
  simp [without, Std.TreeMap.getElem?_insert]

theorem getElem?_numbers_without (files : FileTable) (name number : String)
    (contents : ByteArray) :
    (files.without name contents).numbers[number]? =
      (files.numbers[number]?).filter (· != name) := by
  simp [without]

theorem mem_opened_without_iff {name other : String} {contents : ByteArray} :
    other ∈ (files.without name contents).opened ↔ name ≠ other ∧ other ∈ files.opened := by
  simp only [Std.TreeMap.mem_iff_isSome_getElem?, getElem?_opened_without]
  split <;> simp [*]

theorem mem_opened_of_numbers_without {name : String} {contents : ByteArray}
    (numbers : ∀ number key : String, files.numbers[number]? = some key → key ∈ files.opened)
    (number key : String) (means : (files.without name contents).numbers[number]? = some key) :
    key ∈ (files.without name contents).opened := by
  rw [getElem?_numbers_without] at means
  obtain ⟨meant, other⟩ := Option.filter_eq_some_iff.1 means
  refine mem_opened_without_iff.2 ⟨?_, numbers number key meant⟩
  rintro rfl
  simp at other

theorem close?_eq_none {number : String}
    (notOpen : files.opened[files.resolve number]? = none) : files.close? number = none := by
  simp only [close?, Std.TreeMap.get?_eq_getElem?, notOpen]

theorem close?_eq_some {number : String} {contents : ByteArray}
    (isOpen : files.opened[files.resolve number]? = some contents) :
    files.close? number =
      some (files.resolve number, contents, files.without (files.resolve number) contents) := by
  simp only [close?, Std.TreeMap.get?_eq_getElem?, isOpen, without]

theorem getElem?_opened_close (files : FileTable) (heap : Heap) (number other : String) :
    (files.perform heap (.close number)).opened[other]? =
      if files.resolve number = other then none else files.opened[other]? := by
  unfold perform
  cases held : files.opened[files.resolve number]? with
  | none =>
      simp only [close?_eq_none held]
      split
      · rename_i same
        rw [← same, held]
      · rfl
  | some contents =>
      simp only [close?_eq_some held, getElem?_opened_without]

/-! ## Whole histories -/

/-- Every number means a file that is open, and open files hold what was written to them last. -/
structure Agrees (files : FileTable) (events : List (String × FileEvent)) : Prop where
  numbers : ∀ number key : String, files.numbers[number]? = some key → key ∈ files.opened
  contents : ∀ key : String, files.opened[key]? = FileEvent.contents? (FileEvent.of key events)

theorem agrees_empty : ({} : FileTable).Agrees [] where
  numbers := by
    intro number key found
    simp at found
  contents := by
    intro key
    simp [FileEvent.of, FileEvent.contents?]

namespace Agrees

variable {events : List (String × FileEvent)}

theorem openFile (agrees : files.Agrees events) (name : String) (number : Option String) :
    (files.openFile name number).Agrees (events ++ [(fileKey name, .opened)]) where
  numbers := by
    have kept (key : String) (isOpen : key ∈ files.opened) :
        key ∈ (files.openFile name number).opened := by
      simp [FileTable.openFile, isOpen]
    intro found key means
    cases number with
    | none => exact kept key (agrees.numbers found key means)
    | some number =>
        simp only [FileTable.openFile, Std.TreeMap.getElem?_insert] at means
        split at means
        · cases means
          simp [FileTable.openFile]
        · exact kept key (agrees.numbers found key means)
  contents := by
    intro key
    rw [getElem?_opened_openFile]
    split
    · rename_i same
      rw [same, FileEvent.of_concat_self, FileEvent.contents?_concat_opened]
    · rename_i different
      rw [FileEvent.of_concat_of_ne different]
      exact agrees.contents key

theorem write (agrees : files.Agrees events) (number : String) (bytes : ByteArray) :
    (files.write number bytes).Agrees (events ++ [(files.resolve number, .written bytes)]) where
  numbers := by
    intro found key means
    have isOpen := agrees.numbers found key means
    rw [Std.TreeMap.mem_iff_isSome_getElem?] at isOpen ⊢
    rw [getElem?_opened_write]
    split
    · rfl
    · exact isOpen
  contents := by
    intro key
    rw [getElem?_opened_write]
    split
    · rename_i same
      rw [same, FileEvent.of_concat_self, FileEvent.contents?_concat_written, agrees.contents key]
    · rename_i different
      rw [FileEvent.of_concat_of_ne different]
      exact agrees.contents key

theorem close (agrees : files.Agrees events) (heap : Heap) (number : String) :
    (files.perform heap (.close number)).Agrees (events ++ [(files.resolve number, .closed)]) where
  numbers := by
    intro found key means
    unfold perform at means ⊢
    cases held : files.opened[files.resolve number]? with
    | none =>
        simp only [close?_eq_none held] at means ⊢
        exact agrees.numbers found key means
    | some contents =>
        simp only [close?_eq_some held] at means ⊢
        exact mem_opened_of_numbers_without agrees.numbers found key means
  contents := by
    intro key
    rw [getElem?_opened_close]
    split
    · rename_i same
      rw [same, FileEvent.of_concat_self, FileEvent.contents?_concat_closed]
    · rename_i different
      rw [FileEvent.of_concat_of_ne different]
      exact agrees.contents key

theorem perform (agrees : files.Agrees events) (heap : Heap) (operation : FileOperation) :
    (files.perform heap operation).Agrees (events ++ [files.event heap operation]) := by
  cases operation with
  | openFile name number => exact agrees.openFile name number
  | write number value => exact agrees.write number (fileBytes heap value)
  | close number => exact agrees.close heap number

theorem performAll (agrees : files.Agrees events) (operations : List (Heap × FileOperation)) :
    (files.performAll operations).Agrees (events ++ files.events operations) := by
  induction operations generalizing files events with
  | nil => simpa [FileTable.performAll, FileTable.events] using agrees
  | cons first rest induction =>
      have next := induction (agrees.perform first.1 first.2)
      rw [List.append_assoc] at next
      exact next

end Agrees

/-- Files are neither mixed up nor lost. Whatever operations are performed from the empty table on, every
number that is in use means an open file, an open file holds exactly what was written to it since it was
opened last, in this order, and closing a file gives back and keeps exactly this. -/
theorem keeps_writes (operations : List (Heap × FileOperation)) :
    let files := performAll {} operations
    let contents? (key : String) := FileEvent.contents? (FileEvent.of key (events {} operations))
    (∀ number key : String, files.numbers[number]? = some key → key ∈ files.opened) ∧
      (∀ key : String, files.opened[key]? = contents? key) ∧
      ∀ number,
        (contents? (files.resolve number) = none → files.close? number = none) ∧
        ∀ contents, contents? (files.resolve number) = some contents →
          ∃ after, files.close? number = some (files.resolve number, contents, after) ∧
            after.closed[files.resolve number]? = some contents := by
  have agrees := agrees_empty.performAll operations
  refine ⟨agrees.numbers, agrees.contents, fun number => ⟨?_, ?_⟩⟩
  · intro notOpen
    exact close?_eq_none ((agrees.contents _).trans notOpen)
  · intro contents isOpen
    refine ⟨_, close?_eq_some ((agrees.contents _).trans isOpen), ?_⟩
    rw [getElem?_closed_without, if_pos rfl]

end FileTable

end MacroSandbox
