import Mathlib.Logic.Basic
import MacroSandbox.Proofs.Mentions

/-! Which names a part reads, and which of them it calls.

A call of a name reads the name as a callee and goes on with the arguments, so the variable that stands
there is passed over. Main statement: `reads_every_variable`, by which no variable is missed. -/

namespace MacroSandbox

@[simp] theorem Reads.vars_append (left right : Reads) :
    (left ++ right).vars = left.vars ++ right.vars :=
  rfl

@[simp] theorem Reads.callees_append (left right : Reads) :
    (left ++ right).callees = left.callees ++ right.callees :=
  rfl

/-! ## Questions about what is read -/

/-- A question about gathered names that is answered by one of them: two gatherings have an answer if
one of them has, and a name that answers it as a variable also does as a callee. -/
structure Reads.IsQuestion (answers : Reads → Prop) : Prop where
  nothing : ¬ answers {}
  append (left right : Reads) : answers (left ++ right) ↔ answers left ∨ answers right
  called (key : String) : answers { vars := [key] } → answers { callees := [key] }

theorem Reads.isQuestion_callee (key : String) : IsQuestion fun reads => key ∈ reads.callees where
  nothing := by simp
  append left right := by simp
  called other := by simp

theorem Reads.isQuestion_name (key : String) :
    IsQuestion fun reads => key ∈ reads.vars ∨ key ∈ reads.callees where
  nothing := by simp
  append left right := by
    simp only [vars_append, callees_append, List.mem_append]
    exact or_or_or_comm
  called other := by simp

/-! ## What a node reads -/

theorem Node.reads_eq (node : Node) :
    node.reads = node.ownReads ++ Reads.join (node.readingChildren.map reads) := by
  rw [reads, List.map_subtype fun _ _ => rfl, List.unattach_attach]

section Questions

variable {answers : Reads → Prop} (question : Reads.IsQuestion answers)
include question

theorem Reads.IsQuestion.callee_or_var (key : String) :
    answers { callees := [key] } ∨ answers { vars := [key] } ↔ answers { callees := [key] } :=
  or_iff_left_of_imp (question.called key)

theorem Reads.IsQuestion.answers_join (parts : List Reads) :
    answers (join parts) ↔ ∃ part ∈ parts, answers part := by
  induction parts with
  | nil => simp [join, question.nothing]
  | cons part rest induction =>
      rw [join, List.foldr_cons, question.append]
      simpa [join] using or_congr_right induction

theorem Node.answers_reads_of_reading (node : Node) :
    answers node.reads ↔
      answers node.ownReads ∨ ∃ child ∈ node.readingChildren, answers child.reads := by
  rw [reads_eq, question.append, question.answers_join]
  simp

theorem Node.answers_reads (node : Node) :
    answers node.reads ↔ answers node.ownReads ∨ ∃ child ∈ node.children, answers child.reads := by
  -- A name that is called is a child too, which would read it as a variable.
  have ofName (name : String) :
      answers (expr (.var name)).reads ↔ answers { vars := [Text.asciiLower name] } := by
    rw [answers_reads_of_reading question]
    simp [ownReads, readingChildren, children, ofExpr]
  rw [answers_reads_of_reading question]
  unfold readingChildren
  split
  · simp only [ownReads, children, ofExpr, List.mem_cons, exists_eq_or_imp, ofName]
    rw [← or_assoc, question.callee_or_var]
  · simp only [ownReads, children, ofStatement, List.mem_singleton, exists_eq_left, ofName,
      List.not_mem_nil, false_and, exists_false, or_false]
    rw [question.callee_or_var]
  · rfl

theorem Node.answers_reads_iff (node : Node) :
    answers node.reads ↔ ∃ inner, node.Contains inner ∧ answers inner.ownReads :=
  found_iff (answers_reads question) node

end Questions

/-! ## Names -/

namespace Node

variable {node : Node} {key : String}

theorem mem_vars_ownReads_iff :
    key ∈ node.ownReads.vars ↔ ∃ name, node = .expr (.var name) ∧ Text.asciiLower name = key := by
  unfold ownReads
  split <;> simp_all [eq_comm]

theorem mem_callees_ownReads_iff :
    key ∈ node.ownReads.callees ↔ ∃ name, Text.asciiLower name = key ∧
      ((∃ arguments, node = .expr (.call (.var name) arguments)) ∨
        node = .statement (.call (.var name))) := by
  unfold ownReads
  split <;> simp_all [eq_comm]

theorem mem_callees_reads_iff :
    key ∈ node.reads.callees ↔ ∃ name, Text.asciiLower name = key ∧
      ((∃ arguments, node.Contains (.expr (.call (.var name) arguments))) ∨
        node.Contains (.statement (.call (.var name)))) := by
  rw [node.answers_reads_iff (Reads.isQuestion_callee key)]
  constructor
  · rintro ⟨inner, contains, own⟩
    obtain ⟨name, same, ⟨arguments, rfl⟩ | rfl⟩ := mem_callees_ownReads_iff.1 own
    · exact ⟨name, same, .inl ⟨arguments, contains⟩⟩
    · exact ⟨name, same, .inr contains⟩
  · rintro ⟨name, same, ⟨arguments, contains⟩ | contains⟩
    · exact ⟨_, contains, mem_callees_ownReads_iff.2 ⟨name, same, .inl ⟨arguments, rfl⟩⟩⟩
    · exact ⟨_, contains, mem_callees_ownReads_iff.2 ⟨name, same, .inr rfl⟩⟩

theorem mem_reads_iff :
    key ∈ node.reads.vars ∨ key ∈ node.reads.callees ↔
      ∃ name, node.Contains (.expr (.var name)) ∧ Text.asciiLower name = key := by
  rw [node.answers_reads_iff (Reads.isQuestion_name key)]
  constructor
  · rintro ⟨inner, contains, own | own⟩
    · obtain ⟨name, rfl, same⟩ := mem_vars_ownReads_iff.1 own
      exact ⟨name, contains, same⟩
    · obtain ⟨name, same, ⟨arguments, rfl⟩ | rfl⟩ := mem_callees_ownReads_iff.1 own
      · exact ⟨name, contains.part .callee, same⟩
      · exact ⟨name, contains.part .called, same⟩
  · rintro ⟨name, contains, same⟩
    exact ⟨_, contains, .inl (mem_vars_ownReads_iff.2 ⟨name, rfl, same⟩)⟩

theorem mem_mentions_iff_mem_reads :
    key ∈ node.mentions ↔ key ∈ node.reads.vars ∨ key ∈ node.reads.callees :=
  mem_mentions_iff_contains.trans mem_reads_iff.symm

/-- The names that a part reads or calls are the names that it mentions, which are those of the
variables in it; it calls those that stand as the callee of a call or as a statement of their own. -/
theorem reads_every_variable (node : Node) (key : String) :
    (key ∈ node.reads.vars ∨ key ∈ node.reads.callees ↔ key ∈ node.mentions) ∧
      (key ∈ node.mentions ↔
        ∃ name, node.Contains (.expr (.var name)) ∧ Text.asciiLower name = key) ∧
      (key ∈ node.reads.callees ↔ ∃ name, Text.asciiLower name = key ∧
        ((∃ arguments, node.Contains (.expr (.call (.var name) arguments))) ∨
          node.Contains (.statement (.call (.var name))))) :=
  ⟨mem_mentions_iff_mem_reads.symm, mem_mentions_iff_contains, mem_callees_reads_iff⟩

end Node

end MacroSandbox
