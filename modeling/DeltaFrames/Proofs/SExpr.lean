import DeltaFrames.SExpr

/-!
# Reading S-expressions

A reader goes through a text once, from left to right. It collects the characters of an atom until
whitespace or a parenthesis ends it, opens a list at each opening parenthesis and puts it among the
items of the list around it at the closing one. An expression whose atoms are neither empty nor
contain such a character is recovered from its text (`SExpr.read_print`).
-/

namespace DeltaFrames.SExpr

def isPlain (c : Char) : Bool :=
  !c.isWhitespace && c != '(' && c != ')'

def IsAtom (text : String) : Prop :=
  text ≠ "" ∧ text.toList.all isPlain

instance (text : String) : Decidable (IsAtom text) :=
  inferInstanceAs (Decidable (_ ∧ _))

structure Reader where
  pending : List Char
  /-- The items read so far of the innermost open list. -/
  items : List SExpr
  /-- The items read so far of the lists around it, from the inside out. -/
  enclosing : List (List SExpr)

namespace Reader

def start : Reader := ⟨[], [], []⟩

def endAtom (reader : Reader) : Reader :=
  if reader.pending = [] then reader
  else
    { reader with
      pending := []
      items := reader.items ++ [.atom (String.ofList reader.pending)] }

def openList (reader : Reader) : Reader :=
  ⟨[], [], reader.items :: reader.enclosing⟩

def closeList (reader : Reader) : Option Reader :=
  match reader.enclosing with
  | [] => none
  | outer :: enclosing => some ⟨[], outer ++ [.list reader.items], enclosing⟩

def step (reader : Reader) (c : Char) : Option Reader :=
  if c = '(' then some reader.endAtom.openList
  else if c = ')' then reader.endAtom.closeList
  else if c.isWhitespace then some reader.endAtom
  else some { reader with pending := reader.pending ++ [c] }

def finish (reader : Reader) : Option (List SExpr) :=
  match reader.endAtom.enclosing with
  | [] => some reader.endAtom.items
  | _ :: _ => none

theorem step_plain (reader : Reader) {c : Char} (plain : isPlain c) :
    reader.step c = some { reader with pending := reader.pending ++ [c] } := by
  simp only [isPlain, Bool.and_eq_true, Bool.not_eq_true', bne_iff_ne] at plain
  obtain ⟨⟨solid, notOpening⟩, notClosing⟩ := plain
  simp [step, solid, notOpening, notClosing]

theorem foldlM_step_plain (reader : Reader) {text : List Char} (plain : text.all isPlain) :
    text.foldlM step reader = some { reader with pending := reader.pending ++ text } := by
  induction text generalizing reader with
  | nil => simp
  | cons c text ih =>
      rw [List.all_cons, Bool.and_eq_true] at plain
      simp [reader.step_plain plain.1, ih _ plain.2]

end Reader

def read (text : String) : Option SExpr := do
  match ← (← text.toList.foldlM Reader.step .start).finish with
  | [expression] => some expression
  | _ => none

/-- The text consists of the items, in whatever list it stands: they are complete once the last of
its atoms has been ended. -/
def Lists (text : String) (items : List SExpr) : Prop :=
  ∀ before enclosing, ∃ after : Reader,
    text.toList.foldlM Reader.step ⟨[], before, enclosing⟩ = some after ∧
      after.endAtom = ⟨[], before ++ items, enclosing⟩

theorem Lists.nil : Lists "" [] :=
  fun before enclosing => ⟨⟨[], before, enclosing⟩, by simp, by simp [Reader.endAtom]⟩

theorem Lists.atom {text : String} (valid : IsAtom text) : Lists text [.atom text] := by
  intro before enclosing
  refine ⟨_, Reader.foldlM_step_plain _ valid.2, ?_⟩
  simp [Reader.endAtom, valid.1]

theorem Lists.separated {first second : String} {items others : List SExpr}
    (one : Lists first items) (two : Lists second others) :
    Lists (first ++ " " ++ second) (items ++ others) := by
  intro before enclosing
  obtain ⟨between, reads, ended⟩ := one before enclosing
  obtain ⟨after, readsOn, complete⟩ := two (before ++ items) enclosing
  have space : between.step ' ' = some ⟨[], before ++ items, enclosing⟩ := by
    simp [Reader.step, ended, Char.isWhitespace]
  refine ⟨after, ?_, by simpa using complete⟩
  simp [List.foldlM_append, reads, space, readsOn]

theorem Lists.list {text : String} {items : List SExpr} (inner : Lists text items) :
    Lists ("(" ++ text ++ ")") [.list items] := by
  intro before enclosing
  obtain ⟨after, reads, ended⟩ := inner [] (before :: enclosing)
  have opening : Reader.step ⟨[], before, enclosing⟩ '(' = some ⟨[], [], before :: enclosing⟩ := rfl
  have closing : after.step ')' = some ⟨[], before ++ [.list items], enclosing⟩ := by
    simp [Reader.step, ended, Reader.closeList]
  refine ⟨⟨[], before ++ [.list items], enclosing⟩, ?_, by simp [Reader.endAtom]⟩
  simp [List.foldlM_append, opening, reads, closing]

theorem Lists.intercalate {items : List SExpr}
    (each : ∀ item ∈ items, Lists item.print [item]) :
    Lists (" ".intercalate (printEach items)) items := by
  induction items with
  | nil => exact .nil
  | cons item rest ih =>
      have ⟨first, others⟩ := List.forall_mem_cons.1 each
      cases rest with
      | nil => simpa [printEach] using first
      | cons next rest =>
          simpa [printEach, String.intercalate_cons_cons] using first.separated (ih others)

theorem Lists.read {text : String} {expression : SExpr} (single : Lists text [expression]) :
    read text = some expression := by
  obtain ⟨after, reads, ended⟩ := single [] []
  simp [SExpr.read, Reader.start, reads, Reader.finish, ended]

inductive WellFormed : SExpr → Prop where
  | atom {text : String} (valid : IsAtom text) : WellFormed (.atom text)
  | list {items : List SExpr} (each : ∀ item ∈ items, WellFormed item) : WellFormed (.list items)

@[simp] theorem wellFormed_atom {text : String} : (atom text).WellFormed ↔ IsAtom text :=
  ⟨fun | .atom valid => valid, .atom⟩

@[simp] theorem wellFormed_list {items : List SExpr} :
    (list items).WellFormed ↔ ∀ item ∈ items, item.WellFormed :=
  ⟨fun | .list each => each, .list⟩

theorem WellFormed.lists {expression : SExpr} (wellFormed : expression.WellFormed) :
    Lists expression.print [expression] := by
  induction wellFormed with
  | atom valid => exact .atom valid
  | list _ ih => exact (Lists.intercalate ih).list

theorem read_print {expression : SExpr} (wellFormed : expression.WellFormed) :
    read expression.print = some expression :=
  wellFormed.lists.read

end DeltaFrames.SExpr
