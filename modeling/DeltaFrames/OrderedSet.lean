/-!
# Sets in insertion order

A finite set that lists its elements in the order in which they came in. `toList` is the view
through which every operation is described:

* `toList_insert`: a new element goes to the end, one already present changes nothing;
* `toList_erase`: an element is taken out and the others keep their order;
* `mem_union`: a union holds what some member of the family holds.
-/

namespace DeltaFrames

structure OrderedSet (α : Type) where
  toList : List α
  nodup : toList.Nodup

namespace OrderedSet

variable {α : Type}

@[ext] theorem ext {s t : OrderedSet α} (h : s.toList = t.toList) : s = t := by
  cases s; cases t; simp_all

def empty : OrderedSet α := ⟨[], .nil⟩

instance : EmptyCollection (OrderedSet α) := ⟨empty⟩

instance : Inhabited (OrderedSet α) := ⟨empty⟩

instance : Membership α (OrderedSet α) := ⟨fun s a => a ∈ s.toList⟩

@[simp] theorem toList_empty : (∅ : OrderedSet α).toList = [] := rfl

@[simp] theorem mem_toList {s : OrderedSet α} {a : α} : a ∈ s.toList ↔ a ∈ s := Iff.rfl

@[simp] theorem not_mem_empty (a : α) : ¬ a ∈ (∅ : OrderedSet α) := by
  simp [← mem_toList]

def size (s : OrderedSet α) : Nat := s.toList.length

def isEmpty (s : OrderedSet α) : Bool := s.toList.isEmpty

section Updates

variable [DecidableEq α]

instance (s : OrderedSet α) (a : α) : Decidable (a ∈ s) :=
  inferInstanceAs (Decidable (a ∈ s.toList))

def contains (s : OrderedSet α) (a : α) : Bool := decide (a ∈ s)

def insert (s : OrderedSet α) (a : α) : OrderedSet α :=
  if h : a ∈ s.toList then s
  else ⟨s.toList ++ [a], by simp [List.nodup_append, s.nodup]; exact fun b hb e => h (e ▸ hb)⟩

def erase (s : OrderedSet α) (a : α) : OrderedSet α :=
  ⟨s.toList.erase a, s.nodup.erase a⟩

def ofList (elements : List α) : OrderedSet α :=
  elements.foldl insert ∅

def union (sets : List (OrderedSet α)) : OrderedSet α :=
  ofList (sets.flatMap toList)

theorem toList_insert (s : OrderedSet α) (a : α) :
    (s.insert a).toList = if a ∈ s then s.toList else s.toList ++ [a] := by
  unfold insert
  by_cases h : a ∈ s.toList
  · simp only [h, dite_true, mem_toList.1 h, if_true]
  · simp only [h, dite_false, mt mem_toList.2 h, if_false]

theorem toList_erase (s : OrderedSet α) (a : α) : (s.erase a).toList = s.toList.erase a := rfl

@[simp] theorem mem_insert {s : OrderedSet α} {a b : α} : b ∈ s.insert a ↔ b ∈ s ∨ b = a := by
  rw [← mem_toList, toList_insert]
  by_cases h : a ∈ s
  · simp only [h, if_true, mem_toList]
    exact ⟨.inl, fun either => either.elim id (· ▸ h)⟩
  · simp [h]

@[simp] theorem mem_erase {s : OrderedSet α} {a b : α} : b ∈ s.erase a ↔ b ∈ s ∧ b ≠ a := by
  rw [← mem_toList, toList_erase, s.nodup.mem_erase_iff, and_comm, mem_toList]

private theorem mem_foldl_insert (elements : List α) (s : OrderedSet α) (a : α) :
    a ∈ elements.foldl insert s ↔ a ∈ s ∨ a ∈ elements := by
  induction elements generalizing s with
  | nil => simp
  | cons head tail ih => simp [ih, or_assoc]

@[simp] theorem mem_ofList {elements : List α} {a : α} : a ∈ ofList elements ↔ a ∈ elements := by
  simp [ofList, mem_foldl_insert]

@[simp] theorem mem_union {sets : List (OrderedSet α)} {a : α} :
    a ∈ union sets ↔ ∃ s ∈ sets, a ∈ s := by
  simp [union]

theorem insert_of_mem {s : OrderedSet α} {a : α} (h : a ∈ s) : s.insert a = s :=
  ext (by simp [toList_insert, h])

theorem size_insert (s : OrderedSet α) (a : α) :
    (s.insert a).size = if a ∈ s then s.size else s.size + 1 := by
  unfold size
  rw [toList_insert]
  split <;> simp

theorem size_erase_of_mem {s : OrderedSet α} {a : α} (h : a ∈ s) :
    (s.erase a).size = s.size - 1 := by
  simp [size, toList_erase, List.length_erase_of_mem (mem_toList.2 h)]

end Updates

end OrderedSet
end DeltaFrames
