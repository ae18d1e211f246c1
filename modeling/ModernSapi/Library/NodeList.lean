import Mathlib.Data.List.Nodup
import Mathlib.Data.List.Basic

/-!
# Linked lists with node addresses

A doubly linked list keeps each of its values in a node of its own, and an iterator is
the address of a node. Moving a node to the front or adding nodes changes no address, so
an iterator stays valid until its node is removed. A `NodeList` lists the nodes in
order. Every new node gets an address that no node has had before, and no two nodes have
one address, so an iterator of a removed node reads nothing (`read`).

The lemmas say what each operation does to the values in order and to what an iterator
reads.
-/

set_option autoImplicit false

universe u

/-- One node of a linked list. -/
structure Node (α : Type u) where
  address : ℕ
  value : α
  deriving DecidableEq

/-- A linked list: its nodes in order, and the address of the node that is made next. -/
structure NodeList (α : Type u) where
  nodes : List (Node α)
  fresh : ℕ
  allocated : ∀ node ∈ nodes, node.address < fresh
  distinct : (nodes.map Node.address).Nodup

namespace NodeList

variable {α : Type u}

/-- The values in order. -/
def values (list : NodeList α) : List α := list.nodes.map Node.value

/-- The value an iterator points at, if its node is still in the list. -/
def read (list : NodeList α) (iterator : ℕ) : Option α :=
  (list.nodes.find? fun node => node.address == iterator).map Node.value

def empty : NodeList α where
  nodes := []
  fresh := 0
  allocated := by simp
  distinct := List.nodup_nil

/-- Removes every node. -/
def clear (list : NodeList α) : NodeList α where
  nodes := []
  fresh := list.fresh
  allocated := by simp
  distinct := List.nodup_nil

theorem fresh_not_mem (list : NodeList α) : list.fresh ∉ list.nodes.map Node.address := by
  intro member
  obtain ⟨node, inList, same⟩ := List.mem_map.mp member
  exact Nat.lt_irrefl _ (same ▸ list.allocated node inList)

/-- Adds a value in front; the iterator of its node is the old `fresh`. -/
def pushFront (list : NodeList α) (value : α) : NodeList α where
  nodes := ⟨list.fresh, value⟩ :: list.nodes
  fresh := list.fresh + 1
  allocated := by
    intro node member
    rcases List.mem_cons.mp member with rfl | inList
    · exact Nat.lt_succ_self _
    · exact Nat.lt_succ_of_lt (list.allocated node inList)
  distinct := List.nodup_cons.mpr ⟨list.fresh_not_mem, list.distinct⟩

/-- Adds a value at the back; the iterator of its node is the old `fresh`. -/
def pushBack (list : NodeList α) (value : α) : NodeList α where
  nodes := list.nodes ++ [⟨list.fresh, value⟩]
  fresh := list.fresh + 1
  allocated := by
    intro node member
    rcases List.mem_append.mp member with inList | here
    · exact Nat.lt_succ_of_lt (list.allocated node inList)
    · rw [List.mem_singleton.mp here]
      exact Nat.lt_succ_self _
  distinct := by
    rw [List.map_append, List.map_singleton]
    exact List.nodup_append.mpr ⟨list.distinct, List.nodup_singleton _, by
      intro address member other here same
      have newest : address = list.fresh := same.trans (List.mem_singleton.mp here)
      exact list.fresh_not_mem (newest ▸ member)⟩

/-- The value at the back. -/
def back (list : NodeList α) : Option α := list.values.getLast?

/-- Removes the node at the back. -/
def popBack (list : NodeList α) : NodeList α where
  nodes := list.nodes.dropLast
  fresh := list.fresh
  allocated node member := list.allocated node (List.dropLast_subset _ member)
  distinct := list.distinct.sublist ((List.dropLast_sublist _).map _)

/-- Moves a node to the front, where there is one at the iterator. -/
def moveToFront (list : NodeList α) (iterator : ℕ) : Option (NodeList α) :=
  match found : list.nodes.find? fun node => node.address == iterator with
  | none => none
  | some node =>
      some
        { nodes := node :: list.nodes.filter fun other => other.address != iterator
          fresh := list.fresh
          allocated := by
            intro other member
            rcases List.mem_cons.mp member with rfl | inRest
            · exact list.allocated _ (List.mem_of_find?_eq_some found)
            · exact list.allocated other (List.mem_of_mem_filter inRest)
          distinct := by
            have here : node.address = iterator := by
              simpa using List.find?_some found
            refine List.nodup_cons.mpr ⟨?_, list.distinct.sublist (List.filter_sublist.map _)⟩
            intro member
            obtain ⟨other, inRest, same⟩ := List.mem_map.mp member
            simp [same, here] at inRest }

variable {list moved : NodeList α} {iterator : ℕ} {value other : α}

/-! ## What iterators read -/

/-- An iterator reads the value of the node at its address. -/
theorem read_eq_some : list.read iterator = some value ↔ ⟨iterator, value⟩ ∈ list.nodes := by
  constructor
  · intro reads
    obtain ⟨node, found, rfl⟩ := Option.map_eq_some_iff.mp reads
    have here : node.address = iterator := by simpa using List.find?_some found
    subst here
    exact List.mem_of_find?_eq_some found
  · intro member
    cases found : list.nodes.find? fun node => node.address == iterator with
    | none => simpa using List.find?_eq_none.mp found _ member
    | some node =>
        have here : node.address = iterator := by simpa using List.find?_some found
        have same : node = ⟨iterator, value⟩ :=
          List.inj_on_of_nodup_map list.distinct (List.mem_of_find?_eq_some found) member here
        rw [read, found, same]
        rfl

theorem mem_values_of_read (reads : list.read iterator = some value) : value ∈ list.values :=
  List.mem_map_of_mem (read_eq_some.mp reads)

/-- In a list without repetitions only one iterator reads a value. -/
theorem read_injective (nodup : list.values.Nodup) {second : ℕ}
    (reads : list.read iterator = some value) (also : list.read second = some value) :
    iterator = second := by
  have same : (⟨iterator, value⟩ : Node α) = ⟨second, value⟩ :=
    List.inj_on_of_nodup_map nodup (read_eq_some.mp reads) (read_eq_some.mp also) rfl
  exact congrArg Node.address same

/-! ## Adding nodes -/

@[simp] theorem values_empty : (empty : NodeList α).values = [] := rfl

@[simp] theorem values_clear : list.clear.values = [] := rfl

@[simp] theorem values_pushFront : (list.pushFront value).values = value :: list.values := rfl

@[simp] theorem values_pushBack : (list.pushBack value).values = list.values ++ [value] := by
  simp [values, pushBack]

theorem read_pushFront_fresh : (list.pushFront value).read list.fresh = some value :=
  read_eq_some.mpr List.mem_cons_self

theorem read_pushFront (reads : list.read iterator = some other) :
    (list.pushFront value).read iterator = some other :=
  read_eq_some.mpr (List.mem_cons_of_mem _ (read_eq_some.mp reads))

theorem read_pushBack_fresh : (list.pushBack value).read list.fresh = some value :=
  read_eq_some.mpr (List.mem_append_right _ (List.mem_singleton.mpr rfl))

theorem read_pushBack (reads : list.read iterator = some other) :
    (list.pushBack value).read iterator = some other :=
  read_eq_some.mpr (List.mem_append_left _ (read_eq_some.mp reads))

/-! ## Removing the last node -/

@[simp] theorem values_popBack : list.popBack.values = list.values.dropLast := by
  simp [values, popBack, List.map_dropLast]

theorem back_eq_some_iff : list.back = some value ↔ ∃ before, list.values = before ++ [value] :=
  List.getLast?_eq_some_iff

/-- An iterator of another value stays valid. -/
theorem read_popBack (reads : list.read iterator = some value) (stays : list.back ≠ some value) :
    list.popBack.read iterator = some value := by
  have member := read_eq_some.mp reads
  have nonempty : list.nodes ≠ [] := List.ne_nil_of_mem member
  rw [← List.dropLast_append_getLast nonempty] at member
  rcases List.mem_append.mp member with inRest | last
  · exact read_eq_some.mpr inRest
  · refine absurd ?_ stays
    rw [back, values, List.getLast?_map, List.getLast?_eq_some_getLast nonempty,
      ← List.mem_singleton.mp last]
    rfl

/-! ## Moving a node to the front -/

/-- The move is possible exactly from a valid iterator. -/
theorem moveToFront_isSome_iff :
    (list.moveToFront iterator).isSome ↔ ∃ value, list.read iterator = some value := by
  unfold moveToFront read
  split
  · next found => simp [found]
  · next node found => simp [found]

theorem nodes_moveToFront (moves : list.moveToFront iterator = some moved) :
    ∃ value, list.read iterator = some value ∧
      moved.nodes = ⟨iterator, value⟩ :: list.nodes.filter fun node => node.address != iterator := by
  unfold moveToFront at moves
  split at moves
  · cases moves
  · next node found =>
      have here : node.address = iterator := by simpa using List.find?_some found
      refine ⟨node.value, by rw [read, found]; rfl, ?_⟩
      cases moves
      cases node
      cases here
      rfl

/-- Moving a node changes no iterator. -/
theorem read_moveToFront (moves : list.moveToFront iterator = some moved) {second : ℕ}
    (reads : list.read second = some other) : moved.read second = some other := by
  obtain ⟨value, readsFirst, nodes⟩ := nodes_moveToFront moves
  rw [read_eq_some, nodes]
  by_cases same : second = iterator
  · subst same
    have same : other = value := Option.some.inj (reads.symm.trans readsFirst)
    rw [same]
    exact List.mem_cons_self
  · refine List.mem_cons_of_mem _ (List.mem_filter.mpr ⟨read_eq_some.mp reads, ?_⟩)
    simpa using same

/-- In a list without repetitions the value moves to the front. -/
theorem values_moveToFront [DecidableEq α] (nodup : list.values.Nodup)
    (moves : list.moveToFront iterator = some moved) (reads : list.read iterator = some value) :
    moved.values = value :: list.values.erase value := by
  obtain ⟨first, readsFirst, nodes⟩ := nodes_moveToFront moves
  have same : first = value := Option.some.inj (readsFirst.symm.trans reads)
  subst same
  rw [values, nodes, List.map_cons, nodup.erase_eq_filter, values, List.filter_map]
  congr 2
  refine List.filter_congr ?_
  intro node member
  have apart : node.address = iterator ↔ node.value = first := by
    constructor
    · intro here
      have found : list.read iterator = some node.value := read_eq_some.mpr (here ▸ member)
      exact Option.some.inj (found.symm.trans reads)
    · intro here
      have found : list.read node.address = some first := read_eq_some.mpr (here ▸ member)
      exact read_injective nodup found reads
  simp only [Function.comp_apply, bne, beq_eq_decide, apart]

end NodeList
