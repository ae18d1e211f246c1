import Mathlib.Data.List.Infix

/-!
# Trees of keys

A key tree gives each path the value of its key, or none. A key exists only with the keys above
it. Keys are created with those above them, changed where they are, and removed with those below
them. The three frame lemmas say which subtrees an operation leaves alone: those that are not
above the path of the operation and, for a removal, not below it either.
-/

set_option autoImplicit false

namespace KeyTrees

universe u v

structure KeyTree (κ : Type u) (ν : Type v) where
  key : List κ → Option ν
  /-- The key above a key exists. -/
  rooted : ∀ path segment, (key (path ++ [segment])).isSome = true → (key path).isSome = true

namespace KeyTree

variable {κ : Type u} {ν : Type v}

/-- The keys at a path and below it. -/
def subtree (tree : KeyTree κ ν) (path : List κ) : List κ → Option ν :=
  fun rest => tree.key (path ++ rest)

def empty : KeyTree κ ν where
  key _ := none
  rooted := by
    intro path segment exists_
    cases exists_

/-- The value of the key at the path is changed, if there is one. -/
def update [DecidableEq κ] (tree : KeyTree κ ν) (path : List κ) (change : ν → ν) :
    KeyTree κ ν where
  key other := if other = path then (tree.key other).map change else tree.key other
  rooted := by
    intro other segment exists_
    have before : (tree.key (other ++ [segment])).isSome = true := by
      split at exists_
      · rwa [Option.isSome_map] at exists_
      · exact exists_
    have above := tree.rooted other segment before
    split
    · rwa [Option.isSome_map]
    · exact above

/-- The key at the path and those above it are created where they are missing. -/
def create [DecidableEq κ] (tree : KeyTree κ ν) (blank : ν) (path : List κ) : KeyTree κ ν where
  key other := if other <+: path then some ((tree.key other).getD blank) else tree.key other
  rooted := by
    intro other segment exists_
    split
    · rfl
    · next outside =>
        have longer : ¬other ++ [segment] <+: path := fun above =>
          outside ((List.prefix_append other [segment]).trans above)
        rw [if_neg longer] at exists_
        exact tree.rooted other segment exists_

/-- The key at the path is removed with all keys below it. -/
def removeTree [DecidableEq κ] (tree : KeyTree κ ν) (path : List κ) : KeyTree κ ν where
  key other := if path <+: other then none else tree.key other
  rooted := by
    intro other segment exists_
    split at exists_
    · cases exists_
    · next outside =>
        have shorter : ¬path <+: other := fun above =>
          outside (above.trans (List.prefix_append other [segment]))
        rw [if_neg shorter]
        exact tree.rooted other segment exists_

/-- A key exists with all keys above it. -/
theorem isSome_of_prefix (tree : KeyTree κ ν) {above path : List κ} (within : above <+: path)
    (exists_ : (tree.key path).isSome = true) : (tree.key above).isSome = true := by
  induction path using List.reverseRecOn with
  | nil =>
      rw [List.prefix_nil.mp within]
      exact exists_
  | append_singleton path segment ih =>
      rcases List.prefix_concat_iff.mp within with rfl | shorter
      · exact exists_
      · exact ih shorter (tree.rooted path segment exists_)

variable [DecidableEq κ] {tree : KeyTree κ ν} {path changed : List κ}

theorem subtree_update (change : ν → ν) (apart : ¬path <+: changed) :
    (tree.update changed change).subtree path = tree.subtree path := by
  funext rest
  have other : path ++ rest ≠ changed := by
    rintro rfl
    exact apart (List.prefix_append path rest)
  exact if_neg other

theorem subtree_create (blank : ν) (apart : ¬path <+: changed) :
    (tree.create blank changed).subtree path = tree.subtree path := by
  funext rest
  have other : ¬path ++ rest <+: changed := fun above =>
    apart ((List.prefix_append path rest).trans above)
  exact if_neg other

theorem subtree_removeTree (apart : ¬path <+: changed) (apart' : ¬changed <+: path) :
    (tree.removeTree changed).subtree path = tree.subtree path := by
  funext rest
  have other : ¬changed <+: path ++ rest := by
    intro above
    rcases List.prefix_or_prefix_of_prefix above (List.prefix_append path rest) with h | h
    · exact apart' h
    · exact apart h
  exact if_neg other

theorem isSome_update (change : ν → ν) (other : List κ) :
    ((tree.update path change).key other).isSome = (tree.key other).isSome := by
  by_cases same : other = path
  · have changed : (tree.update path change).key other = (tree.key other).map change := if_pos same
    rw [changed, Option.isSome_map]
  · have kept : (tree.update path change).key other = tree.key other := if_neg same
    rw [kept]

theorem isSome_create (blank : ν) {above : List κ} (within : above <+: path) :
    ((tree.create blank path).key above).isSome = true := by
  have created : (tree.create blank path).key above = some ((tree.key above).getD blank) :=
    if_pos within
  rw [created]
  rfl

theorem isSome_create_of_isSome (blank : ν) {other : List κ}
    (exists_ : (tree.key other).isSome = true) :
    ((tree.create blank path).key other).isSome = true := by
  by_cases within : other <+: path
  · exact isSome_create blank within
  · have kept : (tree.create blank path).key other = tree.key other := if_neg within
    rw [kept]
    exact exists_

theorem key_removeTree {other : List κ} (within : path <+: other) :
    (tree.removeTree path).key other = none := if_pos within

theorem key_removeTree_of_none {other : List κ} (missing : tree.key other = none) :
    (tree.removeTree path).key other = none := by
  by_cases within : path <+: other
  · exact key_removeTree within
  · have kept : (tree.removeTree path).key other = tree.key other := if_neg within
    rw [kept]
    exact missing

end KeyTree

end KeyTrees
