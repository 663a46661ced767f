import KeyPath.Json.Reader
import Mathlib.Data.List.Basic
/-!
# Nesting of trees that are read

A reader opens containers inside each other at most a given number of times, so no tree that it
reads is nested any deeper.
-/

namespace KeyPath.Json

/-- Containers are nested in a tree at most a given number of times. -/
inductive Nested : Nat → Tree → Prop where
  | leaf {levels : Nat} {tree : Tree} : (∀ items, tree ≠ .array items) →
      (∀ members, tree ≠ .object members) → Nested levels tree
  | array {levels : Nat} {items : List Tree} :
      (∀ item ∈ items, Nested levels item) → Nested (levels + 1) (.array items)
  | object {levels : Nat} {members : List (String × Tree)} :
      (∀ member ∈ members, Nested levels member.2) → Nested (levels + 1) (.object members)

namespace Container

variable {ε : Type} {container : Container} {P : ε → Prop} {entries : List ε}
  {text rest : List Char} {readEntry : List Char → Except Fault (ε × List Char)}
  (hread : ∀ text entry rest, readEntry text = .ok (entry, rest) → P entry)
include hread

private theorem forall_mem_of_readEntries {bound : Nat}
    (h : container.readEntries readEntry bound text = .ok (entries, rest)) :
    ∀ entry ∈ entries, P entry := by
  induction bound generalizing text entries rest with
  | zero => cases h
  | succ bound ih =>
    rw [readEntries] at h
    split at h
    · cases h
    · next entry after hentry =>
      have hfirst : P entry := hread _ _ _ hentry
      split at h
      · cases h
      -- either the closing bracket follows, or a comma with at least one more entry
      · split at h
        · cases h
          exact List.forall_mem_singleton.mpr hfirst
        · split at h
          · split at h
            · cases h
            · split at h
              · cases h
              · split at h
                · next others after' hothers =>
                  have hmore : ∀ other ∈ others, P other := ih hothers
                  cases h
                  exact List.forall_mem_cons.mpr ⟨hfirst, hmore⟩
                · cases h
          · cases h

private theorem forall_mem_of_read (h : container.read readEntry text = .ok (entries, rest)) :
    ∀ entry ∈ entries, P entry := by
  rw [read] at h
  split at h
  · cases h
  · split at h
    · cases h
      exact List.forall_mem_nil _
    · exact forall_mem_of_readEntries hread h

end Container

variable {tree : Tree} {text rest : List Char}

private theorem eq_of_readLiteral {value : Tree} {letters : List Char}
    (h : readLiteral value letters text = .ok (tree, rest)) : tree = value := by
  induction letters generalizing text with
  | nil =>
    cases h
    rfl
  | cons letter letters ih =>
    cases text with
    | nil => cases h
    | cons c text =>
      rw [readLiteral] at h
      split at h
      · exact ih h
      · cases h

private theorem exists_of_readMember {readItem : ValueReader} {member : String × Tree}
    (h : readMember readItem text = .ok (member, rest)) :
    ∃ text' rest', readItem text' = .ok (member.2, rest') := by
  unfold readMember at h
  split at h
  · split at h
    · cases h
    · split at h
      · cases h
      · split at h
        · cases h
        · next hitem =>
          cases h
          exact ⟨_, _, hitem⟩
      · cases h
  · cases h

/-- What is read as a value. -/
inductive ReadAs (readItem? : Option ValueReader) (rest : List Char) : Tree → Prop where
  | leaf {tree : Tree} : (∀ items, tree ≠ .array items) → (∀ members, tree ≠ .object members) →
      ReadAs readItem? rest tree
  | array {readItem : ValueReader} {text : List Char} {items : List Tree} :
      readItem? = some readItem → Container.list.read readItem text = .ok (items, rest) →
      ReadAs readItem? rest (.array items)
  | object {readItem : ValueReader} {text : List Char} {members : List (String × Tree)} :
      readItem? = some readItem →
      Container.object.read (readMember readItem) text = .ok (members, rest) →
      ReadAs readItem? rest (.object members)

private theorem readAs_of_readValueWith {readItem? : Option ValueReader}
    (h : readValueWith readItem? text = .ok (tree, rest)) : ReadAs readItem? rest tree := by
  rw [readValueWith] at h
  -- the first character tells what the value is, and nothing but a bracket makes it a container
  split at h
  · cases h
  · rw [eq_of_readLiteral h]
    exact .leaf nofun nofun
  · rw [eq_of_readLiteral h]
    exact .leaf nofun nofun
  · rw [eq_of_readLiteral h]
    exact .leaf nofun nofun
  · split at h
    · cases h
      exact .leaf nofun nofun
    · cases h
  · split at h
    · cases h
    · split at h
      · next hitems =>
        cases h
        exact .array rfl hitems
      · cases h
  · split at h
    · cases h
    · split at h
      · next hmembers =>
        cases h
        exact .object rfl hmembers
      · cases h
  · split at h
    · split at h
      · cases h
        exact .leaf nofun nofun
      · cases h
    · cases h

/-- By the levels left: a reader of the values in a container has one level less. -/
private theorem nested_of_readValue {levels : Nat} (h : readValue levels text = .ok (tree, rest)) :
    Nested levels tree := by
  induction levels generalizing text tree rest with
  | zero =>
    cases readAs_of_readValueWith h with
    | leaf harray hobject => exact .leaf harray hobject
    | array hnone => cases hnone
    | object hnone => cases hnone
  | succ levels ih =>
    cases readAs_of_readValueWith h with
    | leaf harray hobject => exact .leaf harray hobject
    | array hsome hread =>
      cases hsome
      exact .array (Container.forall_mem_of_read (fun _ _ _ hitem => ih hitem) hread)
    | object hsome hread =>
      cases hsome
      refine .object (Container.forall_mem_of_read ?_ hread)
      intro text member rest hmember
      obtain ⟨_, _, hitem⟩ := exists_of_readMember hmember
      exact ih hitem

theorem Tree.nested_of_ofChars (h : Tree.ofChars text = .ok tree) : Nested maxDepth tree := by
  rw [Tree.ofChars] at h
  split at h
  · cases h
  · next hread =>
    have hnested := nested_of_readValue hread
    split at h
    · cases h
      exact hnested
    · cases h

end KeyPath.Json
