import KeyPath.Proofs.Json.Part
import KeyPath.Proofs.Json.Reading
/-!
# What a text shows of a tree

Infinities and NaN have no text of their own. The text of a tree is that of the tree in which they
are replaced by null.
-/

namespace KeyPath.Json.Tree

/-- The tree that the text of a tree shows: infinities and NaN are written like null. -/
def asWritten : Tree → Tree
  | null => null
  | bool b => bool b
  | number (.integer n) => number (.integer n)
  | number (.float x) => if x.isFinite then number (.float x) else null
  | string text => string text
  | array items => array (items.map asWritten)
  | object members => object (members.map fun member => (member.1, member.2.asWritten))
decreasing_by
  · exact sizeOf_lt_array ‹_›
  · exact sizeOf_lt_object ‹_›

private theorem writeNumber_of_not_isFinite {x : Binary64} (h : ¬x.isFinite = true) :
    writeNumber (.float x) = ['n', 'u', 'l', 'l'] := by
  cases x with
  | nan => rfl
  | infinite negative => cases negative <;> rfl
  | finite => exact absurd rfl h

private theorem spread_map {ε : Type} {gap : List Char} {write : ε → List Char} {f : ε → ε}
    {entries : List ε} (h : ∀ entry ∈ entries, write (f entry) = write entry) :
    spread gap write (entries.map f) = spread gap write entries := by
  cases entries with
  | nil => rfl
  | cons entry entries =>
    have hrest : ∀ other ∈ entries, ',' :: gap ++ write (f other) = ',' :: gap ++ write other := by
      intro other hm
      rw [h other (List.mem_cons_of_mem _ hm)]
    rw [List.map_cons, spread, spread, List.flatMap_map, h entry List.mem_cons_self,
      List.flatMap_congr hrest]

theorem texts_asWritten (tree : Tree) :
    tree.asWritten.compact = tree.compact ∧
      ∀ level, tree.asWritten.pretty level = tree.pretty level := by
  induction tree using Tree.induction with
  | leaf tree harray hobject =>
    cases tree with
    | array items => exact absurd rfl (harray items)
    | object members => exact absurd rfl (hobject members)
    | number n =>
      cases n with
      | integer n =>
        rw [asWritten]
        exact ⟨rfl, fun _ => rfl⟩
      | float x =>
        rw [asWritten]
        split
        · exact ⟨rfl, fun _ => rfl⟩
        · next hx =>
          have htext := (writeNumber_of_not_isFinite hx).symm
          exact ⟨htext, fun _ => htext⟩
    | _ =>
      rw [asWritten]
      exact ⟨rfl, fun _ => rfl⟩
  | array items ih =>
    rw [asWritten]
    constructor
    · have hcompact : ∀ item ∈ items, item.asWritten.compact = item.compact :=
        fun item hm => (ih item hm).1
      rw [compact, compact, compactItems_eq_spread, compactItems_eq_spread, spread_map hcompact]
    · intro level
      have hpretty : ∀ item ∈ items,
          item.asWritten.pretty (level + 1) = item.pretty (level + 1) :=
        fun item hm => (ih item hm).2 (level + 1)
      by_cases hitems : items = []
      · rw [hitems]
        rfl
      · rw [pretty_array (mt List.map_eq_nil_iff.mp hitems), pretty_array hitems,
          spread_map hpretty]
  | object members ih =>
    rw [asWritten]
    constructor
    · have hcompact : ∀ member ∈ members,
          writeString member.1 ++ ':' :: member.2.asWritten.compact =
            writeString member.1 ++ ':' :: member.2.compact := by
        intro member hm
        rw [(ih member hm).1]
      rw [compact, compact, compactMembers_eq_spread, compactMembers_eq_spread,
        spread_map hcompact]
    · intro level
      have hpretty : ∀ member ∈ members,
          writeString member.1 ++ ':' :: ' ' :: member.2.asWritten.pretty (level + 1) =
            writeString member.1 ++ ':' :: ' ' :: member.2.pretty (level + 1) := by
        intro member hm
        rw [(ih member hm).2]
      by_cases hmembers : members = []
      · rw [hmembers]
        rfl
      · rw [pretty_object (mt List.map_eq_nil_iff.mp hmembers), pretty_object hmembers,
          spread_map hpretty]

end KeyPath.Json.Tree
