import KeyPath.Json.Printer
import KeyPath.Proofs.Assoc
import KeyPath.Proofs.Json.Container
import KeyPath.Proofs.Json.Quoted
/-!
# Reading written trees

The compact and the pretty text of a tree differ in nothing but blanks, and both are read back as
the tree, as long as it has no numbers but integers of 64 bits and is not nested too deep.
-/

namespace KeyPath.Json

open Text

namespace Tree

theorem compactItems_eq_spread (items : List Tree) :
    compactItems items = spread [] compact items :=
  eq_spread (by simp [compactItems]) (fun _ => by simp [compactItems])
    (fun _ _ _ => by simp [compactItems]) items

theorem compactMembers_eq_spread (members : List (String × Tree)) :
    compactMembers members =
      spread [] (fun member => writeString member.1 ++ ':' :: member.2.compact) members :=
  eq_spread (by simp [compactMembers]) (fun _ => by simp [compactMembers])
    (fun _ _ _ => by simp [compactMembers]) members

private theorem prettyItems_eq_spread (level : Nat) (items : List Tree) :
    prettyItems level items = spread (newline level) (pretty level) items :=
  eq_spread (by simp [prettyItems]) (fun _ => by simp [prettyItems])
    (fun _ _ _ => by simp [prettyItems]) items

private theorem prettyMembers_eq_spread (level : Nat) (members : List (String × Tree)) :
    prettyMembers level members = spread (newline level)
      (fun member => writeString member.1 ++ ':' :: ' ' :: member.2.pretty level) members :=
  eq_spread (by simp [prettyMembers]) (fun _ => by simp [prettyMembers])
    (fun _ _ _ => by simp [prettyMembers]) members

private theorem isBlank_of_mem_newline {level : Nat} {c : Char} (h : c ∈ newline level) :
    isBlank c = true := by
  rcases List.mem_cons.mp h with rfl | h
  · rfl
  · rw [List.eq_of_mem_replicate h]
    rfl

theorem pretty_array {items : List Tree} (h : items ≠ []) (level : Nat) :
    pretty level (array items) = '[' :: (spread (newline (level + 1)) (pretty (level + 1)) items ++
      (newline level ++ [']'])) := by
  rw [pretty, prettyItems_eq_spread, List.append_assoc, List.cons_append]
  exact h

theorem pretty_object {members : List (String × Tree)} (h : members ≠ []) (level : Nat) :
    pretty level (object members) = '\x7b' :: (spread (newline (level + 1)) (fun member =>
      writeString member.1 ++ ':' :: ' ' :: member.2.pretty (level + 1)) members ++
        (newline level ++ ['\x7d'])) := by
  rw [pretty, prettyMembers_eq_spread, List.append_assoc, List.cons_append]
  exact h

end Tree

variable {readItem? : Option ValueReader} {readItem : ValueReader}

theorem readValue_eq (levels : Nat) :
    ∃ readItem? : Option ValueReader, readValue levels = readValueWith readItem? := by
  cases levels with
  | zero => exact ⟨none, rfl⟩
  | succ levels => exact ⟨some (readValue levels), rfl⟩

private theorem reads_readValue (levels : Nat) {text : List Char} {tree : Tree}
    (h : ∀ readItem?, Reads (readValueWith readItem?) text tree) :
    Reads (readValue levels) text tree := by
  obtain ⟨readItem?, hread⟩ := readValue_eq levels
  rw [hread]
  exact h readItem?

private theorem readValueWith_append {gap : List Char} (hg : ∀ c ∈ gap, isBlank c = true)
    (text : List Char) : readValueWith readItem? (gap ++ text) = readValueWith readItem? text := by
  rw [readValueWith, readValueWith, skipBlanks_append hg]

private theorem reads_null : Reads (readValueWith readItem?) ['n', 'u', 'l', 'l'] .null where
  starts := rfl
  read_append _ _ := rfl

private theorem reads_bool (b : Bool) :
    Reads (readValueWith readItem?) (writeBool b) (.bool b) where
  starts := by cases b <;> rfl
  read_append _ _ := by cases b <;> rfl

private theorem writeString_append (text : String) (rest : List Char) :
    writeString text ++ rest = '"' :: (text.toList.flatMap escape ++ '"' :: rest) := by
  simp [writeString]

private theorem reads_string (text : String) :
    Reads (readValueWith readItem?) (writeString text) (.string text) where
  starts := rfl
  read_append rest _ := by
    have hskip : ∀ text, skipBlanks ('"' :: text) = '"' :: text := fun _ => rfl
    rw [writeString_append, readValueWith, hskip]
    simp only [readString_flatMap_escape, String.ofList_toList]

section Number

variable {c : Char} (hc : c = '-' ∨ c.isDigit = true)
include hc

private theorem ne_of_startsNumber {d : Char} (hm : d ≠ '-') (hd : d.isDigit = false) : c ≠ d := by
  rintro rfl
  rcases hc with hc | hc
  · exact hm hc
  · rw [hd] at hc
    cases hc

private theorem startsEntry_of_startsNumber (rest : List Char) :
    startsEntry (c :: rest) = true := by
  have hne : ∀ d : Char, d ≠ '-' → d.isDigit = false → c ≠ d := fun _ => ne_of_startsNumber hc
  simp [startsEntry, isBlank, isClosing, hne]

private theorem readValueWith_of_startsNumber {n : Number} {text rest : List Char}
    (h : readNumber (c :: text) = .ok (n, rest)) :
    readValueWith readItem? (c :: text) = .ok (.number n, rest) := by
  have hskip := skipBlanks_of_startsEntry (startsEntry_of_startsNumber hc text) []
  rw [List.append_nil] at hskip
  have hne : ∀ d : Char, d ≠ '-' → d.isDigit = false → c ≠ d := fun _ => ne_of_startsNumber hc
  rw [readValueWith, hskip]
  split
  · next heq => cases heq
  · next heq => exact absurd (List.cons.inj heq).1 (hne 'n' (by decide) rfl)
  · next heq => exact absurd (List.cons.inj heq).1 (hne 't' (by decide) rfl)
  · next heq => exact absurd (List.cons.inj heq).1 (hne 'f' (by decide) rfl)
  · next heq => exact absurd (List.cons.inj heq).1 (hne '"' (by decide) rfl)
  · next heq => exact absurd (List.cons.inj heq).1 (hne '[' (by decide) rfl)
  · next heq => exact absurd (List.cons.inj heq).1 (hne '\x7b' (by decide) rfl)
  · next heq =>
    obtain ⟨rfl, rfl⟩ := List.cons.inj heq
    rw [if_pos hc, h]

end Number

private theorem reads_integer {n : Int} (h : IsExact n) :
    Reads (readValueWith readItem?) (Numeral.writeInt n) (.number (.integer n)) := by
  obtain ⟨c, digits, hw, hc⟩ := Numeral.head_writeInt n
  constructor
  · rw [hw]
    exact startsEntry_of_startsNumber hc digits
  · intro rest hr
    have hread := readNumber_writeInt h hr
    rw [hw, List.cons_append] at hread ⊢
    exact readValueWith_of_startsNumber hc hread

section Containers

variable {gap last : List Char} (hg : ∀ c ∈ gap, isBlank c = true)
  (hl : ∀ c ∈ last, isBlank c = true)
include hg hl

private theorem reads_array {write : Tree → List Char} {items : List Tree}
    (hr : ∀ item ∈ items, Reads readItem (write item) item) :
    Reads (readValueWith (some readItem)) ('[' :: (spread gap write items ++ (last ++ [']'])))
      (.array items) where
  starts := rfl
  read_append rest _ := by
    have hskip : ∀ text, skipBlanks ('[' :: text) = '[' :: text := fun _ => rfl
    have hread : Container.list.read readItem (spread gap write items ++ (last ++ ']' :: rest)) =
        .ok (items, rest) := Container.read_spread rfl hg hl hr rest
    rw [List.cons_append, List.append_assoc, List.append_assoc, List.singleton_append,
      readValueWith, hskip]
    simp only [hread]

private theorem reads_object {write : String × Tree → List Char} {members : List (String × Tree)}
    (hr : ∀ member ∈ members, Reads (readMember readItem) (write member) member) :
    Reads (readValueWith (some readItem))
      ('\x7b' :: (spread gap write members ++ (last ++ ['\x7d']))) (.object members) where
  starts := rfl
  read_append rest _ := by
    have hskip : ∀ text, skipBlanks ('\x7b' :: text) = '\x7b' :: text := fun _ => rfl
    have hread : Container.object.read (readMember readItem)
        (spread gap write members ++ (last ++ '\x7d' :: rest)) = .ok (members, rest) :=
      Container.read_spread rfl hg hl hr rest
    rw [List.cons_append, List.append_assoc, List.append_assoc, List.singleton_append,
      readValueWith, hskip]
    simp only [hread]

end Containers

private theorem reads_member {gap text : List Char} (hg : ∀ c ∈ gap, isBlank c = true)
    {levels : Nat} {name : String} {content : Tree} (hr : Reads (readValue levels) text content) :
    Reads (readMember (readValue levels)) (writeString name ++ ':' :: (gap ++ text))
      (name, content) where
  starts := rfl
  read_append rest hrest := by
    have hskip : ∀ text, skipBlanks (':' :: text) = ':' :: text := fun _ => rfl
    obtain ⟨readItem?, hread⟩ := readValue_eq levels
    have hcontent := hr.read_append rest hrest
    rw [hread, ← readValueWith_append hg, ← List.append_assoc] at hcontent
    rw [List.append_assoc, List.cons_append, writeString_append, readMember, hread]
    simp only [readString_flatMap_escape, hskip, hcontent, String.ofList_toList]

/-- The trees of values with no floating point numbers: integers are signed and of 64 bits, the
names of members ascend, and containers are nested at most a given number of times. -/
inductive Canonical : Nat → Tree → Prop where
  | null {levels : Nat} : Canonical levels .null
  | bool {levels : Nat} (b : Bool) : Canonical levels (.bool b)
  | integer {levels : Nat} (i : Int64) : Canonical levels (.number (.integer i.toInt))
  | string {levels : Nat} (text : String) : Canonical levels (.string text)
  | array {levels : Nat} {items : List Tree} :
      (∀ item ∈ items, Canonical levels item) → Canonical (levels + 1) (.array items)
  | object {levels : Nat} {members : List (String × Tree)} : Assoc.Ascending members →
      (∀ member ∈ members, Canonical levels member.2) → Canonical (levels + 1) (.object members)

private theorem isExact_toInt (i : Int64) : IsExact i.toInt := by
  have hlow := i.le_toInt
  have hhigh := i.toInt_lt
  have hpow : twoTo 63 = 9223372036854775808 := by decide
  have hpow' : twoTo 64 = 18446744073709551616 := by decide
  rw [IsExact, hpow, hpow']
  omega

namespace Canonical

variable {levels : Nat} {tree : Tree}

/-- Both texts of a tree are read back as the tree. -/
theorem reads_texts (h : Canonical levels tree) :
    Reads (readValue levels) tree.compact tree ∧
      ∀ level, Reads (readValue levels) (tree.pretty level) tree := by
  have hnil : ∀ c ∈ ([] : List Char), isBlank c = true := List.forall_mem_nil _
  have hspace : ∀ c ∈ [' '], isBlank c = true := List.forall_mem_singleton.mpr rfl
  have hnewline {level : Nat} : ∀ c ∈ Tree.newline level, isBlank c = true :=
    fun _ => Tree.isBlank_of_mem_newline
  -- By the nesting of the tree. A scalar has one text; the two texts of a container differ in the
  -- gaps around its entries.
  induction h with
  | @null levels =>
    have hread := reads_readValue levels fun _ => reads_null
    exact ⟨hread, fun _ => hread⟩
  | @bool levels b =>
    have hread := reads_readValue levels fun _ => reads_bool b
    exact ⟨hread, fun _ => hread⟩
  | @integer levels i =>
    have hread := reads_readValue levels fun _ => reads_integer (isExact_toInt i)
    exact ⟨hread, fun _ => hread⟩
  | @string levels text =>
    have hread := reads_readValue levels fun _ => reads_string text
    exact ⟨hread, fun _ => hread⟩
  | @array levels items _ ih =>
    constructor
    · rw [Tree.compact, Tree.compactItems_eq_spread]
      exact reads_array hnil hnil fun item hm => (ih item hm).1
    · intro level
      by_cases hitems : items = []
      · subst hitems
        have hitems : ∀ item ∈ [], Reads (readValue levels) item.compact item :=
          List.forall_mem_nil _
        rw [Tree.pretty]
        exact reads_array hnil hnil hitems
      · rw [Tree.pretty_array hitems]
        exact reads_array hnewline hnewline fun item hm => (ih item hm).2 (level + 1)
  | @object levels members _ _ ih =>
    constructor
    · rw [Tree.compact, Tree.compactMembers_eq_spread]
      exact reads_object hnil hnil fun member hm => reads_member hnil (ih member hm).1
    · intro level
      by_cases hmembers : members = []
      · subst hmembers
        have hmembers : ∀ member ∈ [],
            Reads (readMember (readValue levels)) (writeString member.1) member :=
          List.forall_mem_nil _
        rw [Tree.pretty]
        exact reads_object hnil hnil hmembers
      · rw [Tree.pretty_object hmembers]
        exact reads_object hnewline hnewline fun member hm =>
          reads_member hspace ((ih member hm).2 (level + 1))

end Canonical

theorem Tree.ofChars_append_of_reads {text gap : List Char} {tree : Tree}
    (h : Reads (readValue maxDepth) text tree) (hg : ∀ c ∈ gap, isBlank c = true) :
    Tree.ofChars (text ++ gap) = .ok tree := by
  have hnil : endsNumber [] = true := rfl
  have hend := endsNumber_append hg hnil
  have hskip := skipBlanks_append hg []
  rw [List.append_nil] at hend hskip
  rw [Tree.ofChars, h.read_append gap hend]
  simp only [hskip]
  rfl

theorem Tree.ofChars_of_reads {text : List Char} {tree : Tree}
    (h : Reads (readValue maxDepth) text tree) : Tree.ofChars text = .ok tree := by
  have hread := ofChars_append_of_reads h (List.forall_mem_nil _)
  rwa [List.append_nil] at hread

end KeyPath.Json
