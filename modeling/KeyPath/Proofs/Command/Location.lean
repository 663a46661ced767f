import KeyPath.Command.Run
import KeyPath.Proofs.Document.Loaded
import KeyPath.Proofs.Key.Typed
import KeyPath.Proofs.Lookup.Outcome
/-!
# Locations on the command line

Keys of hashes and positions of arrays lead to every part of a document. Typed behind two dashes
they are the key path to that part. Only the symbol without a name cannot be typed, and what lies
behind it cannot be named.
-/

namespace KeyPath

/-- A step from a container to one of its parts. -/
inductive Step where
  | entry (key : Key)
  | item (position : Nat)
  deriving DecidableEq, Repr

/-- The key that takes a step. -/
def Step.key : Step → Key
  | entry key => key
  | item position => .int (Int64.ofNat position)

/-- Steps lead from a value through entries of hashes and positions of arrays to a value. -/
inductive Leads : Value → List Step → Value → Prop where
  | here {value : Value} : Leads value [] value
  | entry {value content : Value} {key : Key} {entries : List (Key × Value)}
      {steps : List Step} :
      (key, content) ∈ entries → Leads content steps value →
      Leads (.hash entries) (.entry key :: steps) value
  | item {value content : Value} {position : Nat} {items : List Value} {steps : List Step} :
      items[position]? = some content → Leads content steps value →
      Leads (.array items) (.item position :: steps) value

/-- No array in a value is too long for a key to name each of its positions. -/
def Value.IsIndexable (root : Value) : Prop :=
  ∀ items, Inside (.array items) root → items.length ≤ Int64.maxValue.toInt

variable {root value : Value} {steps : List Step}

theorem Leads.addresses (h : Leads root steps value) (ho : root.ordered = true)
    (hr : root.IsIndexable) : Addresses root (steps.map Step.key) value := by
  induction h with
  | here => exact .here
  | @entry value content key entries steps hm _ ih =>
    rw [Value.ordered, Value.everywhere, Bool.and_eq_true] at ho
    have hl : entries.lookup key = some content :=
      (Assoc.lookup_eq_some_iff (of_decide_eq_true ho.1)).mpr hm
    have hrest := ih (Value.everywhere_of_mem_entries ho.2 hm)
      fun items hi => hr items (.entry hm hi)
    exact .step (.hash hl) hrest
  | @item value content position items steps hp _ ih =>
    rw [Value.ordered, Value.everywhere, Bool.and_eq_true] at ho
    have hm := List.mem_of_getElem? hp
    have hlt : position < items.length := (List.getElem?_eq_some_iff.mp hp).1
    have hlength := hr items .here
    have hindex : (Int64.ofNat position).toInt = position := by
      apply Int64.toInt_ofNat_of_lt
      have hmax : Int64.maxValue.toInt = 2 ^ 63 - 1 := rfl
      omega
    have hrest := ih (Value.everywhere_of_mem_items ho.2 hm)
      fun others hi => hr others (.item hm hi)
    exact .step (.array hp (Or.inl hindex)) hrest

namespace Command

namespace Reading

variable {s : Reading}

/-- The reading with further keys behind those read so far. -/
def withKeys (s : Reading) (keys : List String) : Reading :=
  { s with arguments := { s.arguments with keys := s.arguments.keys ++ keys } }

private theorem withKeys_withKeys (s : Reading) (keys more : List String) :
    (s.withKeys keys).withKeys more = s.withKeys (keys ++ more) := by
  simp [withKeys]

theorem addKey_of_pending (hp : s.pending = none) (word : List Char) :
    s.addKey word = .ok (s.withKeys [String.ofList word]) := by
  have hsettle : s.settle = .ok s := by rw [settle, hp]
  rw [addKey, hsettle]
  rfl

theorem run_of_forall_addKey {words : List (List Char)} (hp : s.pending = none)
    (hw : ∀ word ∈ words, ∀ t : Reading, t.pending = none → t.onlyKeys = s.onlyKeys →
      t.step word = t.addKey word) :
    s.run words = .ok (s.withKeys (words.map String.ofList)) := by
  -- By the words: each of them leaves the reading as ready for keys as it was.
  induction words generalizing s with
  | nil => simp [run, withKeys]
  | cons word rest ih =>
    have hstep : s.step word = s.addKey word := hw word List.mem_cons_self s hp rfl
    have hrest : (s.withKeys [String.ofList word]).run rest =
        .ok ((s.withKeys [String.ofList word]).withKeys (rest.map String.ofList)) :=
      ih hp fun other hm => hw other (List.mem_cons_of_mem _ hm)
    rw [withKeys_withKeys] at hrest
    simp only [run, hstep, addKey_of_pending hp]
    exact hrest

theorem run_of_onlyKeys (ho : s.onlyKeys = true) (hp : s.pending = none)
    (words : List (List Char)) : s.run words = .ok (s.withKeys (words.map String.ofList)) :=
  run_of_forall_addKey hp fun _ _ _ _ ht => if_pos (ht.trans ho)

theorem finish_withKeys_start (onlyKeys : Bool) {texts : List String} (h : texts ≠ []) :
    (withKeys { start with onlyKeys := onlyKeys } texts).finish =
      .ok { Arguments.default with keys := texts } := by
  have hempty : texts.isEmpty = false := by simpa using h
  change (if texts.isEmpty then Except.error UsageError.missingKeys else Except.ok _) = _
  rw [hempty]
  rfl

end Reading

theorem Arguments.parse_dashes {texts : List String} (h : texts ≠ []) :
    parse ("--" :: texts) = .ok { Arguments.default with keys := texts } := by
  have hdashes : Reading.start.step "--".toList = .ok { Reading.start with onlyKeys := true } :=
    rfl
  have hrun : Reading.run { Reading.start with onlyKeys := true } (texts.map String.toList) =
      .ok (Reading.withKeys { Reading.start with onlyKeys := true } texts) := by
    rw [Reading.run_of_onlyKeys rfl rfl]
    simp
  simp only [parse, List.map_cons, Reading.run, hdashes, hrun]
  exact Reading.finish_withKeys_start true h

/-- Every key but the symbol without a name can be typed. So the command line can name every part
of a document that is not nil, unless that symbol is on the way to it. -/
theorem exists_words_of_leads :
    (∀ key : Key, (∃ text, Key.parse text = key) ↔ key ≠ .sym "") ∧
    ∀ (options : LoadOptions) (root : Value), Loaded options root → root.IsIndexable →
      ∀ (steps : List Step) (value : Value), Leads root steps value → steps ≠ [] →
        value ≠ .nil →
        ((∀ step ∈ steps, step.key ≠ .sym "") →
          ∃ texts arguments, Arguments.parse ("--" :: texts) = .ok arguments ∧
            arguments.keyPath = steps.map Step.key ∧
            digDocument root arguments.keyPath = .ok (.found value)) ∧
        ((∃ step ∈ steps, step.key = .sym "") →
          ∀ texts : List String, texts.map Key.parse ≠ steps.map Step.key) := by
  refine ⟨fun _ => Key.exists_parse_eq_iff, ?_⟩
  intro options root hloaded hindexable steps value hleads hsteps hvalue
  constructor
  · intro hkeys
    let texts := steps.map fun step => step.key.typed
    have htexts : texts ≠ [] := by simpa [texts] using hsteps
    have hpath : texts.map Key.parse = steps.map Step.key := by
      rw [List.map_map]
      exact List.map_congr_left fun step hm => Key.parse_typed (hkeys step hm)
    have haddresses := hleads.addresses hloaded.ordered hindexable
    have hwalk := (Outcome.found haddresses hvalue).walk_eq
    have hdig : digDocument root (steps.map Step.key) = .ok (.found value) :=
      digWith_of_settled _ (by simpa using hsteps) hwalk
    refine ⟨texts, _, Arguments.parse_dashes htexts, hpath, ?_⟩
    rw [Arguments.keyPath, hpath, hdig]
  · rintro ⟨step, hm, hsym⟩ texts hpath
    have hkey : Key.sym "" ∈ texts.map Key.parse := by
      rw [hpath, ← hsym]
      exact List.mem_map_of_mem hm
    obtain ⟨text, _, htext⟩ := List.mem_map.mp hkey
    exact Key.parse_ne_empty_symbol text htext

/-- A string that reads like a literal is typed between quotes. What stands under an empty name is
out of reach once names are symbols. -/
theorem exists_words_of_leads_empty_name :
    let tree : Json.Tree := .object [("", .bool true), ("nil", .array [.null, .string "deep"])]
    let root (symbolizeKeys : Bool) : Value := tree.toValue ⟨symbolizeKeys⟩
    (∀ symbolizeKeys, Loaded ⟨symbolizeKeys⟩ (root symbolizeKeys) ∧
      (root symbolizeKeys).IsIndexable) ∧
    Leads (root false) [.entry (.str "nil"), .item 1] (.str "deep") ∧
    (∃ texts arguments, Arguments.parse ("--" :: texts) = .ok arguments ∧
      arguments.keyPath = [.str "nil", .int 1] ∧
      digDocument (root false) arguments.keyPath = .ok (.found (.str "deep"))) ∧
    Leads (root true) [.entry (.sym "")] (.bool true) ∧
    ∀ texts : List String, texts.map Key.parse ≠ [.sym ""] := by
  intro tree root
  have hloaded : ∀ b, Loaded ⟨b⟩ (root b) := fun _ => .json tree
  have hroot : ∀ b, root b = .hash [(LoadOptions.keyOfName ⟨b⟩ "", .bool true),
      (LoadOptions.keyOfName ⟨b⟩ "nil", .array [.nil, .str "deep"])] := by
    intro b
    cases b <;> rfl
  have hindexable : ∀ b, (root b).IsIndexable := by
    intro b items hi
    rw [hroot] at hi
    cases hi with
    | entry he hi =>
      rcases List.mem_cons.mp he with he | he
      · cases he
        cases hi
      · cases List.mem_singleton.mp he
        cases hi with
        | here => decide
        | item hm hi =>
          rcases List.mem_cons.mp hm with rfl | hm
          · cases hi
          · cases List.mem_singleton.mp hm
            cases hi
  have hdeep : Leads (root false) [.entry (.str "nil"), .item 1] (.str "deep") := by
    rw [hroot]
    exact .entry (List.mem_cons_of_mem _ (List.mem_singleton.mpr rfl)) (.item rfl .here)
  have hempty : Leads (root true) [.entry (.sym "")] (.bool true) := by
    rw [hroot]
    exact .entry List.mem_cons_self .here
  obtain ⟨_, hall⟩ := exists_words_of_leads
  have hfound := (hall ⟨false⟩ _ (hloaded false) (hindexable false) _ _ hdeep
    (List.cons_ne_nil _ _) nofun).1 (by decide)
  have hnone := (hall ⟨true⟩ _ (hloaded true) (hindexable true) _ _ hempty
    (List.cons_ne_nil _ _) nofun).2 ⟨_, List.mem_singleton.mpr rfl, rfl⟩
  exact ⟨fun b => ⟨hloaded b, hindexable b⟩, hdeep, hfound, hempty, hnone⟩

end Command

end KeyPath
