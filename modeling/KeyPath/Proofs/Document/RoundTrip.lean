import KeyPath.Document.Basic
import KeyPath.Proofs.Document.Lazy
import KeyPath.Proofs.Json.Written
import KeyPath.Proofs.Value.Members
import KeyPath.Report
/-!
# Loading printed values

A value of JSON's own kinds is printed and loaded without a change. Any other value without finite
floating point numbers loses its symbols, its objects and the kinds of its keys when it is printed,
and nothing more from then on: what is loaded is printed as before.
-/

namespace KeyPath

open Assoc Json

private theorem map_eq_self {α : Type} {f : α → α} {entries : List α}
    (h : ∀ entry ∈ entries, f entry = entry) : entries.map f = entries :=
  (List.map_congr_left h).trans (List.map_id' entries)

namespace LoadOptions

variable (options : LoadOptions)

/-- Whether a key is of the kind that names become. -/
def isName : Key → Bool
  | .str _ => !options.symbolizeKeys
  | .sym _ => options.symbolizeKeys
  | _ => false

private theorem keyOfName_memberName {key : Key} (h : options.isName key = true) :
    options.keyOfName key.memberName = key := by
  cases key with
  | str text =>
    rw [isName, Bool.not_eq_true'] at h
    simp [keyOfName, Key.memberName, h]
  | sym name =>
    rw [isName] at h
    simp [keyOfName, Key.memberName, h]
  | _ => cases h

private theorem memberName_keyOfName (name : String) :
    (options.keyOfName name).memberName = name := by
  rw [keyOfName]
  split <;> rfl

private theorem compare_keyOfName (a b : String) :
    compare (options.keyOfName a) (options.keyOfName b) = compare a b := by
  rw [keyOfName, keyOfName]
  split <;> rfl

private theorem ascending_keyOfName {β γ : Type} {f : β → γ} {members : List (String × β)}
    (h : Ascending members) :
    Ascending (members.map fun member => (options.keyOfName member.1, f member.2)) := by
  refine List.pairwise_map.mpr (h.imp ?_)
  intro a b hlt
  rw [compare_keyOfName]
  exact hlt

private theorem ascending_memberName {β γ : Type} {f : β → γ} {entries : List (Key × β)}
    (h : Ascending entries) (hn : ∀ entry ∈ entries, options.isName entry.1 = true) :
    Ascending (entries.map fun entry => (entry.1.memberName, f entry.2)) := by
  refine List.pairwise_map.mpr (List.Pairwise.imp_of_mem ?_ h)
  intro a b ha hb hlt
  rw [← options.compare_keyOfName, options.keyOfName_memberName (hn a ha),
    options.keyOfName_memberName (hn b hb)]
  exact hlt

end LoadOptions

namespace Value

/-- Whether a value is of a kind that JSON has; the keys of hashes are those that names become. -/
def isJsonShaped (options : LoadOptions) : Value → Bool
  | nil | bool _ | int _ | str _ | array _ => true
  | hash entries => entries.all fun entry => options.isName entry.1
  | _ => false

end Value

theorem Json.Canonical.toJson_toValue (options : LoadOptions) {levels : Nat} {tree : Tree}
    (h : Canonical levels tree) : (tree.toValue options).toJson = tree := by
  induction h with
  | integer i =>
    rw [Tree.toValue, Number.toValue, Text.Numeral.toInt64?_toInt]
    rfl
  | @array levels items _ ih =>
    have hself : items.map (Value.toJson ∘ Tree.toValue options) = items := map_eq_self ih
    rw [Tree.toValue, Tree.toValueItems_eq_map, Value.toJson, Value.toJsonItems_eq_map,
      List.map_map, hself]
  | @object levels members hm _ ih =>
    have hself : (members.map fun member => ((options.keyOfName member.1).memberName,
        (member.2.toValue options).toJson)) = members := by
      refine map_eq_self ?_
      intro member hmem
      rw [options.memberName_keyOfName, ih member hmem]
    rw [Tree.toValue, Tree.toValueMembers_eq_map, ofList_eq_self (options.ascending_keyOfName hm),
      Value.toJson, Value.toJsonEntries_eq_map, List.map_map]
    change Tree.object (ofList (members.map fun member =>
      ((options.keyOfName member.1).memberName, (member.2.toValue options).toJson))) = _
    rw [hself, ofList_eq_self hm]
  | _ => rfl

namespace Value

private theorem canonical_asWritten_toJson {value : Value} {levels : Nat}
    (hd : value.depth ≤ levels) (hf : ∀ x, Inside (float x) value → x.isFinite = false) :
    Canonical levels value.toJson.asWritten := by
  induction value using Value.induction generalizing levels with
  | leaf value harray hhash =>
    cases value with
    | array items => exact absurd rfl (harray items)
    | hash entries => exact absurd rfl (hhash entries)
    | float x =>
      have hx := hf x .here
      rw [toJson, Tree.asWritten, if_neg (by simp [hx])]
      exact .null
    | nil =>
      rw [toJson, Tree.asWritten]
      exact .null
    | bool b =>
      rw [toJson, Tree.asWritten]
      exact .bool b
    | int i =>
      rw [toJson, Tree.asWritten]
      exact .integer i
    | _ =>
      rw [toJson, Tree.asWritten]
      exact .string _
  | array items ih =>
    rw [depth] at hd
    obtain ⟨levels, rfl⟩ := Nat.exists_eq_add_of_lt (Nat.lt_of_succ_le hd)
    rw [toJson, toJsonItems_eq_map, Tree.asWritten, List.map_map]
    refine .array fun tree hm => ?_
    obtain ⟨item, hi, rfl⟩ := List.mem_map.mp hm
    have hle := depth_le_depthItems hi
    exact ih item hi (by omega) fun x hx => hf x (.item hi hx)
  | hash entries ih =>
    rw [depth] at hd
    obtain ⟨levels, rfl⟩ := Nat.exists_eq_add_of_lt (Nat.lt_of_succ_le hd)
    rw [toJson, Tree.asWritten]
    refine .object ?_ fun member hm => ?_
    · exact List.pairwise_map.mpr (ascending_ofList _)
    -- Keys with one text leave one member, but each member comes from some entry.
    · obtain ⟨member, hmem, rfl⟩ := List.mem_map.mp hm
      have hentry := mem_of_mem_ofList hmem
      rw [toJsonEntries_eq_map] at hentry
      obtain ⟨entry, he, rfl⟩ := List.mem_map.mp hentry
      have hle := depth_le_depthEntries he
      exact ih entry he (by omega) fun x hx => hf x (.entry he hx)

theorem reads_toJson {value : Value} {levels : Nat} (hd : value.depth ≤ levels)
    (hf : ∀ x, Inside (float x) value → x.isFinite = false) :
    Reads (readValue levels) value.toJson.compact value.toJson.asWritten ∧
      Reads (readValue levels) (value.toJson.pretty 0) value.toJson.asWritten := by
  obtain ⟨hcompact, hpretty⟩ := (canonical_asWritten_toJson hd hf).reads_texts
  obtain ⟨hc, hp⟩ := Tree.texts_asWritten value.toJson
  have hpretty := hpretty 0
  rw [hc] at hcompact
  rw [hp 0] at hpretty
  exact ⟨hcompact, hpretty⟩

theorem toValue_asWritten_toJson {options : LoadOptions} (value : OrderedValue)
    (hs : value.value.everywhere (isJsonShaped options) = true) :
    value.value.toJson.asWritten.toValue options = value := by
  obtain ⟨value, ho⟩ := value
  change value.everywhere (isJsonShaped options) = true at hs
  change value.toJson.asWritten.toValue options = value
  induction value using Value.induction with
  | leaf value harray hhash =>
    cases value with
    | nil =>
      rw [toJson, Tree.asWritten]
      rfl
    | bool b =>
      rw [toJson, Tree.asWritten]
      rfl
    | int i =>
      rw [toJson, Tree.asWritten, Tree.toValue, Number.toValue, Text.Numeral.toInt64?_toInt]
    | str text =>
      rw [toJson, Tree.asWritten]
      rfl
    | array items => exact absurd rfl (harray items)
    | hash entries => exact absurd rfl (hhash entries)
    | _ => cases hs
  | array items ih =>
    rw [ordered, everywhere, Bool.and_eq_true] at ho
    rw [everywhere, Bool.and_eq_true] at hs
    have hself : items.map (fun item => item.toJson.asWritten.toValue options) = items := by
      refine map_eq_self ?_
      intro item hm
      exact ih item hm (everywhere_of_mem_items ho.2 hm) (everywhere_of_mem_items hs.2 hm)
    rw [toJson, toJsonItems_eq_map, Tree.asWritten, Tree.toValue, Tree.toValueItems_eq_map,
      List.map_map, List.map_map]
    exact congrArg array hself
  | hash entries ih =>
    rw [ordered, everywhere, Bool.and_eq_true] at ho
    rw [everywhere, Bool.and_eq_true, isJsonShaped, List.all_eq_true] at hs
    have hm : Ascending entries := of_decide_eq_true ho.1
    -- No two keys have one text here, so neither conversion drops or moves an entry.
    have hself : (entries.map fun entry => (options.keyOfName entry.1.memberName,
        entry.2.toJson.asWritten.toValue options)) = entries := by
      refine map_eq_self ?_
      intro entry he
      rw [options.keyOfName_memberName (hs.1 entry he), ih entry he
        (everywhere_of_mem_entries ho.2 he) (everywhere_of_mem_entries hs.2 he)]
    rw [toJson, toJsonEntries_eq_map, ofList_eq_self (options.ascending_memberName hm hs.1),
      Tree.asWritten, Tree.toValue, Tree.toValueMembers_eq_map, List.map_map, List.map_map]
    change hash (ofList (entries.map fun entry => (options.keyOfName entry.1.memberName,
      entry.2.toJson.asWritten.toValue options))) = _
    rw [hself, ofList_eq_self hm]

theorem isFinite_of_isJsonShaped {options : LoadOptions} {value : Value}
    (hs : value.everywhere (isJsonShaped options) = true) {x : Binary64}
    (hx : Inside (float x) value) : x.isFinite = false := by
  have hfloat := test_of_everywhere (hx.everywhere hs)
  cases hfloat

end Value

namespace Document

section

variable {options : LoadOptions} {value : Value} [Yaml.Wording]

private theorem ofText_of_reads {text : List Char} {tree : Tree}
    (h : Reads (readValue maxDepth) text tree) (source : String) :
    ofText .json options source (String.ofList text) = .ok ⟨tree.toValue options, source⟩ := by
  rw [ofText, parseText, String.toList_ofList, Tree.ofChars_of_reads h]

private theorem ofText_texts (options : LoadOptions) (hd : value.depth ≤ maxDepth)
    (hf : ∀ x, Inside (.float x) value → x.isFinite = false) (source : String) :
    ofText .json options source value.jsonText =
        .ok ⟨value.toJson.asWritten.toValue options, source⟩ ∧
      ofText .json options source value.prettyJsonText =
        .ok ⟨value.toJson.asWritten.toValue options, source⟩ := by
  obtain ⟨hcompact, hpretty⟩ := Value.reads_toJson hd hf
  exact ⟨ofText_of_reads hcompact source, ofText_of_reads hpretty source⟩

/-- Loading undoes printing. A value of JSON's own kinds, nested at most 127 deep, is loaded from
either of its texts as it was. Any value nested so deep without finite floating point numbers has
two texts that load as one value, and that value has the same two texts. -/
theorem ofText_jsonText :
    (∀ (options : LoadOptions) (value : OrderedValue),
      value.value.everywhere (Value.isJsonShaped options) = true → value.value.depth ≤ 127 →
        ofText .json options stringName value.value.jsonText = .ok ⟨value, stringName⟩ ∧
        ofText .json options stringName value.value.prettyJsonText = .ok ⟨value, stringName⟩) ∧
    ∀ (options : LoadOptions) (value : Value), value.depth ≤ 127 →
      (∀ x, Inside (.float x) value → x.isFinite = false) →
        ∃ root : Value,
          ofText .json options stringName value.jsonText = .ok ⟨root, stringName⟩ ∧
          ofText .json options stringName value.prettyJsonText = .ok ⟨root, stringName⟩ ∧
          root.jsonText = value.jsonText ∧ root.prettyJsonText = value.prettyJsonText := by
  constructor
  · intro options value hs hd
    have htexts := ofText_texts options hd (fun _ => Value.isFinite_of_isJsonShaped hs) stringName
    rw [Value.toValue_asWritten_toJson value hs] at htexts
    exact htexts
  · intro options value hd hf
    obtain ⟨hcompact, hpretty⟩ := ofText_texts options hd hf stringName
    obtain ⟨hc, hp⟩ := Tree.texts_asWritten value.toJson
    have hroot := (Value.canonical_asWritten_toJson hd hf).toJson_toValue options
    refine ⟨_, hcompact, hpretty, ?_, ?_⟩
    · rw [Value.jsonText, Value.jsonText, hroot, hc]
    · rw [Value.prettyJsonText, Value.prettyJsonText, hroot, hp]

end

/-- Control characters and the least integer survive, and so does what is left of keys with one
text, an object and NaN. -/
theorem ofText_jsonText_nested :
    let plain : Value := .hash [(.str "", .array []), (.str "a\"", .array [.int Int64.minValue,
      .bool true, .str "\x01\\é"])]
    let mixed : Value := .array [.hash [(.int 1, .nil), (.str "1", .sym "s"),
      (.sym "1", .wrapped 0 (.float (.zero false)))], .float .nan]
    ((∃ value : OrderedValue, value.value = plain) ∧
      plain.everywhere (Value.isJsonShaped ⟨false⟩) = true ∧ plain.depth ≤ 127 ∧
      ofText .json ⟨false⟩ stringName plain.prettyJsonText = .ok ⟨plain, stringName⟩) ∧
    mixed.depth ≤ 127 ∧ (∀ x, Inside (.float x) mixed → x.isFinite = false) ∧
      ∃ root : Value, ofText .json ⟨true⟩ stringName mixed.jsonText = .ok ⟨root, stringName⟩ ∧
        root.prettyJsonText = mixed.prettyJsonText := by
  intro plain mixed
  let ordered : OrderedValue := ⟨plain, by decide⟩
  have hs : plain.everywhere (Value.isJsonShaped ⟨false⟩) = true := by decide
  have hf : ∀ x, Inside (.float x) mixed → x.isFinite = false := by
    intro x hx
    have hx : Inside (.float x) (.array _) := hx
    cases hx with
    | item hm hi =>
      rcases List.mem_cons.mp hm with rfl | hm
      · cases hi with
        | entry he hc =>
          simp only [List.mem_cons, Prod.mk.injEq, List.not_mem_nil, or_false] at he
          rcases he with ⟨_, rfl⟩ | ⟨_, rfl⟩ | ⟨_, rfl⟩ <;> cases hc
      · cases List.mem_singleton.mp hm
        cases hi
        rfl
  obtain ⟨_, hpretty⟩ := ofText_jsonText.1 ⟨false⟩ ordered hs (by decide)
  obtain ⟨root, hcompact, _, _, htext⟩ := ofText_jsonText.2 ⟨true⟩ mixed (by decide) hf
  exact ⟨⟨⟨ordered, rfl⟩, hs, by decide, hpretty⟩, by decide, hf, root, hcompact, htext⟩

end Document

end KeyPath
