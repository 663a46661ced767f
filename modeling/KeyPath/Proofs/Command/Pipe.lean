import KeyPath.Proofs.Command.Events
import KeyPath.Proofs.Document.Reload
import KeyPath.Proofs.Lookup.Composition
import KeyPath.Proofs.Text.Utf8
/-!
# Runs in a row

A run that prints what it finds as JSON can be followed by a run that reads it. The two do what one
run with the keys of both does, as long as the document holds no numbers but integers of 64 bits and
the first run finds something.
-/

namespace KeyPath.Command

open Json

namespace Arguments

/-- The input is a text that is taken for JSON. -/
def ReadsJson (arguments : Arguments) (world : World) (text : String) : Prop :=
  arguments.documentFormat = .json ∧ arguments.content? world = some (.bytes text.toUTF8)

variable {arguments : Arguments} {world : World} {text : String}

theorem ReadsJson.namesFile (h : arguments.ReadsJson world text) :
    arguments.NamesFile world.files :=
  namesFile_of_content? h.2

variable [Yaml.Wording]

private theorem ReadsJson.parseText_eq (h : arguments.ReadsJson world text) {tree : Tree}
    (ht : Tree.ofChars text.toList = .ok tree) :
    Document.parseText arguments.documentFormat ⟨arguments.symbolizeKeys⟩ text =
      .ok (tree.toValue ⟨arguments.symbolizeKeys⟩) := by
  rw [h.1, Document.parseText, ht]

theorem ReadsJson.lookup_eq (h : arguments.ReadsJson world text) {tree : Tree}
    (ht : Tree.ofChars text.toList = .ok tree) :
    (arguments.lookup world).2 =
      (digDocument (tree.toValue ⟨arguments.symbolizeKeys⟩) arguments.keyPath).mapError .dig := by
  obtain ⟨source, content, hcontent, hload⟩ := load_eq_ofContent h.namesFile
  cases hcontent.symm.trans h.2
  have hparse : arguments.load world =
      .ok ⟨tree.toValue ⟨arguments.symbolizeKeys⟩, source⟩ := by
    rw [hload, Document.ofContent, Document.ofBytes, Text.fromUTF8?_toUTF8]
    simp only [Document.ofText, h.parseText_eq ht]
  exact lookup_result_of_ok hparse

private theorem ReadsJson.finds_iff (h : arguments.ReadsJson world text) {lookup : Lookup} :
    arguments.Finds world lookup ↔
      ∃ tree, Tree.ofChars text.toList = .ok tree ∧
        digDocument (tree.toValue ⟨arguments.symbolizeKeys⟩) arguments.keyPath = .ok lookup := by
  constructor
  · rintro ⟨bytes, text', root, hcontent, htext, hroot, hdig⟩
    cases hcontent.symm.trans h.2
    cases (Text.fromUTF8?_toUTF8 text).symm.trans htext
    rw [h.1, Document.parseText] at hroot
    cases ht : Tree.ofChars text.toList with
    | error fault =>
      rw [ht] at hroot
      cases hroot
    | ok tree =>
      rw [ht] at hroot
      cases hroot
      exact ⟨tree, rfl, hdig⟩
  · rintro ⟨tree, ht, hdig⟩
    exact ⟨_, text, _, h.2, Text.fromUTF8?_toUTF8 text, h.parseText_eq ht, hdig⟩

end Arguments

theorem digDocument_append {root value : Value} (ho : root.objectFree = true)
    {keys more : List Key} (hk : keys ≠ []) (hm : more ≠ [])
    (hd : digDocument root keys = .ok (.found value)) :
    Addresses root keys value ∧ digDocument root (keys ++ more) = digDocument value more := by
  obtain ⟨result, hw⟩ := exists_walk_eq_settled_of_objectFree ho keys
  have hresult : digDocument root keys = result := digWith_of_settled _ hk hw
  cases hresult.symm.trans hd
  constructor
  · cases (walk_eq_settled_iff hk).mp hw with
    | found ha hv => exact ha
  · exact dig_append_of_settled _ hk hm hw

/-- A run that finds something in a JSON document, and a run that reads what it prints, together do
what one run with the keys of both does in the document. -/
theorem respond_pipe [Yaml.Wording] {first second whole : Arguments} {source piped again : World}
    {text : String} {value : Value}
    (hfirst : first.keys ≠ []) (hsecond : second.keys ≠ [])
    (hwhole : whole.keys = first.keys ++ second.keys)
    (hs : second.symbolizeKeys = first.symbolizeKeys)
    (hw : whole.symbolizeKeys = first.symbolizeKeys) (hformat : first.format = .json)
    (hnumbers : ∀ tree, Tree.ofChars text.toList = .ok tree → tree.IsIntegral)
    (hsource : first.ReadsJson source text) (hagain : whole.ReadsJson again text)
    (hfinds : first.Finds source (.found value))
    (hpiped : second.ReadsJson piped (first.respond source).stdout) :
    ∃ result : DigResult,
      (second.lookup piped).2 = result.mapError .dig ∧
      (whole.lookup again).2 = result.mapError .dig ∧
      (second.format = whole.format → second.strict = whole.strict →
        (second.respond piped).exitCode = (whole.respond again).exitCode ∧
          (second.respond piped).stdout = (whole.respond again).stdout) := by
  obtain ⟨tree, ht, hd⟩ := hsource.finds_iff.mp hfinds
  have hfirst' : first.keyPath ≠ [] := mt List.map_eq_nil_iff.mp hfirst
  have hsecond' : second.keyPath ≠ [] := mt List.map_eq_nil_iff.mp hsecond
  have hpath : whole.keyPath = first.keyPath ++ second.keyPath := by
    rw [Arguments.keyPath, hwhole, List.map_append]
    rfl
  obtain ⟨haddresses, happend⟩ :=
    digDocument_append (Loaded.json tree).objectFree hfirst' hsecond' hd
  -- What the first run prints is read as the value that it finds.
  obtain ⟨part, hreads, hpart⟩ :=
    (hnumbers tree ht).exists_reads_part (Tree.nested_of_ofChars ht) haddresses
  have hstdout : (first.respond source).stdout = value.prettyJsonText ++ "\n" := by
    obtain ⟨log, hr⟩ := Arguments.respond_of_finds hfinds
    rw [hr, hformat]
    rfl
  have hblank : ∀ c ∈ "\n".toList, isBlank c = true := List.forall_mem_singleton.mpr rfl
  have hprinted : Tree.ofChars (first.respond source).stdout.toList = .ok part := by
    rw [hstdout, String.toList_append, Value.prettyJsonText, String.toList_ofList]
    exact Tree.ofChars_append_of_reads hreads hblank
  have hlookup : (second.lookup piped).2 =
      (digDocument value second.keyPath).mapError .dig := by
    rw [hpiped.lookup_eq hprinted, hs, hpart]
  have hlookup' : (whole.lookup again).2 = (digDocument value second.keyPath).mapError .dig := by
    rw [hagain.lookup_eq ht, hw, hpath, happend]
  refine ⟨_, hlookup, hlookup', ?_⟩
  exact Arguments.respond_congr hpiped.namesFile hagain.namesFile (hlookup.trans hlookup'.symm)

/-- A symbol key is printed bare and read as a symbol again. -/
theorem respond_pipe_symbols :
    let text := "\x7b\"a\":[\x7b\"\":null,\"b\":-7\x7d]\x7d"
    let first : Arguments := ⟨[":a", "0"], none, none, .json, true, false, 0, false⟩
    let second : Arguments := ⟨[":b"], none, none, .inspect, true, true, 0, false⟩
    let whole : Arguments := ⟨[":a", "0", ":b"], none, none, .inspect, true, true, 0, false⟩
    let source : World := ⟨fun _ => .missing, text.toUTF8, none⟩
    let piped : World := ⟨fun _ => .missing, (first.respond source).stdout.toUTF8, none⟩
    (first.Finds source (.found (.hash [(.sym "", .nil), (.sym "b", .int (-7))])) ∧
      ∀ tree, Tree.ofChars text.toList = .ok tree → tree.IsIntegral) ∧
    (second.lookup piped).2 = .ok (.found (.int (-7))) ∧
      (second.respond piped).stdout = (whole.respond source).stdout := by
  intro text first second whole source piped
  let tree : Tree :=
    .object [("a", .array [.object [("", .null), ("b", .number (.integer (-7)))]])]
  have hcanonical : Canonical maxDepth tree := by
    refine .object (by decide) (List.forall_mem_singleton.mpr ?_)
    refine .array (List.forall_mem_singleton.mpr ?_)
    refine .object (by decide) (List.forall_mem_cons.mpr ⟨.null, ?_⟩)
    exact List.forall_mem_singleton.mpr (.integer (-7))
  have htext : text.toList = tree.compact := by decide
  have ht : Tree.ofChars text.toList = .ok tree := by
    rw [htext]
    exact Tree.ofChars_of_reads hcanonical.reads_texts.1
  have hsource : first.ReadsJson source text := ⟨rfl, rfl⟩
  have hfinds : first.Finds source (.found (.hash [(.sym "", .nil), (.sym "b", .int (-7))])) :=
    hsource.finds_iff.mpr ⟨tree, ht, rfl⟩
  have hnumbers : ∀ tree, Tree.ofChars text.toList = .ok tree → tree.IsIntegral := by
    intro other ho n hn
    cases ht.symm.trans ho
    have hn : Json.Inside (.number n) (.object _) := hn
    cases hn with
    | member hm hn =>
      cases List.mem_singleton.mp hm
      cases hn with
      | item hm hn =>
        cases List.mem_singleton.mp hm
        cases hn with
        | member hm hn =>
          rcases List.mem_cons.mp hm with hm | hm
          · cases hm
            cases hn
          · cases List.mem_singleton.mp hm
            cases hn
            exact ⟨-7, rfl⟩
  have hwhole : whole.ReadsJson source text := ⟨rfl, rfl⟩
  have hpiped : second.ReadsJson piped (first.respond source).stdout := ⟨rfl, rfl⟩
  have hkeys : whole.keys = first.keys ++ second.keys := rfl
  obtain ⟨result, hlookup, hlookup', hrespond⟩ := respond_pipe (List.cons_ne_nil _ _)
    (List.cons_ne_nil _ _) hkeys rfl rfl rfl hnumbers hsource hwhole hfinds hpiped
  have hresult : (whole.lookup source).2 = .ok (.found (.int (-7))) := by
    rw [hwhole.lookup_eq ht]
    rfl
  exact ⟨⟨hfinds, hnumbers⟩, hlookup.trans (hlookup'.symm.trans hresult),
    (hrespond rfl rfl).2⟩

end KeyPath.Command
