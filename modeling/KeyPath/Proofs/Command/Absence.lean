import KeyPath.Proofs.Command.Ending
import KeyPath.Proofs.Document.Loaded
import KeyPath.Proofs.Lookup.Answers
import KeyPath.Proofs.Text.Utf8
/-!
# Nil is never found

No nil is found unless a custom object answers with one. Documents hold no objects at all, so that
a run never finds nil, and a run that has to find something fails where its keys come to a stored
nil.
-/

namespace KeyPath.Command

variable {arguments : Arguments} {world : World}

private theorem not_delegates_of_loaded {options : LoadOptions} {root : Value}
    (h : Loaded options root)
    {keys rest : List Key} {ref : ObjectRef} : ¬ Delegates root keys ref rest :=
  not_delegates_of_objectFree h.objectFree

private theorem Arguments.not_finds_nil [Yaml.Wording] : ¬ arguments.Finds world (.found .nil) := by
  rintro ⟨bytes, text, root, _, _, hroot, hdig⟩
  have hnone : ∀ ref rest, ¬ Delegates root arguments.keyPath ref rest :=
    fun _ _ => not_delegates_of_loaded (Loaded.of_parseText hroot)
  obtain ⟨result, hne, hpure⟩ := exists_dig_eq_pure_of_not_delegates hnone
  have hresult : digDocument root arguments.keyPath = result := hpure _
  exact hne (hresult.symm.trans hdig)

private theorem Arguments.finds_absent_of_through [Yaml.Wording] {document : Document}
    {before rest : List Key} {key : Key} {container : Value}
    (hload : arguments.load world = .ok document)
    (hpath : arguments.keyPath = before ++ key :: rest)
    (ht : Through document.root before container) (he : Entry container key .nil) :
    arguments.Finds world .absent := by
  have hdig : digDocument document.root arguments.keyPath = .ok .absent := by
    rw [hpath]
    exact ht.dig_eq_absent _ he rest
  exact Arguments.finds_of_load_eq_ok hload hdig

/-- A nil that is found is the answer of a custom object to the keys that it receives at the end of
a chain of wrapped values. Without custom objects, and so in documents, no nil is found, and keys
that come to a stored nil find nothing; a run that has to find something then fails. -/
theorem exists_delegates_of_found_nil [Yaml.Wording] :
    (∀ {σ : Type} (respond : ObjectRef → List Key → StateM σ DigResult) (root : Value)
      (keys : List Key) (before after : σ),
      (dig respond root keys).run before = (.ok (.found .nil), after) →
        ∃ ref rest, Delegates root keys ref rest ∧ rest ≠ [] ∧ rest <:+ keys ∧
          (respond ref rest).run before = (.ok (.found .nil), after)) ∧
    (∀ root, root.customFree = true ∨ (∃ options, Loaded options root) →
      ∀ keys, ∃ result, result ≠ .ok (.found .nil) ∧
        ∀ {m : Type → Type} [Monad m] (respond : ObjectRef → List Key → m DigResult),
          dig respond root keys = pure result) ∧
    (∀ root before container key, Through root before container → Entry container key .nil →
      ∀ rest, ∀ {m : Type → Type} [Monad m] (respond : ObjectRef → List Key → m DigResult),
        dig respond root (before ++ key :: rest) = pure (.ok .absent)) ∧
    ∀ (arguments : Arguments) (world : World), ¬ arguments.Finds world (.found .nil) ∧
      ∀ document before container key rest, arguments.load world = .ok document →
        arguments.keyPath = before ++ key :: rest → Through document.root before container →
        Entry container key .nil → arguments.strict = true →
          arguments.EndsWith (arguments.respond world) .pathNotFound := by
  refine ⟨?_, ?_, ?_, ?_⟩
  · intro σ respond root keys before after hrun
    rcases exists_delegates_or_dig_eq_pure root keys with ⟨ref, rest, hd⟩ | ⟨result, hne, hpure⟩
    · obtain ⟨hrest, hsuffix⟩ := hd.suffix
      rw [hd.dig_eq respond] at hrun
      exact ⟨ref, rest, hd, hrest, hsuffix, hrun⟩
    · rw [hpure respond] at hrun
      have hresult : (result, before) = (.ok (.found .nil), after) := hrun
      exact absurd (Prod.mk.inj hresult).1 hne
  · intro root hroot keys
    apply exists_dig_eq_pure_of_not_delegates
    intro ref rest
    rcases hroot with hfree | ⟨options, hloaded⟩
    · exact not_delegates_of_customFree hfree
    · exact not_delegates_of_loaded hloaded
  · intro root before container key ht he rest m _ respond
    exact ht.dig_eq_absent respond he rest
  · intro arguments world
    refine ⟨Arguments.not_finds_nil, ?_⟩
    intro document before container key rest hload hpath ht he hstrict
    have hfinds := Arguments.finds_absent_of_through hload hpath ht he
    exact Arguments.endsWith_of_leadsTo ⟨hfinds, hstrict⟩

/-- An object behind a wrapper answers nil. A nil stored behind a wrapper is absent, and so is one
that the keys run through in a document. -/
theorem exists_delegates_of_found_nil_behind_wrapper :
    let spy : ObjectRef := ⟨0, "Spy"⟩
    let respond : ObjectRef → List Key → StateM Nat DigResult :=
      fun _ _ => do modify (· + 1); pure (.ok (.found .nil))
    let root := Value.array [.wrapped 0 (.hash [(.sym "a", .custom spy)])]
    let keys := [.int 0, .sym "a", .int 7]
    let other := Value.array [.wrapped 1 (.hash [(.sym "a", .nil)])]
    let arguments : Arguments := ⟨["-1", "b"], none, none, .json, false, true, 0, false⟩
    let text := "[null]"
    let world : World := ⟨fun _ => .missing, text.toUTF8, none⟩
    (dig respond root keys).run 0 = (.ok (.found .nil), 1) ∧
      (∃ ref rest, Delegates root keys ref rest ∧
        (respond ref rest).run 0 = (.ok (.found .nil), 1)) ∧
      other.customFree = true ∧
      (∃ result, result ≠ .ok (.found .nil) ∧ dig respond other [.int 0] = pure result) ∧
      Through other [.int 0] (.hash [(.sym "a", .nil)]) ∧
      dig respond other [.int 0, .sym "a", .int 7] = pure (.ok .absent) ∧
      arguments.load world = .ok ⟨.array [.nil], Document.stdinName⟩ ∧
      arguments.EndsWith (arguments.respond world) .pathNotFound := by
  intro spy respond root keys other arguments text world
  obtain ⟨hanswered, hnever, habsent, hstrict⟩ := exists_delegates_of_found_nil
  have hwrapper : MeetsObject root keys 1 (.wrapped 0 (.hash [(.sym "a", .custom spy)])) :=
    ⟨by decide, .step (@Entry.array _ _ 0 _ rfl (Or.inl rfl)) .here⟩
  have hspy : MeetsObject (.hash [(.sym "a", .custom spy)]) (keys.drop 1) 1 (.custom spy) :=
    ⟨by decide, .step (.hash (by simp [Object.toValue])) .here⟩
  have hrun : (dig respond root keys).run 0 = (.ok (.found .nil), 1) := by
    rw [(Delegates.wrapped hwrapper (.custom hspy)).dig_eq respond]
    rfl
  obtain ⟨ref, rest, hd, _, _, hanswer⟩ := hanswered respond root keys 0 1 hrun
  have hnil : Entry (.hash [(.sym "a", .nil)]) (.sym "a") .nil := .hash (by simp)
  have hother : Through other [.int 0] (.hash [(.sym "a", .nil)]) :=
    .step (@Entry.array _ _ 0 _ rfl (Or.inl rfl)) (.enter .here)
  have hbytes : arguments.load world =
      Document.ofBytes .json ⟨false⟩ Document.stdinName text.toUTF8 := rfl
  have hparse : Document.parseText .json ⟨false⟩ text = .ok (.array [.nil]) := by
    change Document.parseText .json ⟨false⟩ "[null]" = _
    rfl
  have hload : arguments.load world =
      .ok ⟨.array [.nil], Document.stdinName⟩ := by
    rw [hbytes, Document.ofBytes, Text.fromUTF8?_toUTF8]
    simp only [Document.ofText, hparse]
  have hpath : arguments.keyPath = [] ++ .int (-1) :: [.str "b"] := by decide
  have hitem : Entry (.array [.nil]) (.int (-1)) .nil := @Entry.array _ _ 0 _ rfl (Or.inr rfl)
  have hfree : other.customFree = true := by decide
  obtain ⟨result, hne, hpure⟩ := hnever other (Or.inl hfree) [.int 0]
  refine ⟨hrun, ⟨ref, rest, hd, hanswer⟩, hfree, ⟨result, hne, hpure respond⟩, hother, ?_, hload,
    ?_⟩
  · exact habsent other [.int 0] _ _ hother hnil [.int 7] respond
  · exact (hstrict arguments world).2 _ _ _ _ _ hload hpath .here hitem rfl

end KeyPath.Command
