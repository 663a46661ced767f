import KeyPath.Command.Run
import KeyPath.Proofs.Value.Data
import Mathlib.Logic.ExistsUnique
/-!
# How a run ends

A run with accepted arguments ends in one of four ways: the input is no file, no document is read
or the lookup in it fails, the lookup finds nothing although it has to, or the lookup is reported.
Each of them excludes those after it, and only the last one prints anything.
-/

namespace KeyPath.Command

/-- The ways in which a run with accepted arguments ends. -/
inductive Ending where
  | invalidArguments
  | digFailed
  | pathNotFound
  | success
  deriving DecidableEq, Repr

namespace Arguments

variable (arguments : Arguments) (world : World)

/-- Whether the input, if one is named, is a file. -/
def NamesFile (files : Files) : Prop :=
  ∀ path, arguments.input = some path → ∃ content, files path = .file content

/-- What comes of reading the input, unless it is no file. -/
def content? : Option Content :=
  match arguments.input with
  | none => some world.stdin
  | some path =>
    match world.files path with
    | .file content => some content
    | _ => none

/-- The input is read as bytes that are the text of a document, in which the lookup does not
fail. -/
def Finds [Yaml.Wording] (lookup : Lookup) : Prop :=
  ∃ bytes text root, arguments.content? world = some (.bytes bytes) ∧
    String.fromUTF8? bytes = some text ∧
    Document.parseText arguments.documentFormat ⟨arguments.symbolizeKeys⟩ text = .ok root ∧
    digDocument root arguments.keyPath = .ok lookup

/-- The ending that the arguments, the files and standard input call for. -/
def LeadsTo [Yaml.Wording] : Ending → Prop
  | .invalidArguments => ¬arguments.NamesFile world.files
  | .digFailed => arguments.NamesFile world.files ∧ ∀ lookup, ¬arguments.Finds world lookup
  | .pathNotFound => arguments.Finds world .absent ∧ arguments.strict = true
  | .success =>
    ∃ lookup, arguments.Finds world lookup ∧ (lookup = .absent → arguments.strict = false)

/-- The context in which a failure is reported. -/
def context? : Ending → Option String
  | .invalidArguments => some "Invalid arguments"
  | .digFailed => some ("Failed to dig [" ++ arguments.path ++ "]")
  | .pathNotFound => some ("Path not found: [" ++ arguments.path ++ "]")
  | .success => none

/-- What the caller sees of an ending: a failure has an exit code of one, prints nothing and is
reported in its context. -/
def EndsWith (response : Response) (ending : Ending) : Prop :=
  match arguments.context? ending with
  | some context => response.exitCode = 1 ∧ response.stdout = "" ∧
      ∃ causes, response.failure = some (ErrorReport.text ⟨context, causes⟩)
  | none => response.exitCode = 0 ∧ response.failure = none

variable {arguments world}

theorem validate_eq_ok (h : arguments.NamesFile world.files) :
    arguments.validate world.files = .ok () := by
  rw [validate]
  cases hi : arguments.input with
  | none => rfl
  | some path =>
    obtain ⟨content, hf⟩ := h path hi
    simp only [hf]

theorem exists_validate_eq_error (h : ¬arguments.NamesFile world.files) :
    ∃ error, arguments.validate world.files = .error error := by
  obtain ⟨path, hpath⟩ := Classical.not_forall.mp h
  obtain ⟨hi, hf⟩ := Classical.not_imp.mp hpath
  rw [validate, hi]
  cases hs : world.files path with
  | missing => exact ⟨.missing path, by simp only [hs]⟩
  | directory => exact ⟨.notFile path, by simp only [hs]⟩
  | file content => exact absurd ⟨content, hs⟩ hf

theorem namesFile_of_content? {content : Content} (h : arguments.content? world = some content) :
    arguments.NamesFile world.files := by
  intro path hi
  rw [content?, hi] at h
  cases hf : world.files path with
  | file content => exact ⟨content, rfl⟩
  | _ =>
    simp only [hf] at h
    cases h

variable [Yaml.Wording]

theorem load_eq_ofContent (h : arguments.NamesFile world.files) :
    ∃ source content, arguments.content? world = some content ∧
      arguments.load world =
        Document.ofContent arguments.documentFormat ⟨arguments.symbolizeKeys⟩ source content := by
  rw [content?, load, documentFormat]
  cases hi : arguments.input with
  | none => exact ⟨Document.stdinName, world.stdin, rfl, rfl⟩
  | some path =>
    obtain ⟨content, hf⟩ := h path hi
    exact ⟨path, content, by simp only [hf], by simp only [Document.load, hf]⟩

theorem namesFile_of_load_eq_ok {document : Document} (h : arguments.load world = .ok document) :
    arguments.NamesFile world.files := by
  intro path hi
  rw [load, hi] at h
  simp only [Document.load] at h
  cases hf : world.files path with
  | file content => exact ⟨content, rfl⟩
  | _ =>
    rw [hf] at h
    cases h

theorem Finds.namesFile {lookup : Lookup} (h : arguments.Finds world lookup) :
    arguments.NamesFile world.files := by
  obtain ⟨_, _, _, hcontent, _⟩ := h
  exact namesFile_of_content? hcontent

theorem Finds.unique {lookup other : Lookup} (h : arguments.Finds world lookup)
    (ho : arguments.Finds world other) : lookup = other := by
  obtain ⟨bytes, text, root, hcontent, htext, hroot, hdig⟩ := h
  obtain ⟨bytes', text', root', hcontent', htext', hroot', hdig'⟩ := ho
  cases hcontent.symm.trans hcontent'
  cases htext.symm.trans htext'
  cases hroot.symm.trans hroot'
  cases hdig.symm.trans hdig'
  rfl

/-- Where the input is a file, the lookup finds something or fails for a reason other than a
missing file. -/
theorem lookup_cases (h : arguments.NamesFile world.files) :
    (∃ lookup, (arguments.lookup world).2 = .ok lookup ∧ arguments.Finds world lookup) ∨
    ∃ failure, (arguments.lookup world).2 = .error failure ∧
      (∀ path, failure ≠ .document (.fileNotFound path)) ∧
      ∀ lookup, ¬arguments.Finds world lookup := by
  obtain ⟨source, content, hcontent, hload⟩ := load_eq_ofContent h
  rw [Arguments.lookup, hload]
  -- Each stage may fail: reading, decoding, parsing, following the keys.
  cases content with
  | unreadable cause =>
    refine Or.inr ⟨_, rfl, nofun, ?_⟩
    rintro lookup ⟨bytes, _, _, hbytes, _⟩
    cases hcontent.symm.trans hbytes
  | bytes bytes =>
    rw [Document.ofContent, Document.ofBytes]
    cases htext : String.fromUTF8? bytes with
    | none =>
      refine Or.inr ⟨_, rfl, nofun, ?_⟩
      rintro lookup ⟨bytes', text, _, hbytes, htext', _⟩
      cases hcontent.symm.trans hbytes
      cases htext.symm.trans htext'
    | some text =>
      simp only [Document.ofText]
      cases hroot : Document.parseText arguments.documentFormat ⟨arguments.symbolizeKeys⟩ text with
      | error detail =>
        refine Or.inr ⟨_, rfl, nofun, ?_⟩
        rintro lookup ⟨bytes', text', root, hbytes, htext', hroot', _⟩
        cases hcontent.symm.trans hbytes
        cases htext.symm.trans htext'
        cases hroot.symm.trans hroot'
      | ok root =>
        cases hdig : digDocument root arguments.keyPath with
        | error e =>
          refine Or.inr ⟨.dig e, by simp only [hdig], nofun, ?_⟩
          rintro lookup ⟨bytes', text', root', hbytes, htext', hroot', hdig'⟩
          cases hcontent.symm.trans hbytes
          cases htext.symm.trans htext'
          cases hroot.symm.trans hroot'
          cases hdig.symm.trans hdig'
        | ok lookup =>
          exact Or.inl
            ⟨lookup, by simp only [hdig], bytes, text, root, hcontent, htext, hroot, hdig⟩

private theorem lookup_eq_ok {lookup : Lookup} (h : arguments.Finds world lookup) :
    (arguments.lookup world).2 = .ok lookup := by
  rcases lookup_cases h.namesFile with ⟨other, hok, hfinds⟩ | ⟨_, _, _, hnone⟩
  · rw [hok, h.unique hfinds]
  · exact absurd h (hnone lookup)

theorem finds_of_load_eq_ok {document : Document} {lookup : Lookup}
    (h : arguments.load world = .ok document)
    (hd : digDocument document.root arguments.keyPath = .ok lookup) :
    arguments.Finds world lookup := by
  have hlookup : (arguments.lookup world).2 = .ok lookup := by
    rw [Arguments.lookup, h]
    simp only [hd]
  rcases lookup_cases (namesFile_of_load_eq_ok h) with ⟨other, hok, hfinds⟩ | ⟨_, herror, _⟩
  · cases hlookup.symm.trans hok
    exact hfinds
  · cases hlookup.symm.trans herror

private theorem exists_lookup_eq_error (h : arguments.NamesFile world.files)
    (hnone : ∀ lookup, ¬arguments.Finds world lookup) :
    ∃ failure, (arguments.lookup world).2 = .error failure ∧
      ∀ path, failure ≠ .document (.fileNotFound path) := by
  rcases lookup_cases h with ⟨lookup, _, hfinds⟩ | ⟨failure, herror, hne, _⟩
  · exact absurd hfinds (hnone lookup)
  · exact ⟨failure, herror, hne⟩

private theorem respond_of_not_namesFile (h : ¬arguments.NamesFile world.files) :
    ∃ log causes, arguments.respond world =
      ⟨1, "", log, some (ErrorReport.text ⟨"Invalid arguments", causes⟩)⟩ := by
  obtain ⟨error, herror⟩ := exists_validate_eq_error h
  rw [respond, outcome, herror]
  exact ⟨_, _, rfl⟩

theorem respond_of_lookup_eq_error (h : arguments.NamesFile world.files) {failure : Failure}
    (hl : (arguments.lookup world).2 = .error failure) :
    ∃ log, arguments.respond world = ⟨1, "", log,
      some (ErrorReport.text ⟨"Failed to dig [" ++ arguments.path ++ "]", failure.causes⟩)⟩ := by
  rw [respond, outcome, validate_eq_ok h]
  cases hp : arguments.lookup world with
  | mk events result =>
    rw [hp] at hl
    cases hl
    exact ⟨_, rfl⟩

theorem respond_of_lookup_eq_ok (h : arguments.NamesFile world.files) {lookup : Lookup}
    (hl : (arguments.lookup world).2 = .ok lookup) :
    ∃ log, arguments.respond world =
      if lookup.isAbsent && arguments.strict then
        ⟨1, "", log, some (ErrorReport.text ⟨"Path not found: [" ++ arguments.path ++ "]", []⟩)⟩
      else ⟨0, report lookup arguments.format ++ "\n", log, none⟩ := by
  rw [respond, outcome, validate_eq_ok h]
  cases hp : arguments.lookup world with
  | mk events result =>
    rw [hp] at hl
    cases hl
    by_cases hc : (lookup.isAbsent && arguments.strict) = true
    · simp only [if_pos hc]
      exact ⟨_, rfl⟩
    · simp only [if_neg hc, Lookup.write_eq_ok]
      exact ⟨_, rfl⟩

theorem respond_of_finds {lookup : Lookup} (h : arguments.Finds world lookup) :
    ∃ log, arguments.respond world =
      if lookup.isAbsent && arguments.strict then
        ⟨1, "", log, some (ErrorReport.text ⟨"Path not found: [" ++ arguments.path ++ "]", []⟩)⟩
      else ⟨0, report lookup arguments.format ++ "\n", log, none⟩ :=
  respond_of_lookup_eq_ok h.namesFile (lookup_eq_ok h)

/-- Runs whose lookups have the same result look the same but for the log and the report of what
failed. -/
theorem respond_congr {other : Arguments} {elsewhere : World}
    (h : arguments.NamesFile world.files) (ho : other.NamesFile elsewhere.files)
    (hl : (arguments.lookup world).2 = (other.lookup elsewhere).2)
    (hformat : arguments.format = other.format) (hstrict : arguments.strict = other.strict) :
    (arguments.respond world).exitCode = (other.respond elsewhere).exitCode ∧
      (arguments.respond world).stdout = (other.respond elsewhere).stdout := by
  cases hr : (other.lookup elsewhere).2 with
  | error failure =>
    obtain ⟨_, hfirst⟩ := respond_of_lookup_eq_error h (hl.trans hr)
    obtain ⟨_, hsecond⟩ := respond_of_lookup_eq_error ho hr
    rw [hfirst, hsecond]
    exact ⟨rfl, rfl⟩
  | ok lookup =>
    obtain ⟨_, hfirst⟩ := respond_of_lookup_eq_ok h (hl.trans hr)
    obtain ⟨_, hsecond⟩ := respond_of_lookup_eq_ok ho hr
    rw [hfirst, hsecond, hformat, hstrict]
    split <;> exact ⟨rfl, rfl⟩

theorem endsWith_of_leadsTo {ending : Ending} (h : arguments.LeadsTo world ending) :
    arguments.EndsWith (arguments.respond world) ending := by
  cases ending with
  | invalidArguments =>
    obtain ⟨log, causes, hr⟩ := respond_of_not_namesFile h
    rw [hr]
    exact ⟨rfl, rfl, causes, rfl⟩
  | digFailed =>
    obtain ⟨hfile, hnone⟩ := h
    obtain ⟨failure, hl, _⟩ := exists_lookup_eq_error hfile hnone
    obtain ⟨log, hr⟩ := respond_of_lookup_eq_error hfile hl
    rw [hr]
    exact ⟨rfl, rfl, failure.causes, rfl⟩
  | pathNotFound =>
    obtain ⟨hfinds, hstrict⟩ := h
    obtain ⟨log, hr⟩ := respond_of_finds hfinds
    rw [hr, hstrict]
    exact ⟨rfl, rfl, [], rfl⟩
  | success =>
    obtain ⟨lookup, hfinds, hstrict⟩ := h
    obtain ⟨log, hr⟩ := respond_of_finds hfinds
    have hcond : (lookup.isAbsent && arguments.strict) = false := by
      cases lookup with
      | found value => rfl
      | absent => exact hstrict rfl
    rw [hr, hcond]
    exact ⟨rfl, rfl⟩

theorem exists_leadsTo (arguments : Arguments) (world : World) :
    ∃ ending, arguments.LeadsTo world ending := by
  by_cases hfile : arguments.NamesFile world.files
  · rcases lookup_cases hfile with ⟨lookup, _, hfinds⟩ | ⟨_, _, _, hnone⟩
    · by_cases hstrict : lookup = .absent → arguments.strict = false
      · exact ⟨.success, lookup, hfinds, hstrict⟩
      · obtain ⟨rfl, hs⟩ := Classical.not_imp.mp hstrict
        exact ⟨.pathNotFound, hfinds, Bool.of_not_eq_false hs⟩
    · exact ⟨.digFailed, hfile, hnone⟩
  · exact ⟨.invalidArguments, hfile⟩

end Arguments

/-- The first letter of the context of a failure. -/
def Ending.letter? : Ending → Option Char
  | invalidArguments => some 'I'
  | digFailed => some 'F'
  | pathNotFound => some 'P'
  | success => none

private theorem Ending.letter?_injective {a b : Ending} (h : a.letter? = b.letter?) : a = b := by
  cases a <;> cases b <;> first | rfl | cases h

namespace Arguments

variable {arguments : Arguments} {response : Response}

private theorem getElem?_text {start : String} {c : Char} (h : start.toList.head? = some c)
    (rest : String) (causes : List String) :
    (ErrorReport.text ⟨start ++ rest, causes⟩).toList[7]? = some c := by
  obtain ⟨more, hmore⟩ := List.head?_eq_some_iff.mp h
  rw [ErrorReport.text, String.intercalate_cons_append, String.intercalate_cons_append,
    String.toList_append, String.toList_append, hmore]
  rfl

private theorem letter?_eq {ending : Ending} (h : arguments.EndsWith response ending) :
    response.failure.bind (fun text => text.toList[7]?) = ending.letter? := by
  cases ending with
  | success =>
    rw [h.2]
    rfl
  | invalidArguments =>
    obtain ⟨_, _, causes, hfailure⟩ := h
    rw [hfailure, ← String.append_empty (s := "Invalid arguments")]
    exact getElem?_text (by decide) _ causes
  | digFailed =>
    obtain ⟨_, _, causes, hfailure⟩ := h
    rw [hfailure, String.append_assoc]
    exact getElem?_text (by decide) _ causes
  | pathNotFound =>
    obtain ⟨_, _, causes, hfailure⟩ := h
    rw [hfailure, String.append_assoc]
    exact getElem?_text (by decide) _ causes

theorem EndsWith.unique {ending other : Ending} (h : arguments.EndsWith response ending)
    (ho : arguments.EndsWith response other) : ending = other :=
  Ending.letter?_injective ((letter?_eq h).symm.trans (letter?_eq ho))

theorem exitCode_of_endsWith {ending : Ending} (h : arguments.EndsWith response ending)
    (he : ending ≠ .success) : response.exitCode = 1 ∧ response.stdout = "" := by
  cases ending with
  | success => exact absurd rfl he
  | _ => exact ⟨h.1, h.2.1⟩

variable [Yaml.Wording]

theorem endsWith_respond_iff {world : World} {ending : Ending} :
    arguments.EndsWith (arguments.respond world) ending ↔ arguments.LeadsTo world ending := by
  constructor
  · intro h
    obtain ⟨other, ho⟩ := arguments.exists_leadsTo world
    rw [h.unique (endsWith_of_leadsTo ho)]
    exact ho
  · exact endsWith_of_leadsTo

theorem respond_strict {world : World} (strict : Bool) (h : ¬arguments.Finds world .absent) :
    ({ arguments with strict } : Arguments).respond world = arguments.respond world := by
  have hvalidate : ({ arguments with strict } : Arguments).validate = arguments.validate := rfl
  have hlookup : ({ arguments with strict } : Arguments).lookup = arguments.lookup := rfl
  rw [respond, respond, outcome, outcome, hvalidate, hlookup]
  by_cases hfile : arguments.NamesFile world.files
  · rw [validate_eq_ok hfile]
    have hcases := lookup_cases hfile
    cases hp : arguments.lookup world with
    | mk events result =>
      rw [hp] at hcases
      rcases hcases with ⟨lookup, hok, hfinds⟩ | ⟨failure, herror, _⟩
      · cases hok
        cases lookup with
        | found value => rfl
        | absent => exact absurd hfinds h
      · cases herror
        rfl
  · obtain ⟨error, herror⟩ := exists_validate_eq_error hfile
    rw [herror]
    rfl

end Arguments

section

variable [Yaml.Wording]

theorem run_eq_respond {words : List String} {arguments : Arguments}
    (h : Arguments.parse words = .ok arguments) (world : World) :
    run words world = .ok (arguments.respond world) := by
  rw [run, h]
  rfl

/-- Every run with accepted arguments ends in exactly one way, which the arguments, the files and
standard input decide. Nothing is printed but the report of a lookup in a run that succeeds, a
missing file is never the failure, and a run that has to find something differs from one that has
not only where nothing is found. -/
theorem run_ends {words : List String} {arguments : Arguments}
    (h : Arguments.parse words = .ok arguments) (world : World) :
    ∃ response, run words world = .ok response ∧
      (∃! ending, arguments.EndsWith response ending) ∧
      (∀ ending, arguments.EndsWith response ending ↔ arguments.LeadsTo world ending) ∧
      (response.exitCode ≠ 0 → response.exitCode = 1 ∧ response.stdout = "") ∧
      (∀ lookup, arguments.Finds world lookup → response.exitCode = 0 →
        response.stdout = report lookup arguments.format ++ "\n") ∧
      (∀ lookup format, Lookup.write lookup format = .ok (report lookup format)) ∧
      (arguments.EndsWith response .digFailed → ∃ failure : Failure,
        (arguments.lookup world).2 = .error failure ∧
        (∀ path, failure ≠ .document (.fileNotFound path)) ∧
        response.failure = some (ErrorReport.text
          ⟨"Failed to dig [" ++ arguments.path ++ "]", failure.causes⟩)) ∧
      ∀ (others : List String) (strict : Bool),
        Arguments.parse others = .ok { arguments with strict } →
          ∃ other, run others world = .ok other ∧ (¬arguments.Finds world .absent →
            other.exitCode = response.exitCode ∧ other.stdout = response.stdout) := by
  refine ⟨_, run_eq_respond h world, ?_, fun _ => Arguments.endsWith_respond_iff, ?_, ?_,
    Lookup.write_eq_ok, ?_, ?_⟩
  · obtain ⟨ending, hending⟩ := arguments.exists_leadsTo world
    exact ⟨ending, Arguments.endsWith_of_leadsTo hending,
      fun _ ho => ho.unique (Arguments.endsWith_of_leadsTo hending)⟩
  · intro hcode
    obtain ⟨ending, hending⟩ := arguments.exists_leadsTo world
    have hends := Arguments.endsWith_of_leadsTo hending
    refine Arguments.exitCode_of_endsWith hends ?_
    rintro rfl
    exact hcode hends.1
  · intro lookup hfinds hcode
    obtain ⟨log, hr⟩ := Arguments.respond_of_finds hfinds
    rw [hr] at hcode ⊢
    by_cases hc : (lookup.isAbsent && arguments.strict) = true
    · rw [if_pos hc] at hcode
      cases hcode
    · rw [if_neg hc]
  · intro hends
    obtain ⟨hfile, hnone⟩ := Arguments.endsWith_respond_iff.mp hends
    obtain ⟨failure, hl, hne⟩ := Arguments.exists_lookup_eq_error hfile hnone
    obtain ⟨log, hr⟩ := Arguments.respond_of_lookup_eq_error hfile hl
    exact ⟨failure, hl, hne, by rw [hr]⟩
  · intro others strict ho
    refine ⟨_, run_eq_respond ho world, fun hfinds => ?_⟩
    rw [Arguments.respond_strict strict hfinds]
    exact ⟨rfl, rfl⟩

end

/-- A strict run that finds nothing in the empty array of standard input. -/
theorem run_ends_strict :
    let arguments : Arguments := ⟨["0"], none, none, .json, false, true, 0, false⟩
    let world : World := ⟨fun _ => .missing, "[]".toUTF8, none⟩
    Arguments.parse ["--strict", "0"] = .ok arguments ∧
      ∃ response, run ["--strict", "0"] world = .ok response ∧
        arguments.EndsWith response .pathNotFound := by
  intro arguments world
  have h : Arguments.parse ["--strict", "0"] = .ok arguments := rfl
  have hfinds : arguments.Finds world .absent :=
    ⟨"[]".toUTF8, "[]", .array [], rfl, by decide, rfl, rfl⟩
  obtain ⟨response, hrun, _, hends, _⟩ := run_ends h world
  exact ⟨h, response, hrun, (hends .pathNotFound).mpr ⟨hfinds, rfl⟩⟩

end KeyPath.Command
