import KeyPath.Proofs.Command.Events
import KeyPath.Proofs.Text.Utf8
/-!
# Input from a file and from standard input

The same bytes, taken for the same format, are the same document or fail in the same way, whether
they come from a file or from standard input. All that follows is the same as well; reports and the
events that are logged differ in nothing but the name of the source.
-/

namespace KeyPath

def Document.withSource (source : String) (document : Document) : Document :=
  { document with source }

/-- The same failure for another source. What is missing is no source. -/
def DocumentError.withSource (source : String) : DocumentError → DocumentError
  | fileNotFound path => fileNotFound path
  | readError _ cause => readError source cause
  | parseError _ format detail => parseError source format detail

namespace Document

/-- What comes of loading a document, for another source. -/
def renamed (source : String) (result : Except DocumentError Document) :
    Except DocumentError Document :=
  (result.map (withSource source)).mapError (DocumentError.withSource source)

variable [Yaml.Wording] {format : DocumentFormat} {options : LoadOptions} {source : String}
  {bytes : ByteArray}

private theorem ofBytes_eq_renamed (other : String) :
    ofBytes format options other bytes = renamed other (ofBytes format options source bytes) := by
  rw [ofBytes, ofBytes]
  cases String.fromUTF8? bytes with
  | none => rfl
  | some text =>
    simp only [ofText]
    cases parseText format options text <;> rfl

private theorem ofBytes_eq_readError_iff :
    ofBytes format options source bytes = .error (.readError source DocumentError.notText) ↔
      String.fromUTF8? bytes = none := by
  rw [ofBytes]
  cases String.fromUTF8? bytes with
  | none => simp
  | some text =>
    simp only [ofText]
    cases parseText format options text <;> simp

private theorem ofBytes_eq_parseError_iff {detail : String} :
    ofBytes format options source bytes = .error (.parseError source format.name detail) ↔
      ∃ text, String.fromUTF8? bytes = some text ∧
        parseText format options text = .error detail := by
  rw [ofBytes]
  cases String.fromUTF8? bytes with
  | none => simp
  | some text =>
    simp only [ofText]
    cases hp : parseText format options text <;> simp [hp]

theorem ofBytes_eq_ok_iff {root : Value} :
    ofBytes format options source bytes = .ok ⟨root, source⟩ ↔
      ∃ text, String.fromUTF8? bytes = some text ∧ parseText format options text = .ok root := by
  rw [ofBytes]
  cases String.fromUTF8? bytes with
  | none => simp
  | some text =>
    simp only [ofText]
    cases hp : parseText format options text <;> simp [hp]

end Document

namespace Command

def Failure.withSource (source : String) : Failure → Failure
  | document error => document (error.withSource source)
  | dig error => dig error

namespace Event

/-- How an event names a source. It is quoted where the keys are followed. -/
def sourceText (event : Event) (source : String) : String :=
  if event.target = Verbosity.digTarget then String.ofList (Text.Quoted.encode source.toList)
  else source

/-- The same event for another source. -/
def withSource (source : String) (event : Event) : Event :=
  { event with
    fields := event.fields.map fun field =>
      if field.1 = "source" then (field.1, event.sourceText source) else field }

private theorem names_withSource (source : String) (event : Event) :
    (event.withSource source).fields.map Prod.fst = event.fields.map Prod.fst := by
  rw [withSource, List.map_map]
  apply List.map_congr_left
  intro field _
  rw [Function.comp_apply]
  split <;> rfl

private theorem withSource_withSource (source other : String) (event : Event) :
    (event.withSource other).withSource source = event.withSource source := by
  rw [withSource, withSource, withSource, List.map_map]
  congr 1
  apply List.map_congr_left
  intro field _
  by_cases h : field.1 = "source"
  · simp only [Function.comp_apply, if_pos h]
    rfl
  · simp only [Function.comp_apply, if_neg h]

end Event

private theorem LogFilter.shows_withSource (filter : LogFilter) (source : String) (event : Event) :
    filter.shows (event.withSource source) = filter.shows event :=
  filter.shows_congr rfl rfl (event.names_withSource source)

namespace Arguments

private theorem loadEvents_withSource (arguments : Arguments) (source : String)
    (document : Document) :
    arguments.loadEvents (document.withSource source) =
      (arguments.loadEvents document).map (Event.withSource source) := by
  rfl

/-- Two runs follow the same keys in the same document, or fail to load it in the same way, but for
the source, which has a given name in the second one. -/
structure Renamed [Yaml.Wording] (source : String) (arguments other : Arguments)
    (world elsewhere : World) : Prop where
  namesFile : arguments.NamesFile world.files
  otherNamesFile : other.NamesFile elsewhere.files
  keyPath : other.keyPath = arguments.keyPath
  documentFormat : other.documentFormat = arguments.documentFormat
  filter : other.verbosity.filterWith elsewhere.logFilter =
    arguments.verbosity.filterWith world.logFilter
  load : other.load elsewhere = Document.renamed source (arguments.load world)

namespace Renamed

variable [Yaml.Wording] {source : String} {arguments other : Arguments} {world elsewhere : World}
  (h : Renamed source arguments other world elsewhere)

include h

theorem path_eq : other.path = arguments.path := by
  rw [path, path, h.keyPath]

theorem lookup_result_eq :
    (other.lookup elsewhere).2 =
      (arguments.lookup world).2.mapError (Failure.withSource source) := by
  have hload := h.load
  cases hl : arguments.load world with
  | error error =>
    rw [hl] at hload
    rw [lookup_result_of_error hload, lookup_result_of_error hl]
    rfl
  | ok document =>
    rw [hl] at hload
    rw [lookup_result_of_ok hload, lookup_result_of_ok hl, h.keyPath]
    have hroot : (document.withSource source).root = document.root := rfl
    rw [hroot]
    cases digDocument document.root arguments.keyPath <;> rfl

private theorem lookup_events_eq :
    (other.lookup elsewhere).1 = (arguments.lookup world).1.map (Event.withSource source) := by
  have hload := h.load
  cases hl : arguments.load world with
  | error error =>
    rw [hl] at hload
    rw [lookup_events_of_error hload, lookup_events_of_error hl]
    rfl
  | ok document =>
    rw [hl] at hload
    rw [lookup_events_of_ok hload, lookup_events_of_ok hl, ← loadEvents_withSource, loadEvents,
      loadEvents, h.documentFormat, h.path_eq]

private theorem notices_eq :
    other.notices (other.lookup elsewhere).2 =
      (arguments.notices (arguments.lookup world).2).map (Event.withSource source) := by
  have habsent : other.absentEvent = arguments.absentEvent := by
    rw [absentEvent, absentEvent, h.path_eq]
  rw [h.lookup_result_eq]
  cases (arguments.lookup world).2 with
  | error failure => rfl
  | ok lookup =>
    cases lookup with
    | found value => rfl
    | absent => exact congrArg (fun event => [event]) habsent

theorem events_eq :
    (other.outcome elsewhere).events =
      (arguments.outcome world).events.map (Event.withSource source) := by
  rw [Arguments.events_eq h.namesFile, Arguments.events_eq h.otherNamesFile, h.lookup_events_eq,
    h.notices_eq, List.map_append]

theorem shownEvents_eq :
    other.shownEvents elsewhere =
      (arguments.shownEvents world).map (Event.withSource source) := by
  rw [shownEvents, shownEvents, h.filter, h.events_eq, List.filter_map]
  congr 2
  funext event
  exact LogFilter.shows_withSource _ _ event

end Renamed

/-- The same arguments, but for the document, which is read from standard input. -/
def fromStdin (arguments : Arguments) (inputFormat : Option DocumentFormat) : Arguments :=
  { arguments with input := none, inputFormat }

/-- The input is a file in one world, standard input holds the same bytes in another, and both are
taken for the same format: the one asked for or the one that the name of the file tells, which is
JSON if neither does. -/
structure SameInput (arguments : Arguments) (path : String) (inputFormat : Option DocumentFormat)
    (bytes : ByteArray) (world elsewhere : World) : Prop where
  input : arguments.input = some path
  file : world.files path = .file (.bytes bytes)
  stdin : elsewhere.stdin = .bytes bytes
  format : (arguments.inputFormat.or (DocumentFormat.ofPath? path)).getD .json =
    inputFormat.getD .json
  logFilter : elsewhere.logFilter = world.logFilter

variable {arguments : Arguments} {path : String} {inputFormat : Option DocumentFormat}
  {bytes : ByteArray} {world elsewhere : World}

namespace SameInput

variable (h : arguments.SameInput path inputFormat bytes world elsewhere)

include h

theorem namesFile : arguments.NamesFile world.files := by
  intro other ho
  cases h.input.symm.trans ho
  exact ⟨_, h.file⟩

private theorem documentFormat_eq :
    (arguments.fromStdin inputFormat).documentFormat = arguments.documentFormat := by
  rw [documentFormat, documentFormat, h.input]
  exact h.format.symm

variable [Yaml.Wording]

private theorem load_eq :
    arguments.load world =
      Document.ofBytes arguments.documentFormat ⟨arguments.symbolizeKeys⟩ path bytes := by
  rw [load, documentFormat, h.input]
  simp only [Document.load, h.file]
  rfl

private theorem load_stdin_eq :
    (arguments.fromStdin inputFormat).load elsewhere =
      Document.ofBytes arguments.documentFormat ⟨arguments.symbolizeKeys⟩ Document.stdinName
        bytes := by
  rw [← h.documentFormat_eq, load, fromStdin, documentFormat, h.stdin]
  rfl

private theorem renamed_stdin :
    Renamed Document.stdinName arguments (arguments.fromStdin inputFormat) world elsewhere where
  namesFile := h.namesFile
  otherNamesFile := nofun
  keyPath := rfl
  documentFormat := h.documentFormat_eq
  filter := by
    rw [h.logFilter]
    rfl
  load := by
    rw [h.load_stdin_eq, h.load_eq]
    exact Document.ofBytes_eq_renamed Document.stdinName

private theorem renamed_path : Renamed path arguments arguments world world where
  namesFile := h.namesFile
  otherNamesFile := h.namesFile
  keyPath := rfl
  documentFormat := rfl
  filter := rfl
  load := by
    rw [h.load_eq]
    exact Document.ofBytes_eq_renamed path

theorem shownEvents_eq :
    arguments.shownEvents world =
      ((arguments.fromStdin inputFormat).shownEvents elsewhere).map (Event.withSource path) := by
  rw [h.renamed_stdin.shownEvents_eq, List.map_map]
  calc arguments.shownEvents world
      = (arguments.shownEvents world).map (Event.withSource path) :=
        h.renamed_path.shownEvents_eq
    _ = (arguments.shownEvents world).map
          (Event.withSource path ∘ Event.withSource Document.stdinName) := by
        apply List.map_congr_left
        intro event _
        exact (event.withSource_withSource path Document.stdinName).symm

/-- The two runs end alike. A failure is reported in the same context, with the causes of the same
failure for the other source. -/
private theorem respond_stdin :
    ((arguments.fromStdin inputFormat).respond elsewhere).exitCode =
        (arguments.respond world).exitCode ∧
      ((arguments.fromStdin inputFormat).respond elsewhere).stdout =
        (arguments.respond world).stdout ∧
      (∀ lookup, (arguments.lookup world).2 = .ok lookup →
        ((arguments.fromStdin inputFormat).respond elsewhere).failure =
          (arguments.respond world).failure) ∧
      ∀ failure, (arguments.lookup world).2 = .error failure → ∃ context,
        (arguments.respond world).failure =
          some (ErrorReport.text ⟨context, failure.causes⟩) ∧
        ((arguments.fromStdin inputFormat).respond elsewhere).failure =
          some (ErrorReport.text ⟨context,
            (failure.withSource Document.stdinName).causes⟩) := by
  have hresult := h.renamed_stdin.lookup_result_eq
  have hpath : (arguments.fromStdin inputFormat).path = arguments.path := rfl
  have hformat : (arguments.fromStdin inputFormat).format = arguments.format := rfl
  have hstrict : (arguments.fromStdin inputFormat).strict = arguments.strict := rfl
  cases hl : (arguments.lookup world).2 with
  | error failure =>
    rw [hl] at hresult
    obtain ⟨_, hfile⟩ := respond_of_lookup_eq_error h.namesFile hl
    obtain ⟨_, hstdin⟩ := respond_of_lookup_eq_error h.renamed_stdin.otherNamesFile hresult
    rw [hfile, hstdin, hpath]
    refine ⟨rfl, rfl, nofun, ?_⟩
    rintro _ ⟨⟩
    exact ⟨_, rfl, rfl⟩
  | ok lookup =>
    rw [hl] at hresult
    obtain ⟨_, hfile⟩ := respond_of_lookup_eq_ok h.namesFile hl
    obtain ⟨_, hstdin⟩ := respond_of_lookup_eq_ok h.renamed_stdin.otherNamesFile hresult
    rw [hfile, hstdin, hpath, hformat, hstrict]
    split <;> exact ⟨rfl, rfl, fun _ _ => rfl, nofun⟩

end SameInput

end Arguments

open Arguments

/-- A run that reads a file and a run that reads the same bytes from standard input, both taken for
the same format, load the same root or fail for the same reason, which the bytes alone decide. They
have the same lookup, exit code and output; the report of a failure and the events that are logged
name the file on the one side and standard input on the other, and are the same in all else. -/
theorem run_fromStdin [Yaml.Wording] {words others : List String} {arguments : Arguments}
    {path : String} {inputFormat : Option DocumentFormat} {bytes : ByteArray}
    {world elsewhere : World} (h : Arguments.parse words = .ok arguments)
    (ho : Arguments.parse others = .ok (arguments.fromStdin inputFormat))
    (hsame : arguments.SameInput path inputFormat bytes world elsewhere) :
    ∃ response answer, run words world = .ok response ∧ run others elsewhere = .ok answer ∧
      (fromStdin arguments inputFormat).load elsewhere =
        Document.renamed Document.stdinName (arguments.load world) ∧
      (arguments.load world = .error (.readError path DocumentError.notText) ↔
        String.fromUTF8? bytes = none) ∧
      (∀ detail,
        arguments.load world =
            .error (.parseError path arguments.documentFormat.name detail) ↔
          ∃ text, String.fromUTF8? bytes = some text ∧
            Document.parseText arguments.documentFormat ⟨arguments.symbolizeKeys⟩ text =
              .error detail) ∧
      (∀ root, arguments.load world = .ok ⟨root, path⟩ ↔
        ∃ text, String.fromUTF8? bytes = some text ∧
          Document.parseText arguments.documentFormat ⟨arguments.symbolizeKeys⟩ text =
            .ok root) ∧
      ((fromStdin arguments inputFormat).lookup elsewhere).2 =
        (arguments.lookup world).2.mapError (Failure.withSource Document.stdinName) ∧
      answer.exitCode = response.exitCode ∧ answer.stdout = response.stdout ∧
      (∀ lookup, (arguments.lookup world).2 = .ok lookup → answer.failure = response.failure) ∧
      (∀ failure, (arguments.lookup world).2 = .error failure → ∃ context,
        response.failure = some (ErrorReport.text ⟨context, failure.causes⟩) ∧
        answer.failure = some (ErrorReport.text ⟨context,
          (failure.withSource Document.stdinName).causes⟩)) ∧
      response.log = (arguments.shownEvents world).map Event.line ∧
      answer.log = ((fromStdin arguments inputFormat).shownEvents elsewhere).map Event.line ∧
      (fromStdin arguments inputFormat).shownEvents elsewhere =
        (arguments.shownEvents world).map (Event.withSource Document.stdinName) ∧
      arguments.shownEvents world =
        ((fromStdin arguments inputFormat).shownEvents elsewhere).map (Event.withSource path) := by
  obtain ⟨hcode, hstdout, hok, herror⟩ := hsame.respond_stdin
  have hrenamed := hsame.renamed_stdin
  refine ⟨_, _, run_eq_respond h world, run_eq_respond ho elsewhere, hrenamed.load, ?_, ?_, ?_,
    hrenamed.lookup_result_eq, hcode, hstdout, hok, herror, log_eq_map_shownEvents,
    log_eq_map_shownEvents, hrenamed.shownEvents_eq, hsame.shownEvents_eq⟩
  · rw [hsame.load_eq]
    exact Document.ofBytes_eq_readError_iff
  · intro detail
    rw [hsame.load_eq]
    exact Document.ofBytes_eq_parseError_iff
  · intro root
    rw [hsame.load_eq]
    exact Document.ofBytes_eq_ok_iff

/-- A list in a file of which the name tells no format, closed and not closed. -/
theorem run_fromStdin_list :
    let arguments : Arguments := ⟨["0"], some "l\"st", none, .json, false, false, 2, false⟩
    let world (bytes : ByteArray) : World :=
      ⟨fun path => if path = "l\"st" then .file bytes else .missing, ByteArray.empty, none⟩
    let elsewhere (bytes : ByteArray) : World := ⟨fun _ => .missing, bytes, none⟩
    let words := ["-vv", "--input", "l\"st", "0"]
    Arguments.parse words = .ok arguments ∧
      Arguments.parse ["-vv", "0"] = .ok (arguments.fromStdin none) ∧
      (∀ bytes, arguments.SameInput "l\"st" none bytes (world bytes) (elsewhere bytes)) ∧
      (∃ response answer, run words (world "[1]".toUTF8) = .ok response ∧
        run ["-vv", "0"] (elsewhere "[1]".toUTF8) = .ok answer ∧
        answer.exitCode = response.exitCode ∧ answer.stdout = response.stdout ∧
        response.log = ["DEBUG parsed document source=l\"st format=\"json\"",
          "DEBUG digging source=\"l\\\"st\" keys=0"] ∧
        answer.log = ["DEBUG parsed document source=<stdin> format=\"json\"",
          "DEBUG digging source=\"<stdin>\" keys=0"]) ∧
      ∃ response answer, run words (world "[1".toUTF8) = .ok response ∧
        run ["-vv", "0"] (elsewhere "[1".toUTF8) = .ok answer ∧
        (fromStdin arguments none).load (elsewhere "[1".toUTF8) =
          .error (.parseError "<stdin>" "json" "EOF while parsing a list at line 1 column 2") ∧
        answer.exitCode = response.exitCode ∧ answer.stdout = response.stdout ∧
        answer.log = [] := by
  intro arguments world elsewhere words
  have h : Arguments.parse words = .ok arguments := by decide
  have ho : Arguments.parse ["-vv", "0"] = .ok (arguments.fromStdin none) := by decide
  have hsame (bytes : ByteArray) :
      arguments.SameInput "l\"st" none bytes (world bytes) (elsewhere bytes) :=
    ⟨rfl, rfl, rfl, by decide, rfl⟩
  refine ⟨h, ho, hsame, ?_, ?_⟩
  · obtain ⟨response, answer, hrun, hrun', _, _, _, hroot, _, hcode, hstdout, _, _, hlog, hlog',
      hshown', _⟩ := run_fromStdin h ho (hsame "[1]".toUTF8)
    have hparse : Document.parseText .json ⟨false⟩ "[1]" = .ok (.array [.int 1]) := by rfl
    have hload := (hroot _).mpr ⟨"[1]", Text.fromUTF8?_toUTF8 "[1]", hparse⟩
    have hshown : arguments.shownEvents (world "[1]".toUTF8) =
        arguments.loadEvents ⟨.array [.int 1], "l\"st"⟩ := by
      have hdig : digDocument (.array [.int 1]) arguments.keyPath = .ok (.found (.int 1)) := by rfl
      rw [shownEvents, events_eq (hsame _).namesFile, lookup_events_of_ok hload,
        lookup_result_of_ok hload, hdig]
      decide
    rw [hshown] at hshown' hlog
    rw [hshown'] at hlog'
    exact ⟨response, answer, hrun, hrun', hcode, hstdout, hlog.trans (by decide),
      hlog'.trans (by decide)⟩
  · obtain ⟨response, answer, hrun, hrun', hload, _, hdetail, _, _, hcode, hstdout, _, _, _, hlog',
      hshown', _⟩ := run_fromStdin h ho (hsame "[1".toUTF8)
    have hparse : Document.parseText .json ⟨false⟩ "[1" =
        .error "EOF while parsing a list at line 1 column 2" := by
      rfl
    have herror := (hdetail _).mpr ⟨"[1", Text.fromUTF8?_toUTF8 "[1", hparse⟩
    have hshown : arguments.shownEvents (world "[1".toUTF8) = [] := by
      rw [shownEvents, events_eq (hsame _).namesFile, lookup_events_of_error herror,
        lookup_result_of_error herror]
      rfl
    rw [hshown', hshown] at hlog'
    refine ⟨response, answer, hrun, hrun', ?_, hcode, hstdout, hlog'⟩
    rw [hload, herror]
    rfl

end Command

end KeyPath
