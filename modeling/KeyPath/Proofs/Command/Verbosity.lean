import KeyPath.Proofs.Command.Events
import KeyPath.Proofs.Command.Settling
/-!
# Verbosity and results

Flags for verbosity and a log filter decide what a run logs and nothing else. With more verbosity a
run logs more events between the same ones.
-/

namespace KeyPath.Command

namespace Verbosity

private theorem isLE_compare_iff {a b : Verbosity} :
    (compare a b).isLE = true ↔ a.level.rank ≤ b.level.rank :=
  Nat.isLE_compare

/-- The targets of the events of a run. -/
def IsTarget (target : String) : Prop :=
  target = loadTarget ∨ target = digTarget ∨ target = commandTarget

private theorem threshold_filter (verbosity : Verbosity) {event : Event}
    (h : IsTarget event.target) :
    verbosity.filter.threshold event = some verbosity.level := by
  let library : LogDirective := ⟨libraryTarget, .everything, some verbosity.level⟩
  let command : LogDirective := ⟨commandTarget, .everything, some verbosity.level⟩
  have hlibrary : library.applies event =
      libraryTarget.toList.isPrefixOf event.target.toList := Bool.and_true _
  have hcommand : command.applies event =
      commandTarget.toList.isPrefixOf event.target.toList := Bool.and_true _
  have hone (directive : LogDirective) (hs : directive.threshold = some verbosity.level)
      (hf : [library, command].filter (·.applies event) = [directive]) :
      verbosity.filter.threshold event = some verbosity.level := by
    change (([library, command].filter (·.applies event)).foldl LogDirective.moreSpecific none).elim
      none LogDirective.threshold = _
    rw [hf]
    exact hs
  rcases h with h | h | h
  · apply hone library rfl
    rw [List.filter_cons_of_pos (by rw [hlibrary, h]; decide),
      List.filter_cons_of_neg (by rw [hcommand, h]; decide), List.filter_nil]
  · apply hone library rfl
    rw [List.filter_cons_of_pos (by rw [hlibrary, h]; decide),
      List.filter_cons_of_neg (by rw [hcommand, h]; decide), List.filter_nil]
  · apply hone command rfl
    rw [List.filter_cons_of_neg (by rw [hlibrary, h]; decide),
      List.filter_cons_of_pos (by rw [hcommand, h]; decide), List.filter_nil]

theorem shows_filter_iff (verbosity : Verbosity) {event : Event} (h : IsTarget event.target) :
    verbosity.filter.shows event = true ↔ event.level.rank ≤ verbosity.level.rank := by
  rw [LogFilter.shows, threshold_filter verbosity h, decide_eq_true_iff]
  rfl

end Verbosity

private theorem Level.name_injective {a b : Level} (h : a.name = b.name) : a = b := by
  cases a <;> cases b <;> first | rfl | exact absurd h (by decide)

namespace Event

private theorem toList_line (event : Event) : ∃ rest, event.line.toList =
    event.level.name.toList ++ ' ' :: (event.message.toList.flatMap escape ++ rest) := by
  obtain ⟨fields, hline⟩ : ∃ fields, event.line = " ".intercalate
      ([event.level.name, String.ofList (event.message.toList.flatMap escape)] ++ fields) :=
    ⟨_, rfl⟩
  refine ⟨(" ".intercalate ("" :: fields)).toList, ?_⟩
  rw [hline, List.cons_append, List.singleton_append, String.intercalate_cons_cons,
    ← String.append_empty (s := String.ofList _), String.intercalate_cons_append,
    String.toList_append, String.toList_append, String.toList_append, List.append_assoc]
  rw [String.toList_ofList (l := event.message.toList.flatMap escape)]
  rfl

private theorem level_of_line {event : Event} {level : Level} {rest : List Char}
    (h : event.line.toList = level.name.toList ++ ' ' :: rest) : event.level = level := by
  have hword : ∀ level : Level, ∀ rest,
      (level.name.toList ++ ' ' :: rest).takeWhile (· ≠ ' ') = level.name.toList := by
    intro level rest
    cases level <;> rfl
  obtain ⟨more, hmore⟩ := event.toList_line
  have hname := congrArg (List.takeWhile (· ≠ ' ')) (hmore.symm.trans h)
  rw [hword, hword] at hname
  exact Level.name_injective (String.toList_inj.mp hname)

/-- One of the two messages that a run has for a document that is loaded. -/
private def TellsOfDocument (message : String) : Prop :=
  message = "parsed document" ∨ message = "digging"

private theorem TellsOfDocument.eq_of_append_eq {message other : String} {rest more : List Char}
    (hm : TellsOfDocument message) (ho : TellsOfDocument other)
    (h : message.toList.flatMap escape ++ rest = other.toList.flatMap escape ++ more) :
    message = other := by
  rcases hm with rfl | rfl
  · rcases ho with rfl | rfl
    · rfl
    · cases (List.cons.inj h).1
  · rcases ho with rfl | rfl
    · cases (List.cons.inj h).1
    · rfl

end Event

namespace Arguments

private theorem loadEvents_cases {arguments : Arguments} {document : Document} {event : Event}
    (h : event ∈ arguments.loadEvents document) :
    event.level = .debug ∧ Event.TellsOfDocument event.message := by
  simp only [loadEvents, List.mem_cons, List.not_mem_nil, or_false] at h
  rcases h with rfl | rfl
  · exact ⟨rfl, .inl rfl⟩
  · exact ⟨rfl, .inr rfl⟩

private theorem message_absentEvent {arguments : Arguments} :
    ¬Event.TellsOfDocument arguments.absentEvent.message := by
  have hhead : arguments.absentEvent.message.toList.head? = some 'n' := by
    rw [absentEvent, String.toList_append, String.toList_append, List.append_assoc]
    rfl
  rintro (h | h)
  · rw [h] at hhead
    cases hhead
  · rw [h] at hhead
    cases hhead

section

variable {arguments other : Arguments} {world : World} [Yaml.Wording]

private theorem outcome_muted (files : Files) (stdin : Content)
    (logFilter logFilter' : Option String) :
    arguments.muted.outcome ⟨files, stdin, logFilter⟩ =
      arguments.outcome ⟨files, stdin, logFilter'⟩ :=
  rfl

private theorem outcome_eq_of_muted (h : arguments.muted = other.muted) (files : Files)
    (stdin : Content) (logFilter logFilter' : Option String) :
    arguments.outcome ⟨files, stdin, logFilter⟩ = other.outcome ⟨files, stdin, logFilter'⟩ := by
  rw [← outcome_muted files stdin none logFilter, h, outcome_muted]

private theorem mem_notices_iff (h : arguments.NamesFile world.files) {event : Event} :
    event ∈ arguments.notices (arguments.lookup world).2 ↔
      arguments.Finds world .absent ∧ event = arguments.absentEvent := by
  rcases lookup_cases h with ⟨lookup, hok, hfinds⟩ | ⟨failure, herror, _, hnone⟩
  · rw [hok]
    cases lookup with
    | absent =>
      have hmem : event ∈ [arguments.absentEvent] ↔ event = arguments.absentEvent :=
        List.mem_singleton
      exact hmem.trans (and_iff_right hfinds).symm
    | found value =>
      refine ⟨nofun, ?_⟩
      rintro ⟨habsent, _⟩
      cases habsent.unique hfinds
  · rw [herror]
    refine ⟨nofun, ?_⟩
    rintro ⟨habsent, _⟩
    exact absurd habsent (hnone .absent)

theorem mem_events_iff {event : Event} :
    event ∈ (arguments.outcome world).events ↔
      (∃ document, arguments.load world = .ok document ∧ event ∈ arguments.loadEvents document) ∨
        arguments.Finds world .absent ∧ event = arguments.absentEvent := by
  by_cases h : arguments.NamesFile world.files
  · rw [events_eq h, List.mem_append, mem_notices_iff h]
    apply or_congr_left
    cases hl : arguments.load world with
    | error error =>
      rw [lookup_events_of_error hl]
      simp
    | ok document =>
      rw [lookup_events_of_ok hl]
      simp
  · rw [events_of_not_namesFile h]
    refine ⟨nofun, ?_⟩
    rintro (⟨document, hload, _⟩ | ⟨habsent, _⟩)
    · exact absurd (namesFile_of_load_eq_ok hload) h
    · exact absurd habsent.namesFile h

private theorem isTarget_of_mem_events {event : Event}
    (h : event ∈ (arguments.outcome world).events) :
    Verbosity.IsTarget event.target := by
  rcases mem_events_iff.mp h with ⟨document, _, hmem⟩ | ⟨_, rfl⟩
  · simp only [loadEvents, List.mem_cons, List.not_mem_nil, or_false] at hmem
    rcases hmem with rfl | rfl
    · exact .inl rfl
    · exact .inr (.inl rfl)
  · exact .inr (.inr rfl)

theorem mem_shownEvents_iff (h : world.logFilter = none) {event : Event} :
    event ∈ arguments.shownEvents world ↔
      event ∈ (arguments.outcome world).events ∧
        event.level.rank ≤ arguments.verbosity.level.rank := by
  have hfilter : arguments.verbosity.filterWith world.logFilter = arguments.verbosity.filter := by
    rw [h]
    rfl
  rw [shownEvents, List.mem_filter, hfilter]
  apply and_congr_right
  intro hmem
  exact Verbosity.shows_filter_iff _ (isTarget_of_mem_events hmem)

theorem absentEvent_mem_shownEvents_iff (h : world.logFilter = none) :
    arguments.absentEvent ∈ arguments.shownEvents world ↔
      arguments.Finds world .absent ∧ (compare .verbose arguments.verbosity).isLE = true := by
  rw [mem_shownEvents_iff h, mem_events_iff, Verbosity.isLE_compare_iff]
  apply and_congr_left
  intro _
  constructor
  · rintro (⟨document, _, hmem⟩ | ⟨habsent, _⟩)
    · cases (loadEvents_cases hmem).1
    · exact habsent
  · exact fun habsent => .inr ⟨habsent, rfl⟩

private theorem exists_message_iff (h : world.logFilter = none) {message : String}
    (hm : Event.TellsOfDocument message) :
    (∃ event ∈ arguments.shownEvents world, event.message = message) ↔
      (∃ document, arguments.load world = .ok document) ∧
        (compare .debug arguments.verbosity).isLE = true := by
  rw [Verbosity.isLE_compare_iff]
  constructor
  · rintro ⟨event, hshown, hmessage⟩
    obtain ⟨hmem, hlevel⟩ := (mem_shownEvents_iff h).mp hshown
    rcases mem_events_iff.mp hmem with ⟨document, hload, hmem⟩ | ⟨_, rfl⟩
    · rw [(loadEvents_cases hmem).1] at hlevel
      exact ⟨⟨document, hload⟩, hlevel⟩
    · exact absurd (hmessage ▸ hm) message_absentEvent
  · rintro ⟨⟨document, hload⟩, hlevel⟩
    obtain ⟨event, hmem, hmessage⟩ :
        ∃ event ∈ arguments.loadEvents document, event.message = message := by
      rcases hm with rfl | rfl
      · exact ⟨_, List.mem_cons_self, rfl⟩
      · exact ⟨_, List.mem_cons_of_mem _ List.mem_cons_self, rfl⟩
    refine ⟨event, (mem_shownEvents_iff h).mpr ⟨?_, ?_⟩, hmessage⟩
    · exact mem_events_iff.mpr (.inl ⟨document, hload, hmem⟩)
    · rw [(loadEvents_cases hmem).1]
      exact hlevel

private theorem absentEvent_line_mem_iff (h : world.logFilter = none) :
    arguments.absentEvent.line ∈ (arguments.shownEvents world).map Event.line ↔
      arguments.absentEvent ∈ arguments.shownEvents world := by
  refine ⟨?_, List.mem_map_of_mem⟩
  intro hline
  obtain ⟨event, hshown, heq⟩ := List.mem_map.mp hline
  rcases mem_events_iff.mp ((mem_shownEvents_iff h).mp hshown).1 with ⟨_, _, hmem⟩ | ⟨_, rfl⟩
  · obtain ⟨rest, hrest⟩ := arguments.absentEvent.toList_line
    rw [← heq] at hrest
    cases (loadEvents_cases hmem).1.symm.trans (Event.level_of_line hrest)
  · exact hshown

private theorem exists_line_iff (h : world.logFilter = none) {message : String}
    (hm : Event.TellsOfDocument message) :
    (∃ line ∈ (arguments.shownEvents world).map Event.line,
      ("DEBUG " ++ message).toList <+: line.toList) ↔
      ∃ event ∈ arguments.shownEvents world, event.message = message := by
  have hstart : ("DEBUG " ++ message).toList =
      Level.debug.name.toList ++ ' ' :: message.toList.flatMap Event.escape := by
    rcases hm with rfl | rfl
    · decide
    · decide
  rw [hstart]
  constructor
  · rintro ⟨line, hline, rest, hrest⟩
    obtain ⟨event, hshown, rfl⟩ := List.mem_map.mp hline
    rw [List.append_assoc, List.cons_append] at hrest
    have hlevel := Event.level_of_line hrest.symm
    obtain ⟨more, hmore⟩ := event.toList_line
    rw [hlevel, ← hrest, List.append_cancel_left_eq, List.cons.injEq] at hmore
    refine ⟨event, hshown, ?_⟩
    rcases mem_events_iff.mp ((mem_shownEvents_iff h).mp hshown).1 with ⟨_, _, hmem⟩ | ⟨_, rfl⟩
    · exact ((hm.eq_of_append_eq (loadEvents_cases hmem).2) hmore.2).symm
    · cases hlevel
  · rintro ⟨event, hshown, rfl⟩
    refine ⟨event.line, List.mem_map_of_mem hshown, ?_⟩
    obtain ⟨rest, hrest⟩ := event.toList_line
    have hlevel : event.level = .debug := by
      rcases mem_events_iff.mp ((mem_shownEvents_iff h).mp hshown).1 with ⟨_, _, hmem⟩ | ⟨_, rfl⟩
      · exact (loadEvents_cases hmem).1
      · exact absurd hm message_absentEvent
    rw [hrest, hlevel, ← List.cons_append, ← List.append_assoc]
    exact List.prefix_append _ _

theorem shownEvents_sublist (h : arguments.muted = other.muted)
    (hle : (compare arguments.verbosity other.verbosity).isLE = true) (files : Files)
    (stdin : Content) :
    (arguments.shownEvents ⟨files, stdin, none⟩).Sublist
      (other.shownEvents ⟨files, stdin, none⟩) := by
  have hevents := congrArg Outcome.events (outcome_eq_of_muted h files stdin none none)
  have hrank := Verbosity.isLE_compare_iff.mp hle
  have hshows : ∀ event ∈ (arguments.outcome ⟨files, stdin, none⟩).events,
      arguments.verbosity.filter.shows event = true →
        other.verbosity.filter.shows event = true := by
    intro event hmem hshown
    have htarget := isTarget_of_mem_events hmem
    rw [Verbosity.shows_filter_iff _ htarget] at hshown ⊢
    exact Nat.le_trans hshown hrank
  change ((arguments.outcome _).events.filter arguments.verbosity.filter.shows).Sublist
    ((other.outcome _).events.filter other.verbosity.filter.shows)
  rw [← hevents]
  have hboth : (arguments.outcome ⟨files, stdin, none⟩).events.filter
      arguments.verbosity.filter.shows =
      ((arguments.outcome ⟨files, stdin, none⟩).events.filter
        other.verbosity.filter.shows).filter arguments.verbosity.filter.shows := by
    rw [List.filter_filter]
    apply List.filter_congr
    intro event hmem
    cases hshown : arguments.verbosity.filter.shows event with
    | false => rfl
    | true =>
      rw [hshows event hmem hshown]
      rfl
  rw [hboth]
  exact List.filter_sublist

end

end Arguments

open Arguments

/-- Two command lines that differ in nothing but their flags for verbosity end alike, whatever log
filters are given from outside: they have the same exit code, print the same and report the same
failure. Without a filter from outside the lower verbosity logs some of the lines of the higher one.
Any number of flags counts. The notice that nothing is found needs one step of verbosity, what is
told of the document two. -/
theorem run_verbosity [Yaml.Wording] {words others : List String} {arguments other : Arguments}
    (h : Arguments.parse words = .ok arguments) (ho : Arguments.parse others = .ok other)
    (hsame : withoutFlags (words.map String.toList) = withoutFlags (others.map String.toList))
    (files : Files) (stdin : Content) :
    (∀ filter filter', ∃ response answer,
      run words ⟨files, stdin, filter⟩ = .ok response ∧
        run others ⟨files, stdin, filter'⟩ = .ok answer ∧
        answer.exitCode = response.exitCode ∧ answer.stdout = response.stdout ∧
        answer.failure = response.failure) ∧
    ((compare arguments.verbosity other.verbosity).isLE = true → ∃ response answer,
      run words ⟨files, stdin, none⟩ = .ok response ∧
        run others ⟨files, stdin, none⟩ = .ok answer ∧ response.log.Sublist answer.log) ∧
    arguments.verbosity =
      .ofFlags ((verbosityFlags (words.map String.toList)).count .verbose)
        ((verbosityFlags (words.map String.toList)).contains .quiet) ∧
    ∃ response, run words ⟨files, stdin, none⟩ = .ok response ∧
      response.log = (arguments.shownEvents ⟨files, stdin, none⟩).map Event.line ∧
      (arguments.absentEvent ∈ arguments.shownEvents ⟨files, stdin, none⟩ ↔
        arguments.Finds ⟨files, stdin, none⟩ .absent ∧
          (compare .verbose arguments.verbosity).isLE = true) ∧
      (arguments.absentEvent.line ∈ response.log ↔
        arguments.Finds ⟨files, stdin, none⟩ .absent ∧
          (compare .verbose arguments.verbosity).isLE = true) ∧
      ∀ message ∈ ["parsed document", "digging"],
        ((∃ event ∈ arguments.shownEvents ⟨files, stdin, none⟩, event.message = message) ↔
          (∃ document, arguments.load ⟨files, stdin, none⟩ = .ok document) ∧
            (compare .debug arguments.verbosity).isLE = true) ∧
        ((∃ line ∈ response.log, ("DEBUG " ++ message).toList <+: line.toList) ↔
          (∃ document, arguments.load ⟨files, stdin, none⟩ = .ok document) ∧
            (compare .debug arguments.verbosity).isLE = true) := by
  obtain ⟨hparse, hverbosity⟩ := Arguments.parse_withoutFlags h
  have hmuted : arguments.muted = other.muted := by
    rw [hsame, (Arguments.parse_withoutFlags ho).1] at hparse
    exact (Except.ok.inj hparse).symm
  refine ⟨?_, ?_, hverbosity, ?_⟩
  · intro filter filter'
    refine ⟨_, _, run_eq_respond h _, run_eq_respond ho _, ?_⟩
    have hresult := congrArg Outcome.result
      (outcome_eq_of_muted hmuted files stdin filter filter')
    rw [respond, respond, hresult]
    cases (other.outcome ⟨files, stdin, filter'⟩).result with
    | ok text => exact ⟨rfl, rfl, rfl⟩
    | error report => exact ⟨rfl, rfl, rfl⟩
  · intro hle
    refine ⟨_, _, run_eq_respond h _, run_eq_respond ho _, ?_⟩
    rw [log_eq_map_shownEvents, log_eq_map_shownEvents]
    exact (shownEvents_sublist hmuted hle files stdin).map Event.line
  · refine ⟨_, run_eq_respond h _, log_eq_map_shownEvents, ?_, ?_, ?_⟩
    · exact absentEvent_mem_shownEvents_iff rfl
    · rw [log_eq_map_shownEvents, absentEvent_line_mem_iff rfl]
      exact absentEvent_mem_shownEvents_iff rfl
    · intro message hm
      have hmessage : Event.TellsOfDocument message := by
        simpa [Event.TellsOfDocument] using hm
      refine ⟨exists_message_iff rfl hmessage, ?_⟩
      rw [log_eq_map_shownEvents, exists_line_iff rfl hmessage]
      exact exists_message_iff rfl hmessage

/-- One flag against four, some of them in front of an option that shares their dash. -/
theorem run_verbosity_bundled :
    let arguments : Arguments := ⟨["a"], none, none, .json, false, true, 1, false⟩
    let other : Arguments := ⟨["a"], none, none, .json, false, true, 4, false⟩
    let words := ["-fjson", "--strict", "a", "-v"]
    let others := ["-vvfjson", "--verbose", "--strict", "a", "-v"]
    let files : Files := fun _ => .missing
    let stdin : Content := .bytes "[]".toUTF8
    Arguments.parse words = .ok arguments ∧ Arguments.parse others = .ok other ∧
      withoutFlags (words.map String.toList) = withoutFlags (others.map String.toList) ∧
      arguments.verbosity = .verbose ∧ other.verbosity = .trace ∧
      (∃ response answer, run words ⟨files, stdin, none⟩ = .ok response ∧
        run others ⟨files, stdin, some "dig=off"⟩ = .ok answer ∧
        answer.exitCode = response.exitCode ∧ answer.stdout = response.stdout ∧
        answer.failure = response.failure) ∧
      ∃ response answer, run words ⟨files, stdin, none⟩ = .ok response ∧
        run others ⟨files, stdin, none⟩ = .ok answer ∧ response.log.Sublist answer.log := by
  intro arguments other words others files stdin
  have h : Arguments.parse words = .ok arguments := by rfl
  have ho : Arguments.parse others = .ok other := by rfl
  have hsame : withoutFlags (words.map String.toList) =
      withoutFlags (others.map String.toList) := by decide
  obtain ⟨hresult, hlog, hverbosity, _⟩ := run_verbosity h ho hsame files stdin
  have hmore : (compare arguments.verbosity other.verbosity).isLE = true := by decide
  refine ⟨h, ho, hsame, ?_, rfl, hresult none (some "dig=off"), hlog hmore⟩
  rw [hverbosity]
  decide

end KeyPath.Command
