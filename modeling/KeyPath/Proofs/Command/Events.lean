import KeyPath.Proofs.Command.Ending
/-!
# The events of a run

A run whose document is loaded tells so twice, and it tells when nothing is found; a run whose input
is no file, or no document, tells nothing. Whether a filter shows an event depends on its level, its
target and the names of its fields.
-/

namespace KeyPath.Command

namespace Arguments

variable (arguments : Arguments) (world : World)

/-- The notice that nothing is found, if that is how the lookup comes out. -/
def notices : Except Failure Lookup → List Event
  | .ok .absent => [arguments.absentEvent]
  | _ => []

/-- The events of a run that are shown. -/
def shownEvents [Yaml.Wording] : List Event :=
  (arguments.outcome world).events.filter (arguments.verbosity.filterWith world.logFilter).shows

variable {arguments : Arguments} {world : World} [Yaml.Wording]

theorem log_eq_map_shownEvents :
    (arguments.respond world).log = (arguments.shownEvents world).map Event.line := by
  rw [respond, shownEvents]
  cases (arguments.outcome world).result <;> rfl

theorem events_of_not_namesFile (h : ¬arguments.NamesFile world.files) :
    (arguments.outcome world).events = [] := by
  obtain ⟨error, herror⟩ := exists_validate_eq_error h
  rw [outcome, herror]

theorem events_eq (h : arguments.NamesFile world.files) :
    (arguments.outcome world).events =
      (arguments.lookup world).1 ++ arguments.notices (arguments.lookup world).2 := by
  rw [outcome, validate_eq_ok h]
  cases arguments.lookup world with
  | mk events result =>
    cases result with
    | error failure => exact (List.append_nil events).symm
    | ok lookup =>
      simp only [Lookup.write_eq_ok]
      cases lookup with
      | found value => exact (List.append_nil events).symm
      | absent => cases arguments.strict <;> rfl

theorem lookup_events_of_ok {document : Document} (h : arguments.load world = .ok document) :
    (arguments.lookup world).1 = arguments.loadEvents document := by
  rw [lookup, h]

theorem lookup_events_of_error {error : DocumentError} (h : arguments.load world = .error error) :
    (arguments.lookup world).1 = [] := by
  rw [lookup, h]

theorem lookup_result_of_ok {document : Document} (h : arguments.load world = .ok document) :
    (arguments.lookup world).2 =
      (digDocument document.root arguments.keyPath).mapError .dig := by
  rw [lookup, h]
  dsimp only
  cases digDocument document.root arguments.keyPath with
  | ok lookup => rfl
  | error e => rfl

theorem lookup_result_of_error {error : DocumentError} (h : arguments.load world = .error error) :
    (arguments.lookup world).2 = .error (.document error) := by
  rw [lookup, h]

end Arguments

/-- A filter takes events of one level and one target alike if their fields have the same names. -/
theorem LogFilter.shows_congr (filter : LogFilter) {a b : Event} (hlevel : a.level = b.level)
    (htarget : a.target = b.target) (hnames : a.fields.map Prod.fst = b.fields.map Prod.fst) :
    filter.shows a = filter.shows b := by
  have hcovers : ∀ scope, LogDirective.covers scope a = LogDirective.covers scope b := by
    intro scope
    cases scope with
    | field name =>
      have hany (event : Event) : (event.fields.any fun field => field.1 == name) =
          (event.fields.map Prod.fst).any (· == name) := by
        rw [List.any_map]
        rfl
      simp only [LogDirective.covers, hany, hnames]
    | _ => rfl
  have happlies : ∀ directive : LogDirective, directive.applies a = directive.applies b := by
    intro directive
    rw [LogDirective.applies, LogDirective.applies, htarget, hcovers]
  have hthreshold : filter.threshold a = filter.threshold b := by
    simp only [LogFilter.threshold, happlies]
  rw [LogFilter.shows, LogFilter.shows, hlevel, hthreshold]

end KeyPath.Command
