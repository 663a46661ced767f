import KeyPath.Proofs.Command.Settling
/-!
# Choices of options

What a user chooses is a list of options with their values. The arguments that it amounts to are
stated without reading any words. Each option but the one for more output is chosen at most once, so
that it is still free when its turn comes, and then reading it does what the choice says.
-/

namespace KeyPath

theorem DocumentFormat.ofName?_name (format : DocumentFormat) :
    DocumentFormat.ofName? format.name false = some format := by
  cases format <;> decide

theorem ReportFormat.ofName?_name (format : ReportFormat) :
    ReportFormat.ofName? format.name false = some format := by
  cases format <;> decide

namespace Command

/-- An option with its value, if it takes one. -/
inductive Choice where
  | input (path : String)
  | inputFormat (kind : DocumentFormat)
  | format (kind : ReportFormat)
  | symbolizeKeys
  | strict
  | verbose
  | quiet
  deriving DecidableEq, Repr

namespace Choice

def setting : Choice → Setting
  | input _ => .value .input
  | inputFormat _ => .value .inputFormat
  | format _ => .value .format
  | symbolizeKeys => .flag .symbolizeKeys
  | strict => .flag .strict
  | verbose => .flag .verbose
  | quiet => .flag .quiet

/-- The text of the value, unless the choice is a flag. -/
def text? : Choice → Option String
  | input path => some path
  | inputFormat kind => some kind.name
  | format kind => some kind.name
  | _ => none

@[simp] def input? : Choice → Option String
  | input path => some path
  | _ => none

@[simp] def inputFormat? : Choice → Option DocumentFormat
  | inputFormat kind => some kind
  | _ => none

@[simp] def format? : Choice → Option ReportFormat
  | format kind => some kind
  | _ => none

/-- A text that can stand for a path wherever a value is expected. -/
def IsPathText (text : String) : Prop := ∃ c rest, text.toList = c :: rest ∧ c ≠ '-' ∧ c ≠ '='

/-- Choices that fit together: each option but the one for more output is chosen at most once, and a
path is a non-empty text that begins with neither a dash nor an equals sign. -/
structure Selection (choices : List Choice) : Prop where
  once : ∀ setting, setting ≠ .flag .verbose → (choices.map Choice.setting).count setting ≤ 1
  path : ∀ path, input path ∈ choices → IsPathText path

end Choice

/-- The arguments that keys and choices amount to. -/
def Arguments.ofChoices (keys : List String) (choices : List Choice) : Arguments where
  keys := keys
  input := choices.findSome? Choice.input?
  inputFormat := choices.findSome? Choice.inputFormat?
  format := (choices.findSome? Choice.format?).getD .json
  symbolizeKeys := choices.contains .symbolizeKeys
  strict := choices.contains .strict
  verbose := min 255 (choices.count .verbose)
  quiet := choices.contains .quiet

/-- The arguments after one more choice. -/
def Arguments.choose (arguments : Arguments) : Choice → Arguments
  | .input path => { arguments with input := some path }
  | .inputFormat kind => { arguments with inputFormat := some kind }
  | .format kind => { arguments with format := kind }
  | .symbolizeKeys => { arguments with symbolizeKeys := true }
  | .strict => { arguments with strict := true }
  | .verbose => { arguments with verbose := min 255 (arguments.verbose + 1) }
  | .quiet => { arguments with quiet := true }

variable {keys : List String} {choices before rest : List Choice} {choice : Choice}
  {option : ValueOption} {flag : Flag} {text : String}

namespace Choice

private theorem Selection.fresh (h : Selection (before ++ choice :: rest))
    (hne : choice.setting ≠ .flag .verbose) : choice.setting ∉ before.map setting := by
  intro hm
  have honce := h.once choice.setting hne
  have hbefore := List.count_pos_iff.mpr hm
  rw [List.map_append, List.map_cons, List.count_append, List.count_cons_self] at honce
  omega

theorem Selection.isPathText (h : Selection choices) (hm : choice ∈ choices)
    (ht : choice.text? = some text) : IsPathText text := by
  cases choice with
  | input path =>
    cases ht
    exact h.path _ hm
  | inputFormat kind =>
    cases ht
    cases kind <;> exact ⟨_, _, rfl, by decide, by decide⟩
  | format kind =>
    cases ht
    cases kind <;> exact ⟨_, _, rfl, by decide, by decide⟩
  | _ => cases ht

end Choice

private theorem Choice.findSome?_eq_none {α : Type} {f : Choice → Option α} {option : Setting}
    (hf : ∀ choice x, f choice = some x → choice.setting = option)
    (h : option ∉ choices.map Choice.setting) : choices.findSome? f = none := by
  rw [List.findSome?_eq_none_iff]
  intro choice hm
  cases hx : f choice with
  | none => rfl
  | some x => exact absurd (hf choice x hx ▸ List.mem_map_of_mem hm) h

private theorem Arguments.ofChoices_concat (keys : List String)
    (h : Choice.Selection (before ++ choice :: rest)) :
    ofChoices keys (before ++ [choice]) = (ofChoices keys before).choose choice := by
  have hfresh := h.fresh
  cases choice with
  | input path =>
    have hnone := Choice.findSome?_eq_none (f := Choice.input?)
      (by rintro (_ | _) _ ⟨⟩; rfl) (hfresh nofun)
    simp [ofChoices, choose, hnone]
  | inputFormat kind =>
    have hnone := Choice.findSome?_eq_none (f := Choice.inputFormat?)
      (by rintro (_ | _) _ ⟨⟩; rfl) (hfresh nofun)
    simp [ofChoices, choose, hnone]
  | format kind =>
    have hnone := Choice.findSome?_eq_none (f := Choice.format?)
      (by rintro (_ | _) _ ⟨⟩; rfl) (hfresh nofun)
    simp [ofChoices, choose, hnone]
  | verbose =>
    have hcount : min 255 (before.count Choice.verbose + 1) =
        min 255 (min 255 (before.count Choice.verbose) + 1) := by omega
    simp [ofChoices, choose, hcount]
  | _ => simp [ofChoices, choose]

namespace Reading

open Choice (Selection)

/-- The reading after keys and choices. -/
def ofChoices (keys : List String) (choices : List Choice) : Reading where
  arguments := .ofChoices keys choices
  given := ((choices.map Choice.setting).filter (· != .flag .verbose)).reverse
  pending := none
  onlyKeys := false

theorem settle_ofChoices (keys : List String) (choices : List Choice) :
    (ofChoices keys choices).settle = .ok (ofChoices keys choices) :=
  settle_of_pending_eq_none rfl

private theorem ofChoices_verbose (keys : List String)
    (h : Selection (before ++ .verbose :: rest)) :
    ofChoices keys (before ++ [.verbose]) =
      { ofChoices keys before with
        arguments := (Arguments.ofChoices keys before).choose .verbose } := by
  simp [ofChoices, Arguments.ofChoices_concat keys h, Choice.setting]

private theorem note_ofChoices (keys : List String) (h : Selection (before ++ choice :: rest))
    (hne : choice.setting ≠ .flag .verbose) :
    ∃ s, (ofChoices keys before).note choice.setting = .ok s ∧
      ofChoices keys (before ++ [choice]) = { s with arguments := s.arguments.choose choice } := by
  have hfresh : (ofChoices keys before).given.contains choice.setting = false := by
    simpa [ofChoices, hne] using h.fresh hne
  refine ⟨_, by rw [note, hfresh]; rfl, ?_⟩
  simp [ofChoices, Arguments.ofChoices_concat keys h, hne]

theorem setFlag_ofChoices (keys : List String) (h : Selection (before ++ choice :: rest))
    (hflag : choice.setting = .flag flag) :
    (ofChoices keys before).setFlag flag = .ok (ofChoices keys (before ++ [choice])) := by
  rw [setFlag, settle_ofChoices]
  cases choice with
  | input | inputFormat | format => cases hflag
  | verbose =>
    cases hflag
    rw [ofChoices_verbose keys h]
    rfl
  | symbolizeKeys | strict | quiet =>
    cases hflag
    obtain ⟨s, hnote, hs⟩ := note_ofChoices keys h (by decide)
    rw [hs]
    change (note _ _ >>= _) = _
    rw [Choice.setting] at hnote
    rw [hnote]
    rfl

theorem assign_ofChoices (keys : List String) (h : Selection (before ++ choice :: rest))
    (hoption : choice.setting = .value option) (ht : choice.text? = some text) :
    (ofChoices keys before).assign option text.toList =
      .ok (ofChoices keys (before ++ [choice])) := by
  obtain ⟨s, hnote, hs⟩ := note_ofChoices keys h (by rw [hoption]; nofun)
  rw [hoption] at hnote
  rw [assign, hnote, hs]
  change Except.bind (.ok _) _ = _
  dsimp only [Except.bind]
  cases choice with
  | symbolizeKeys | strict | verbose | quiet => cases hoption
  | input path =>
    cases hoption
    cases ht
    obtain ⟨c, more, hpath, _⟩ := h.path text (by simp)
    rw [hpath, List.isEmpty_cons, if_neg Bool.false_ne_true, ← hpath, String.ofList_toList]
    rfl
  | inputFormat kind =>
    cases hoption
    cases ht
    dsimp only
    rw [String.ofList_toList, DocumentFormat.ofName?_name]
    rfl
  | format kind =>
    cases hoption
    cases ht
    dsimp only
    rw [String.ofList_toList, ReportFormat.ofName?_name]
    rfl

end Reading

end Command

end KeyPath
