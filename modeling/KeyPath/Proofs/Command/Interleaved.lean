import KeyPath.Proofs.Command.Choices
import KeyPath.Proofs.Command.Words
/-!
# Options among keys

Options and keys stand on the command line in any order, and each option is spelled in one of
several ways. Whatever the order and the spellings, the words are read as the keys and the choices
that they stand for: no option takes a key for its value, and no key is taken for an option.
-/

namespace KeyPath.Command

namespace Setting

/-- The name behind two dashes. -/
def name : Setting → String
  | value .input => "input"
  | value .inputFormat => "input-format"
  | value .format => "format"
  | flag .symbolizeKeys => "symbolize-keys"
  | flag .strict => "strict"
  | flag .verbose => "verbose"
  | flag .quiet => "quiet"
  | flag .help => "help"

/-- The letter behind one dash, which some options lack. -/
def letter? : Setting → Option Char
  | value .input => some 'i'
  | value .format => some 'f'
  | flag .verbose => some 'v'
  | flag .quiet => some 'q'
  | flag .help => some 'h'
  | _ => none

variable {setting : Setting} {c : Char}

private theorem ofName?_eq_some_iff {name : List Char} :
    ofName? name = some setting ↔ name = setting.name.toList := by
  constructor
  · intro h
    rw [ofName?, Option.map_eq_some_iff] at h
    obtain ⟨entry, hfind, rfl⟩ := h
    have hname : entry.1.toList = name := by simpa using List.find?_some hfind
    have hmem := List.mem_of_find?_eq_some hfind
    simp only [List.mem_cons, List.not_mem_nil, or_false] at hmem
    rcases hmem with rfl | rfl | rfl | rfl | rfl | rfl | rfl | rfl
    all_goals exact hname.symm
  · rintro rfl
    rcases setting with (_ | _ | _) | (_ | _ | _ | _ | _) <;> decide

private theorem equals_not_mem_name (setting : Setting) : '=' ∉ setting.name.toList := by
  rcases setting with (_ | _ | _) | (_ | _ | _ | _ | _) <;> decide

private theorem name_toList_ne_nil (setting : Setting) : setting.name.toList ≠ [] := by
  rcases setting with (_ | _ | _) | (_ | _ | _ | _ | _) <;> decide

private theorem ofLetter?_eq_some_iff : ofLetter? c = some setting ↔ setting.letter? = some c := by
  constructor
  · intro h
    unfold ofLetter? at h
    split at h
    all_goals cases h
    all_goals rfl
  · intro h
    rcases setting with (_ | _ | _) | (_ | _ | _ | _ | _) <;> cases h <;> rfl

end Setting

/-- Letters behind one dash, and words that follow, stand for choices. Only the last of the letters
can belong to an option that takes a value, which is attached to it, perhaps behind an equals sign,
or is the next word. -/
inductive Bundle : List Choice → List Char → List String → Prop where
  | flag {choice : Choice} {c : Char} :
      choice.setting.letter? = some c → choice.text? = none → Bundle [choice] [c] []
  | separate {choice : Choice} {c : Char} {text : String} :
      choice.setting.letter? = some c → choice.text? = some text → Bundle [choice] [c] [text]
  | attached {choice : Choice} {c : Char} {text : String} :
      choice.setting.letter? = some c → choice.text? = some text →
      Bundle [choice] (c :: text.toList) []
  | equals {choice : Choice} {c : Char} {text : String} :
      choice.setting.letter? = some c → choice.text? = some text →
      Bundle [choice] (c :: '=' :: text.toList) []
  | more {choice : Choice} {choices : List Choice} {c : Char} {letters : List Char}
      {words : List String} :
      choice.setting.letter? = some c → choice.text? = none → Bundle choices letters words →
      Bundle (choice :: choices) (c :: letters) words

/-- Words that belong together stand for choices: a name behind two dashes, its value behind an
equals sign or in the next word, or a bundle of letters behind one dash. -/
inductive Spells : List Choice → List String → Prop where
  | flag {choice : Choice} : choice.text? = none → Spells [choice] ["--" ++ choice.setting.name]
  | separate {choice : Choice} {text : String} :
      choice.text? = some text → Spells [choice] ["--" ++ choice.setting.name, text]
  | equals {choice : Choice} {text : String} :
      choice.text? = some text → Spells [choice] ["--" ++ choice.setting.name ++ "=" ++ text]
  | bundle {choices : List Choice} {letters : List Char} {words : List String} :
      Bundle choices letters words → Spells choices (("-" ++ String.ofList letters) :: words)

/-- Words are keys and spelled choices, each in their own order. -/
inductive Interleaved : List String → List Choice → List String → Prop where
  | done : Interleaved [] [] []
  | key {key : String} {keys words : List String} {choices : List Choice} :
      Interleaved keys choices words → Interleaved (key :: keys) choices (key :: words)
  | options {keys unit words : List String} {chosen choices : List Choice} :
      Spells chosen unit → Interleaved keys choices words →
      Interleaved keys (chosen ++ choices) (unit ++ words)

/-- A text that is a key wherever it stands: it does not begin with a dash, or it is a dash alone or
with digits behind it. -/
def IsKeyText (text : String) : Prop :=
  text.toList.head? ≠ some '-' ∨
    ∃ digits, text.toList = '-' :: digits ∧ ∀ c ∈ digits, c.isDigit = true

variable {keys words unit tail : List String} {chosen choices before rest : List Choice}
  {choice : Choice} {letters : List Char} {text : String}

private theorem Choice.exists_option_of_text? (h : choice.text? = some text) :
    ∃ option, choice.setting = .value option := by
  cases choice with
  | input | inputFormat | format => exact ⟨_, rfl⟩
  | _ => cases h

private theorem Choice.exists_flag_of_text? (h : choice.text? = none) :
    ∃ flag, choice.setting = .flag flag := by
  cases choice with
  | input | inputFormat | format => cases h
  | _ => exact ⟨_, rfl⟩

theorem IsKeyText.isKeyWord (h : IsKeyText text) : Reading.isKeyWord text.toList = true := by
  unfold Reading.isKeyWord
  split
  · next c rest htext =>
    rcases h with h | ⟨digits, hdash, hdigits⟩
    · rw [htext] at h
      exact absurd rfl h
    · cases htext.symm.trans hdash
      exact Reading.looksLikeNumber_of_digits (List.cons_ne_nil c rest) hdigits
  · rfl

private theorem Bundle.exists_letter (h : Bundle chosen letters words) :
    ∃ c more setting, letters = c :: more ∧ Setting.ofLetter? c = some setting := by
  cases h with
  | flag hc | separate hc | attached hc | equals hc | more hc =>
    exact ⟨_, _, _, rfl, Setting.ofLetter?_eq_some_iff.mpr hc⟩

private theorem Interleaved.append_keys (h : Interleaved keys choices words) (more : List String) :
    Interleaved (keys ++ more) choices (words ++ more) := by
  induction h with
  | done =>
    induction more with
    | nil => exact .done
    | cons key more ih => exact .key ih
  | key _ ih => exact .key ih
  | options hunit _ ih =>
    rw [List.append_assoc]
    exact .options hunit ih

namespace Reading

open Choice (Selection)

variable {s t : Reading} {x : Except UsageError Reading}

private theorem splitName_name {name : List Char} (h : '=' ∉ name) :
    splitName name = (name, none) := by
  have hname : name.takeWhile (· != '=') = name :=
    List.takeWhile_eq_self_iff.mpr fun c hc => bne_iff_ne.mpr (ne_of_mem_of_not_mem hc h)
  rw [splitName, hname, List.drop_length]

private theorem splitName_equals {name : List Char} (h : '=' ∉ name) (value : List Char) :
    splitName (name ++ '=' :: value) = (name, some value) := by
  have hname : (name ++ '=' :: value).takeWhile (· != '=') = name := by
    rw [List.takeWhile_append_of_pos fun c hc => bne_iff_ne.mpr (ne_of_mem_of_not_mem hc h)]
    simp
  rw [splitName, hname, List.drop_left]

private theorem step_long {body : List Char} (honly : s.onlyKeys = false) (h : body ≠ []) :
    s.step ('-' :: '-' :: body) = s.long body := by
  obtain ⟨c, rest, rfl⟩ := List.exists_cons_of_ne_nil h
  unfold step
  rw [honly]
  rfl

private theorem step_name (setting : Setting) (honly : s.onlyKeys = false) :
    s.step ("--" ++ setting.name).toList =
      match setting with
      | .value option => s.setValue option none
      | .flag flag => s.setFlag flag := by
  have hword : ("--" ++ setting.name).toList = '-' :: '-' :: setting.name.toList := by simp
  rw [hword, step_long honly setting.name_toList_ne_nil, long,
    splitName_name setting.equals_not_mem_name]
  dsimp only
  rw [Setting.ofName?_eq_some_iff.mpr rfl]
  cases setting <;> rfl

private theorem step_name_equals (setting : Setting) (honly : s.onlyKeys = false) (value : String) :
    s.step ("--" ++ setting.name ++ "=" ++ value).toList =
      match setting with
      | .value option => s.setValue option (some value.toList)
      | .flag _ => .error .unexpectedValue := by
  have hword : ("--" ++ setting.name ++ "=" ++ value).toList =
      '-' :: '-' :: (setting.name.toList ++ '=' :: value.toList) := by simp
  rw [hword, step_long honly (by simp), long, splitName_equals setting.equals_not_mem_name]
  dsimp only
  rw [Setting.ofName?_eq_some_iff.mpr rfl]
  cases setting <;> rfl

/-- What is read so far and further words amount to a reading: all that follows is read from there.
Whether the value of the last option is taken over by now does not matter. -/
def Amounts (x : Except UsageError Reading) (words : List String) (t : Reading) : Prop :=
  ∀ more, (x.bind (·.run (words.map String.toList ++ more))).bind finish = (t.run more).bind finish

private theorem amounts_ok (t : Reading) : Amounts (.ok t) [] t := fun _ => rfl

private theorem amounts_of_settles (h : s.Settles t) :
    Amounts (.ok s) [] t := bind_finish_of_settles h

theorem Amounts.cons {word : String} (h : Amounts (s.step word.toList) words t) :
    Amounts (.ok s) (word :: words) t := by
  intro more
  rw [← h more, List.map_cons, List.cons_append]
  change (s.run _).bind finish = _
  rw [run]
  cases s.step word.toList <;> rfl

theorem Amounts.append {u : Reading} (h : Amounts x unit s) (hrest : Amounts (.ok s) words u) :
    Amounts x (unit ++ words) u := by
  intro more
  rw [List.map_append, List.append_assoc, h, ← hrest more]
  rfl

private theorem step_of_head_ne {c : Char} (h : c ≠ '-') (rest : List Char)
    (honly : s.onlyKeys = false) :
    s.step (c :: rest) = s.plain (c :: rest) := by
  unfold step
  rw [honly, if_neg Bool.false_ne_true]
  split
  · next heq => exact absurd (List.cons.inj heq).1 h
  · next heq => exact absurd (List.cons.inj heq).1 h
  · next heq => exact absurd (List.cons.inj heq).1 h
  · rfl

section value

variable (keys : List String) (h : Selection (before ++ choice :: rest)) {option : ValueOption}
  (hoption : choice.setting = .value option) (ht : choice.text? = some text)

include h hoption ht

private theorem setValue_attached :
    Amounts ((ofChoices keys before).setValue option (some text.toList)) []
      (ofChoices keys (before ++ [choice])) := by
  have hassign := assign_ofChoices keys h hoption ht
  have hset : (ofChoices keys before).setValue option (some text.toList) =
      .ok (ofChoices keys (before ++ [choice])) := by
    rw [setValue, settle_ofChoices]
    exact hassign
  rw [hset]
  exact amounts_ok _

private theorem setValue_separate :
    Amounts ((ofChoices keys before).setValue option none) [text]
      (ofChoices keys (before ++ [choice])) := by
  obtain ⟨c, more, htext, hdash, _⟩ := h.isPathText (by simp) ht
  have hassign := assign_ofChoices keys h hoption ht
  let waiting : Reading := { ofChoices keys before with pending := some (option, none) }
  let valued : Reading :=
    { ofChoices keys before with pending := some (option, some text.toList) }
  have hset : (ofChoices keys before).setValue option none = .ok waiting := by
    rw [setValue, settle_ofChoices]
    rfl
  have hstep : waiting.step text.toList = .ok valued := by
    rw [htext, step_of_head_ne hdash more rfl, ← htext]
    rfl
  have hvalued : valued.Settles (ofChoices keys (before ++ [choice])) := .inr hassign
  rw [hset]
  apply Amounts.cons
  rw [hstep]
  exact amounts_of_settles hvalued

end value

private theorem letters_of_bundle (keys : List String) (hb : Bundle chosen letters words)
    (h : Selection (before ++ (chosen ++ rest))) :
    Amounts ((ofChoices keys before).letters letters) words
      (ofChoices keys (before ++ chosen)) := by
  -- By the letters: a flag leaves the reading ready for the next one.
  induction hb generalizing before with
  | flag hc ht =>
    obtain ⟨flag, hflag⟩ := Choice.exists_flag_of_text? ht
    rw [Reading.letters, Setting.ofLetter?_eq_some_iff.mpr hc, hflag]
    dsimp only
    rw [setFlag_ofChoices keys h hflag]
    exact amounts_ok _
  | separate hc ht =>
    obtain ⟨option, hoption⟩ := Choice.exists_option_of_text? ht
    rw [Reading.letters, Setting.ofLetter?_eq_some_iff.mpr hc, hoption]
    exact setValue_separate keys h hoption ht
  | attached hc ht =>
    obtain ⟨option, hoption⟩ := Choice.exists_option_of_text? ht
    obtain ⟨d, more, htext, _, hequals⟩ := h.isPathText (by simp) ht
    rw [Reading.letters, Setting.ofLetter?_eq_some_iff.mpr hc, hoption]
    dsimp only
    split
    · next hnil => cases htext.symm.trans hnil
    · next value heq =>
      rw [htext] at heq
      exact absurd (List.cons.inj heq).1 hequals
    · exact setValue_attached keys h hoption ht
  | equals hc ht =>
    obtain ⟨option, hoption⟩ := Choice.exists_option_of_text? ht
    rw [Reading.letters, Setting.ofLetter?_eq_some_iff.mpr hc, hoption]
    exact setValue_attached keys h hoption ht
  | @more choice choices c letters words hc ht _ ih =>
    obtain ⟨flag, hflag⟩ := Choice.exists_flag_of_text? ht
    rw [Reading.letters, Setting.ofLetter?_eq_some_iff.mpr hc, hflag]
    dsimp only
    rw [setFlag_ofChoices keys h hflag]
    have hnext : before ++ [choice] ++ choices = before ++ choice :: choices := by simp
    rw [← hnext]
    exact ih (by simpa using h)

private theorem amounts_of_spells (keys : List String) (hu : Spells chosen unit)
    (h : Selection (before ++ (chosen ++ rest))) :
    Amounts (.ok (ofChoices keys before)) unit (ofChoices keys (before ++ chosen)) := by
  cases hu with
  | @flag choice ht =>
    obtain ⟨flag, hflag⟩ := Choice.exists_flag_of_text? ht
    apply Amounts.cons
    rw [step_name _ rfl, hflag]
    dsimp only
    rw [setFlag_ofChoices keys h hflag]
    exact amounts_ok _
  | @separate choice text ht =>
    obtain ⟨option, hoption⟩ := Choice.exists_option_of_text? ht
    apply Amounts.cons
    rw [step_name _ rfl, hoption]
    exact setValue_separate keys h hoption ht
  | @equals choice text ht =>
    obtain ⟨option, hoption⟩ := Choice.exists_option_of_text? ht
    apply Amounts.cons
    rw [step_name_equals _ rfl, hoption]
    exact setValue_attached keys h hoption ht
  | @bundle _ letters words hb =>
    obtain ⟨c, more, setting, rfl, hc⟩ := hb.exists_letter
    have hword : ("-" ++ String.ofList (c :: more)).toList = '-' :: c :: more := by simp
    apply Amounts.cons
    rw [hword, step_bundle more rfl hc]
    exact letters_of_bundle keys hb h

/-- Words with keys and choices amount to the keys and the choices, by the words. -/
private theorem amounts_of_interleaved (earlier : List String) (hw : Interleaved keys choices words)
    (hkeys : ∀ key ∈ keys, IsKeyText key) (h : Selection (before ++ choices)) :
    Amounts (.ok (ofChoices earlier before)) words
      (ofChoices (earlier ++ keys) (before ++ choices)) := by
  induction hw generalizing earlier before with
  | done =>
    rw [List.append_nil, List.append_nil]
    exact amounts_ok _
  | @key key keys words choices _ ih =>
    have hkey := (hkeys key List.mem_cons_self).isKeyWord
    have hrest := ih (earlier ++ [key]) (fun other hm => hkeys other (List.mem_cons_of_mem _ hm)) h
    have hstep : (ofChoices earlier before).step key.toList =
        .ok (ofChoices (earlier ++ [key]) before) := by
      rw [step_of_isKeyWord rfl hkey, addKey_of_pending rfl, String.ofList_toList]
      rfl
    rw [List.append_assoc] at hrest
    apply Amounts.cons
    rw [hstep]
    exact hrest
  | options hunit _ ih =>
    have hfirst := amounts_of_spells earlier hunit h
    rw [← List.append_assoc] at h ⊢
    exact hfirst.append (ih earlier hkeys h)

private theorem finish_ofChoices (h : keys ≠ []) (choices : List Choice) :
    (ofChoices keys choices).finish = .ok (.ofChoices keys choices) := by
  have hempty : keys.isEmpty = false := by simpa using h
  change (if keys.isEmpty then Except.error UsageError.missingKeys else Except.ok _) = _
  rw [hempty]
  rfl

private theorem run_dashes_ofChoices (keys : List String) (choices : List Choice)
    (tail : List String) :
    (ofChoices keys choices).run (("--" :: tail).map String.toList) =
      .ok { ofChoices (keys ++ tail) choices with onlyKeys := true } := by
  have hdashes : (ofChoices keys choices).step "--".toList =
      .ok { ofChoices keys choices with onlyKeys := true } := rfl
  rw [List.map_cons, run, hdashes]
  dsimp only
  rw [run_of_onlyKeys rfl rfl]
  simp [withKeys, ofChoices, Arguments.ofChoices]

private theorem amounts_start (hw : Interleaved keys choices words)
    (hkeys : ∀ key ∈ keys, IsKeyText key)
    (h : Selection choices) : Amounts (.ok start) words (ofChoices keys choices) := by
  have h : Selection ([] ++ choices) := h
  exact amounts_of_interleaved [] hw hkeys h

end Reading

section parse

variable (hw : Interleaved keys choices words) (hkeys : ∀ key ∈ keys, IsKeyText key)
  (h : Choice.Selection choices)

include hw hkeys h

theorem Arguments.parse_of_interleaved (hne : keys ≠ []) :
    parse words = .ok (.ofChoices keys choices) := by
  have hamounts := Reading.amounts_start hw hkeys h []
  rw [List.append_nil] at hamounts
  exact hamounts.trans (Reading.finish_ofChoices hne choices)

theorem Arguments.parse_append_dashes (hne : keys ++ tail ≠ []) :
    parse (words ++ "--" :: tail) = .ok (.ofChoices (keys ++ tail) choices) := by
  have hamounts := Reading.amounts_start hw hkeys h (("--" :: tail).map String.toList)
  rw [← List.map_append, Reading.run_dashes_ofChoices] at hamounts
  exact hamounts.trans (Reading.finish_ofChoices hne choices)

/-- Wherever options stand among keys, and however they are spelled, the words are read as these
keys in their order and as these options. Two dashes in front of further keys make no difference,
but behind them any text is a key as it stands. -/
theorem Arguments.parse_interleaved :
    (keys ≠ [] → parse words = .ok (.ofChoices keys choices)) ∧
    ∀ tail : List String, keys ++ tail ≠ [] →
      parse (words ++ "--" :: tail) = .ok (.ofChoices (keys ++ tail) choices) ∧
      ((∀ key ∈ tail, IsKeyText key) → parse (words ++ "--" :: tail) = parse (words ++ tail)) := by
  refine ⟨Arguments.parse_of_interleaved hw hkeys h, ?_⟩
  intro tail hne
  have hdashes := Arguments.parse_append_dashes hw hkeys h hne
  refine ⟨hdashes, ?_⟩
  intro htail
  have hall : ∀ key ∈ keys ++ tail, IsKeyText key := by
    intro key hm
    rcases List.mem_append.mp hm with hm | hm
    · exact hkeys key hm
    · exact htail key hm
  exact hdashes.trans (Arguments.parse_of_interleaved (hw.append_keys tail) hall h hne).symm

end parse

/-- Flags in one bundle with an option whose value is the next word, a negative number and an empty
text as keys, and behind two dashes a key that is spelled like an option. -/
theorem Arguments.parse_interleaved_bundled :
    let keys := ["-1", ""]
    let choices : List Choice := [.verbose, .quiet, .format .inspect, .input "doc", .verbose]
    let words := ["-vqf", "inspect", "-1", "--input=doc", "", "-v"]
    Interleaved keys choices words ∧ (∀ key ∈ keys, IsKeyText key) ∧ Choice.Selection choices ∧
      parse words = .ok ⟨["-1", ""], some "doc", none, .inspect, false, false, 2, true⟩ ∧
      parse (words ++ ["--", "--strict"]) =
        .ok ⟨["-1", "", "--strict"], some "doc", none, .inspect, false, false, 2, true⟩ ∧
      parse (words ++ ["--", "a"]) = parse (words ++ ["a"]) := by
  intro keys choices words
  have hletters : Bundle [.verbose, .quiet, .format .inspect] ['v', 'q', 'f'] ["inspect"] :=
    .more rfl rfl (.more rfl rfl (.separate rfl rfl))
  have hbundle : Spells [.verbose, .quiet, .format .inspect] ["-vqf", "inspect"] := .bundle hletters
  have hinput : Spells [.input "doc"] ["--" ++ "input" ++ "=" ++ "doc"] := .equals rfl
  have hverbose : Bundle [.verbose] ['v'] [] := .flag rfl rfl
  have hw : Interleaved keys choices words :=
    .options hbundle (.key (.options hinput (.key (.options (.bundle hverbose) .done))))
  have hkeys : ∀ key ∈ keys, IsKeyText key := by
    intro key hm
    rcases List.mem_cons.mp hm with rfl | hm
    · refine .inr ⟨['1'], rfl, ?_⟩
      intro c hc
      cases List.mem_singleton.mp hc
      rfl
    · cases List.mem_singleton.mp hm
      exact .inl nofun
  have h : Choice.Selection choices := by
    constructor
    · rintro ((_ | _ | _) | (_ | _ | _ | _ | _)) hne
      all_goals first | decide | exact absurd rfl hne
    · intro path hm
      have hpath : path = "doc" := by simpa [choices] using hm
      subst hpath
      exact ⟨'d', ['o', 'c'], rfl, by decide, by decide⟩
  obtain ⟨hparse, htail⟩ := Arguments.parse_interleaved hw hkeys h
  have ha : ∀ key ∈ ["a"], IsKeyText key := by
    intro key hm
    cases List.mem_singleton.mp hm
    exact .inl (by decide)
  exact ⟨hw, hkeys, h, hparse nofun, (htail ["--strict"] nofun).1, (htail ["a"] nofun).2 ha⟩

end KeyPath.Command
