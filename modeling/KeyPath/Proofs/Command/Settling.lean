import KeyPath.Proofs.Command.Muted
/-!
# Command lines without flags for verbosity

The value of an option is taken over when the next option or key is read; a flag for verbosity makes
that happen earlier, which makes no difference. So a command line without its flags for verbosity
is read as the same arguments, but for the verbosity, and that is decided by the flags alone.
-/

namespace KeyPath.Command

namespace Reading

private theorem eq_of_note_eq_ok {s t : Reading} {setting : Setting} (h : s.note setting = .ok t) :
    t = { s with given := setting :: s.given } := by
  rw [note] at h
  split at h
  · cases h
  · cases h
    rfl

/-- The reading with another option that waits and another kind of words that follow. -/
def awaiting (s : Reading) (pending : Option (ValueOption × Option (List Char)))
    (onlyKeys : Bool) : Reading :=
  { s with pending, onlyKeys }

private theorem assign_awaiting (s : Reading) (pending : Option (ValueOption × Option (List Char)))
    (onlyKeys : Bool) (option : ValueOption) (value : List Char) :
    (s.awaiting pending onlyKeys).assign option value =
      (s.assign option value).map (·.awaiting pending onlyKeys) := by
  have hgiven : (s.awaiting pending onlyKeys).given = s.given := rfl
  rw [assign, assign, note, note, hgiven]
  cases s.given.contains (.value option) with
  | true => rfl
  | false =>
    cases option with
    | input => cases value <;> rfl
    | inputFormat =>
      change Except.bind (.ok _) _ = Except.map _ (Except.bind (.ok _) _)
      dsimp only [Except.bind]
      cases DocumentFormat.ofName? (String.ofList value) false <;> rfl
    | format =>
      change Except.bind (.ok _) _ = Except.map _ (Except.bind (.ok _) _)
      dsimp only [Except.bind]
      cases ReportFormat.ofName? (String.ofList value) false <;> rfl

private theorem pending_of_assign {s t : Reading} {option : ValueOption} {value : List Char}
    (h : s.assign option value = .ok t) : t.pending = s.pending := by
  have hawaiting := s.assign_awaiting s.pending s.onlyKeys option value
  have hself : s.awaiting s.pending s.onlyKeys = s := rfl
  rw [hself, h] at hawaiting
  rw [Except.ok.inj hawaiting]
  rfl

private theorem pending_of_settle {s t : Reading} (h : s.settle = .ok t) : t.pending = none := by
  unfold settle at h
  split at h
  · next hp =>
    cases h
    exact hp
  · cases h
  · exact pending_of_assign h

theorem settle_of_pending_eq_none {s : Reading} (h : s.pending = none) : s.settle = .ok s := by
  rw [settle, h]

section settle

variable {s t : Reading} (h : s.settle = .ok t)

include h

private theorem addKey_of_settle (word : List Char) : s.addKey word = t.addKey word := by
  rw [addKey, addKey, h, settle_of_pending_eq_none (pending_of_settle h)]

private theorem setFlag_of_settle (flag : Flag) : s.setFlag flag = t.setFlag flag := by
  rw [setFlag, setFlag, h, settle_of_pending_eq_none (pending_of_settle h)]

private theorem setValue_of_settle (option : ValueOption) (attached : Option (List Char)) :
    s.setValue option attached = t.setValue option attached := by
  rw [setValue, setValue, h, settle_of_pending_eq_none (pending_of_settle h)]

private theorem plain_of_settle (word : List Char) : s.plain word = t.plain word := by
  have hkey := addKey_of_settle h word
  unfold plain
  rw [pending_of_settle h]
  split
  · next option hp =>
    rw [settle, hp] at h
    cases h
  · exact hkey

private theorem long_of_settle (body : List Char) : s.long body = t.long body := by
  unfold long
  obtain ⟨name, attached⟩ := splitName body
  dsimp only
  cases Setting.ofName? name with
  | none => rfl
  | some setting =>
    cases setting with
    | value option => exact setValue_of_settle h option attached
    | flag flag =>
      dsimp only
      rw [setFlag_of_settle h]

private theorem letters_of_settle (c : Char) (rest : List Char) :
    s.letters (c :: rest) = t.letters (c :: rest) := by
  unfold letters
  cases Setting.ofLetter? c with
  | none => rfl
  | some setting =>
    cases setting with
    | value option =>
      dsimp only
      split
      all_goals exact setValue_of_settle h option _
    | flag flag =>
      dsimp only
      rw [setFlag_of_settle h]

private theorem step_of_settle {word : List Char} (hdashes : word ≠ ['-', '-']) :
    s.step word = t.step word := by
  have honly : t.onlyKeys = s.onlyKeys := (isMute_settle.keeps s t h).2.2
  -- Two dashes are the only word that leaves the value of the last option where it is.
  unfold step
  rw [honly]
  split
  · exact addKey_of_settle h word
  · split
    · exact absurd rfl hdashes
    · exact long_of_settle h _
    · rw [letters_of_settle h, plain_of_settle h]
    · exact plain_of_settle h word

end settle

private theorem settle_onlyKeys {s t : Reading} (h : s.settle = .ok t) :
    ({ s with onlyKeys := true } : Reading).settle = .ok { t with onlyKeys := true } := by
  have hpending := pending_of_settle h
  unfold settle at h
  split at h
  · next hp =>
    cases h
    exact settle_of_pending_eq_none hp
  · cases h
  · next option value hp =>
    have hassign := assign_awaiting { s with pending := none } none true option value
    rw [h] at hassign
    rw [settle, hp]
    refine hassign.trans (congrArg Except.ok ?_)
    simp only [awaiting, hpending]

/-- A reading, or the same reading after the value of its last option is taken over. -/
def Settles (s t : Reading) : Prop := s = t ∨ s.settle = .ok t

/-- It makes no difference when the value of the last option is taken over. -/
theorem bind_finish_of_settles {s t : Reading} (h : s.Settles t) (words : List (List Char)) :
    (s.run words).bind finish = (t.run words).bind finish := by
  induction words generalizing s t with
  | nil =>
    rcases h with rfl | h
    · rfl
    · change s.finish = t.finish
      rw [finish, finish, h, settle_of_pending_eq_none (pending_of_settle h)]
  | cons word rest ih =>
    rcases h with rfl | h
    · rfl
    · by_cases hdashes : word = ['-', '-']
      · subst hdashes
        have honly : t.onlyKeys = s.onlyKeys := (isMute_settle.keeps s t h).2.2
        rw [run, run, step, step, honly, addKey_of_settle h]
        cases s.onlyKeys with
        | true => rfl
        | false => exact ih (.inr (settle_onlyKeys h))
      · rw [run, run, step_of_settle h hdashes]

private theorem setFlag_verbosity {s u : Reading} {flag : Flag}
    (hflag : flag = .verbose ∨ flag = .quiet) (h : s.setFlag flag = .ok u) :
    s.muted.settle = .ok u.muted ∧ u.pending = none ∧ u.onlyKeys = s.onlyKeys ∧
      u.arguments.verbose =
        (if flag = .verbose then min 255 (s.arguments.verbose + 1) else s.arguments.verbose) ∧
      u.arguments.quiet = (s.arguments.quiet || flag == .quiet) := by
  obtain ⟨t, hs, h⟩ := exists_of_bind_eq_ok h
  obtain ⟨hverbose, hquiet, honly⟩ := isMute_settle.keeps s t hs
  have hpending := pending_of_settle hs
  rw [isMute_settle.map_muted, hs]
  rcases hflag with rfl | rfl
  · cases h
    refine ⟨rfl, hpending, honly, ?_, ?_⟩
    · simp [hverbose]
    · simp [hquiet]
  · obtain ⟨v, hnote, h⟩ := exists_of_bind_eq_ok h
    have hv := eq_of_note_eq_ok hnote
    subst hv
    cases h
    refine ⟨?_, hpending, honly, ?_, ?_⟩
    · simp [muted, Except.map, Arguments.muted]
    · simp [hverbose]
    · simp

private theorem foldlM_setFlag {flags : List Flag} {s u : Reading}
    (hflags : ∀ flag ∈ flags, flag = .verbose ∨ flag = .quiet)
    (hs : s.arguments.verbose ≤ 255) (h : flags.foldlM setFlag s = .ok u) :
    s.muted.Settles u.muted ∧ u.onlyKeys = s.onlyKeys ∧
      u.arguments.verbose = min 255 (s.arguments.verbose + flags.count .verbose) ∧
      u.arguments.quiet = (s.arguments.quiet || flags.contains .quiet) := by
  induction flags generalizing s with
  | nil =>
    cases h
    refine ⟨.inl rfl, rfl, ?_, ?_⟩
    · rw [List.count_nil]
      omega
    · simp
  | cons flag rest ih =>
    rw [List.foldlM_cons] at h
    obtain ⟨t, ht, h⟩ := exists_of_bind_eq_ok h
    obtain ⟨hsettle, hpending, honly, hverbose, hquiet⟩ :=
      setFlag_verbosity (hflags flag List.mem_cons_self) ht
    have hbound : t.arguments.verbose ≤ 255 := by
      rw [hverbose]
      split <;> omega
    obtain ⟨hrest, honlyRest, hverboseRest, hquietRest⟩ :=
      ih (fun f hf => hflags f (List.mem_cons_of_mem _ hf)) hbound h
    have hsame : t.muted = u.muted := by
      rcases hrest with hsame | hsettled
      · exact hsame
      · rw [settle_of_pending_eq_none (show t.muted.pending = none from hpending)] at hsettled
        exact Except.ok.inj hsettled
    refine ⟨.inr (hsame ▸ hsettle), honlyRest.trans honly, ?_, ?_⟩
    · rw [hverboseRest, hverbose, List.count_cons]
      rcases hflags flag List.mem_cons_self with rfl | rfl
      · simp
        omega
      · simp
    · rw [hquietRest, hquiet, List.contains_cons, Bool.or_assoc, Bool.beq_comm]

/-- A reading comes from another by what is left of a word, which is not two dashes and gives no
further flag for verbosity. -/
def ReadsLeft (t u : Reading) : Option (List Char) → Prop
  | none => t = u
  | some left =>
    left ≠ ['-', '-'] ∧ (splitWord left).1 = [] ∧ (t.onlyKeys = false → t.step left = .ok u)

private theorem exists_setFlag_of_named {s : Reading} {word : List Char}
    (honly : s.onlyKeys = false) (hword : word = "--verbose".toList ∨ word = "--quiet".toList) :
    ∃ flag, splitWord word = ([flag], none) ∧ s.step word = s.setFlag flag := by
  rcases hword with rfl | rfl
  · refine ⟨.verbose, rfl, ?_⟩
    unfold step
    rw [honly]
    rfl
  · refine ⟨.quiet, rfl, ?_⟩
    unfold step
    rw [honly]
    rfl

private theorem readsLeft_of_splitLetters {t u : Reading} {letters left : List Char} {d : Char}
    (hsplit : (splitLetters letters).2 = d :: left) (h : t.letters (d :: left) = .ok u) :
    ReadsLeft t u (some ('-' :: d :: left)) := by
  obtain ⟨setting, hsetting⟩ : ∃ setting, Setting.ofLetter? d = some setting := by
    unfold Reading.letters at h
    cases hd : Setting.ofLetter? d with
    | none =>
      rw [hd] at h
      cases h
    | some setting => exact ⟨setting, rfl⟩
  have hdash : d ≠ '-' := by
    rintro rfl
    cases hsetting
  refine ⟨?_, ?_, ?_⟩
  · intro hdashes
    exact hdash (List.cons.inj (List.cons.inj hdashes).2).1
  · rw [splitWord_bundle hdash, splitLetters, verbosityFlag?_of_splitLetters hsplit]
  · intro honly
    rw [step_bundle left honly hsetting]
    exact h

private theorem step_splitWord {s u : Reading} {word : List Char} (honly : s.onlyKeys = false)
    (hdashes : word ≠ ['-', '-']) (h : s.step word = .ok u) :
    ∃ t, (splitWord word).1.foldlM setFlag s = .ok t ∧ ReadsLeft t u (splitWord word).2 := by
  have hnamed (hword : word = "--verbose".toList ∨ word = "--quiet".toList) :
      ∃ t, (splitWord word).1.foldlM setFlag s = .ok t ∧ ReadsLeft t u (splitWord word).2 := by
    obtain ⟨flag, hsplit, hstep⟩ := exists_setFlag_of_named honly hword
    rw [hsplit]
    refine ⟨u, ?_, rfl⟩
    change s.setFlag flag >>= pure = .ok u
    rw [← hstep, h]
    rfl
  rcases splitWord_cases word with hnone | hverbose | hquiet | ⟨c, rest, flag, rfl, hc⟩
  · rw [hnone, splitWord_of_flags_eq_nil hnone]
    exact ⟨s, rfl, hdashes, hnone, fun _ => h⟩
  · exact hnamed (.inl hverbose)
  · exact hnamed (.inr hquiet)
  · have hsetting := ofLetter?_of_verbosityFlag? hc
    have hdash : c ≠ '-' := by
      rintro rfl
      cases hc
    have hflags : (splitLetters (c :: rest)).1 ≠ [] := by
      rw [splitLetters, hc]
      exact List.cons_ne_nil flag _
    rw [step_bundle rest honly hsetting, letters_eq_bind_splitLetters] at h
    obtain ⟨t, hfold, hleft⟩ := exists_of_bind_eq_ok h
    rw [splitWord_bundle hdash]
    refine ⟨t, hfold, ?_⟩
    cases hrest : (splitLetters (c :: rest)).2 with
    | nil =>
      rw [hrest] at hleft
      have hnone : (List.isEmpty ([] : List Char) && !(splitLetters (c :: rest)).1.isEmpty) =
          true := by
        simpa using hflags
      rw [if_pos hnone]
      exact Except.ok.inj hleft
    | cons d left =>
      rw [hrest] at hleft
      exact readsLeft_of_splitLetters hrest hleft

/-- One word: without its flags for verbosity, what is left of it leads to the reading without such
flags, or to the same reading before the value of the last option is taken over. The flags are
counted. -/
private theorem step_withoutFlags {s u : Reading} {word : List Char} (honly : s.onlyKeys = false)
    (hs : s.arguments.verbose ≤ 255) (hdashes : word ≠ ['-', '-']) (h : s.step word = .ok u) :
    (∀ rest, (s.muted.run ((splitWord word).2.toList ++ rest)).bind finish =
      (u.muted.run rest).bind finish) ∧
      u.onlyKeys = false ∧
      u.arguments.verbose =
        min 255 (s.arguments.verbose + (splitWord word).1.count .verbose) ∧
      u.arguments.quiet = (s.arguments.quiet || (splitWord word).1.contains .quiet) := by
  obtain ⟨t, hfold, hreads⟩ := step_splitWord honly hdashes h
  obtain ⟨hsettles, honlyt, hverbose, hquiet⟩ :=
    foldlM_setFlag (fun _ => eq_of_mem_splitWord) hs hfold
  cases hleft : (splitWord word).2 with
  | none =>
    rw [hleft] at hreads
    obtain rfl := hreads
    exact ⟨bind_finish_of_settles hsettles, honlyt.trans honly, hverbose, hquiet⟩
  | some left =>
    rw [hleft] at hreads
    obtain ⟨hleftdashes, hflags, hstep⟩ := hreads
    have hmute := isMute_step hleftdashes hflags
    have hu := hstep (honlyt.trans honly)
    obtain ⟨hverboseu, hquietu, honlyu⟩ := hmute.keeps t u hu
    have hword : t.muted.step left = .ok u.muted := by
      rw [hmute.map_muted, hu]
      rfl
    refine ⟨?_, honlyu.trans (honlyt.trans honly), hverboseu.trans hverbose, hquietu.trans hquiet⟩
    intro rest
    rw [bind_finish_of_settles hsettles]
    change (t.muted.run (left :: rest)).bind finish = _
    rw [run, hword]

/-- Words that are accepted are accepted without their flags for verbosity, too. They are read as
the same arguments but for the verbosity, which counts these flags. -/
private theorem run_withoutFlags {s : Reading} {words : List (List Char)} {arguments : Arguments}
    (honly : s.onlyKeys = false) (hs : s.arguments.verbose ≤ 255)
    (h : (s.run words).bind finish = .ok arguments) :
    (s.muted.run (withoutFlags words)).bind finish = .ok arguments.muted ∧
      arguments.verbose =
        min 255 (s.arguments.verbose + (verbosityFlags words).count .verbose) ∧
      arguments.quiet = (s.arguments.quiet || (verbosityFlags words).contains .quiet) := by
  induction words generalizing s with
  | nil =>
    have hok : IsMute fun s => .ok s := isMute_ok fun _ => ⟨rfl, rfl, rfl, rfl⟩
    obtain ⟨hmuted, hverbose, hquiet⟩ := finish_of_isMute (s := s) hok h
    refine ⟨hmuted, ?_, ?_⟩
    · rw [hverbose, verbosityFlags, List.count_nil]
      omega
    · rw [hquiet, verbosityFlags, List.contains_nil, Bool.or_false]
  | cons word rest ih =>
    by_cases hdashes : word = ['-', '-']
    · subst hdashes
      rw [run_dashes honly] at h
      obtain ⟨hmuted, hverbose, hquiet⟩ := finish_of_isMute (isMute_keys rest) h
      rw [withoutFlags, verbosityFlags, if_pos rfl, if_pos rfl, run_dashes (s := s.muted) honly]
      refine ⟨hmuted, ?_, ?_⟩
      · rw [hverbose, List.count_nil]
        exact (Nat.min_eq_right hs).symm
      · rw [hquiet, List.contains_nil, Bool.or_false]
    · rw [run] at h
      cases hstep : s.step word with
      | error e =>
        rw [hstep] at h
        cases h
      | ok u =>
        rw [hstep] at h
        obtain ⟨hrun, honlyu, hverboseu, hquietu⟩ := step_withoutFlags honly hs hdashes hstep
        obtain ⟨hmuted, hverbose, hquiet⟩ := ih honlyu (by omega) h
        rw [withoutFlags, verbosityFlags, if_neg hdashes, if_neg hdashes, List.count_append]
        refine ⟨(hrun _).trans hmuted, ?_, ?_⟩
        · omega
        · rw [hquiet, hquietu]
          simp [Bool.or_assoc]

end Reading

theorem Verbosity.ofFlags_min (steps : Nat) (silent : Bool) :
    ofFlags (min 255 (0 + steps)) silent = ofFlags steps silent := by
  by_cases h : steps ≤ 255
  · rw [Nat.zero_add, Nat.min_eq_right h]
  · have hmany : ∀ n, 3 ≤ n → ofFlags n silent = if silent then quiet else trace := by
      rintro (_ | _ | _ | n) hn
      · omega
      · omega
      · omega
      · rfl
    rw [hmany _ (by omega), hmany _ (by omega)]

/-- Words that are accepted are read as the same arguments without their flags for verbosity, but
for the verbosity. Any number of flags counts, quiet or not. -/
theorem Arguments.parse_withoutFlags {words : List String} {arguments : Arguments}
    (h : Arguments.parse words = .ok arguments) :
    Arguments.parse ((withoutFlags (words.map String.toList)).map String.ofList) =
        .ok arguments.muted ∧
      arguments.verbosity =
        .ofFlags ((verbosityFlags (words.map String.toList)).count .verbose)
          ((verbosityFlags (words.map String.toList)).contains .quiet) := by
  obtain ⟨hparse, hverbose, hquiet⟩ := Reading.run_withoutFlags rfl (Nat.zero_le 255) h
  have hstart : Reading.start.muted = Reading.start := rfl
  constructor
  · rw [parse, List.map_map]
    simpa [Function.comp_def, hstart] using hparse
  · rw [verbosity, hverbose, hquiet]
    exact Verbosity.ofFlags_min _ _

end KeyPath.Command
