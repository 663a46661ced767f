import KeyPath.Proofs.Command.Flags
/-!
# Readings without flags for verbosity

A word that gives no flag for verbosity is read alike whether such flags were given before or not.
-/

namespace KeyPath.Command

/-- The arguments without flags for verbosity. -/
def Arguments.muted (arguments : Arguments) : Arguments :=
  { arguments with verbose := 0, quiet := false }

theorem exists_of_bind_eq_ok {ε α β : Type} {x : Except ε α} {f : α → Except ε β} {b : β}
    (h : x >>= f = .ok b) : ∃ a, x = .ok a ∧ f a = .ok b := by
  cases x with
  | error e => cases h
  | ok a => exact ⟨a, rfl, h⟩

namespace Reading

/-- The reading without flags for verbosity. -/
def muted (s : Reading) : Reading :=
  { s with arguments := s.arguments.muted, given := s.given.filter (· != .flag .quiet) }

/-- A step that has nothing to do with verbosity: it makes the same of a reading without flags for
verbosity, and it leaves these flags, and the kind of words that follow, as they were. -/
structure IsMute (f : Reading → Except UsageError Reading) : Prop where
  map_muted (s : Reading) : f s.muted = (f s).map muted
  keeps (s t : Reading) : f s = .ok t →
    t.arguments.verbose = s.arguments.verbose ∧ t.arguments.quiet = s.arguments.quiet ∧
      t.onlyKeys = s.onlyKeys

theorem IsMute.bind {f g : Reading → Except UsageError Reading} (hf : IsMute f) (hg : IsMute g) :
    IsMute fun s => f s >>= g := by
  constructor
  · intro s
    rw [hf.map_muted]
    cases f s with
    | error e => rfl
    | ok t => exact hg.map_muted t
  · intro s u h
    obtain ⟨t, hs, h⟩ := exists_of_bind_eq_ok h
    have hfirst := hf.keeps s t hs
    have hsecond := hg.keeps t u h
    exact ⟨hsecond.1.trans hfirst.1, hsecond.2.1.trans hfirst.2.1, hsecond.2.2.trans hfirst.2.2⟩

private theorem isMute_error (e : UsageError) : IsMute fun _ => .error e := by
  constructor
  · intro s
    rfl
  · intro s t h
    cases h

theorem isMute_ok {g : Reading → Reading}
    (hg : ∀ s, g s.muted = (g s).muted ∧ (g s).arguments.verbose = s.arguments.verbose ∧
      (g s).arguments.quiet = s.arguments.quiet ∧ (g s).onlyKeys = s.onlyKeys) :
    IsMute fun s => .ok (g s) := by
  constructor
  · intro s
    exact congrArg Except.ok (hg s).1
  · intro s t h
    cases h
    exact (hg s).2

private theorem isMute_note {setting : Setting} (h : setting ≠ .flag .quiet) :
    IsMute (note · setting) := by
  have hgiven (s : Reading) : s.muted.given.contains setting = s.given.contains setting := by
    simp [muted, List.contains_eq_mem, h]
  constructor
  · intro s
    rw [note, note, hgiven]
    cases s.given.contains setting with
    | true => rfl
    | false => simp [Except.map, muted, h]
  · intro s t ht
    rw [note] at ht
    split at ht
    · cases ht
    · cases ht
      exact ⟨rfl, rfl, rfl⟩

private theorem isMute_assign (option : ValueOption) (value : List Char) :
    IsMute (assign · option value) := by
  unfold assign
  have hnote : IsMute (note · (.value option)) := isMute_note nofun
  apply hnote.bind
  cases option with
  | input =>
    cases value with
    | nil => exact isMute_error _
    | cons c rest => exact isMute_ok fun _ => ⟨rfl, rfl, rfl, rfl⟩
  | inputFormat =>
    dsimp only
    cases DocumentFormat.ofName? (String.ofList value) false with
    | none => exact isMute_error _
    | some format => exact isMute_ok fun _ => ⟨rfl, rfl, rfl, rfl⟩
  | format =>
    dsimp only
    cases ReportFormat.ofName? (String.ofList value) false with
    | none => exact isMute_error _
    | some format => exact isMute_ok fun _ => ⟨rfl, rfl, rfl, rfl⟩

theorem isMute_settle : IsMute settle := by
  have hassign (s : Reading) (option : ValueOption) (value : List Char) :=
    (isMute_assign option value).keeps { s with pending := none }
  constructor
  · intro s
    have hpending : s.muted.pending = s.pending := rfl
    rw [settle, settle, hpending]
    rcases s.pending with _ | ⟨option, _ | value⟩
    · rfl
    · rfl
    · exact (isMute_assign option value).map_muted { s with pending := none }
  · intro s t h
    rw [settle] at h
    rcases hp : s.pending with _ | ⟨option, _ | value⟩
    · rw [hp] at h
      cases h
      exact ⟨rfl, rfl, rfl⟩
    · rw [hp] at h
      cases h
    · rw [hp] at h
      exact hassign s option value t h

private theorem isMute_setFlag {flag : Flag} (hverbose : flag ≠ .verbose) (hquiet : flag ≠ .quiet) :
    IsMute (setFlag · flag) := by
  unfold setFlag
  apply isMute_settle.bind
  cases flag with
  | help => exact isMute_error _
  | verbose => exact absurd rfl hverbose
  | quiet => exact absurd rfl hquiet
  | symbolizeKeys =>
    have hnote : IsMute (note · (.flag .symbolizeKeys)) := isMute_note nofun
    exact hnote.bind (isMute_ok fun _ => ⟨rfl, rfl, rfl, rfl⟩)
  | strict =>
    have hnote : IsMute (note · (.flag .strict)) := isMute_note nofun
    exact hnote.bind (isMute_ok fun _ => ⟨rfl, rfl, rfl, rfl⟩)

private theorem isMute_setValue (option : ValueOption) (attached : Option (List Char)) :
    IsMute (setValue · option attached) := by
  unfold setValue
  apply isMute_settle.bind
  cases attached with
  | none => exact isMute_ok fun _ => ⟨rfl, rfl, rfl, rfl⟩
  | some value => exact isMute_assign option value

private theorem isMute_addKey (word : List Char) : IsMute (addKey · word) := by
  unfold addKey
  apply isMute_settle.bind
  exact isMute_ok fun _ => ⟨rfl, rfl, rfl, rfl⟩

private theorem isMute_plain (word : List Char) : IsMute (plain · word) := by
  have hkey := isMute_addKey word
  constructor
  · intro s
    have hpending : s.muted.pending = s.pending := rfl
    rw [plain, plain, hpending]
    rcases s.pending with _ | ⟨option, _ | value⟩
    · exact hkey.map_muted s
    · rfl
    · exact hkey.map_muted s
  · intro s t h
    rw [plain] at h
    rcases hp : s.pending with _ | ⟨option, _ | value⟩
    · rw [hp] at h
      exact hkey.keeps s t h
    · rw [hp] at h
      cases h
      exact ⟨rfl, rfl, rfl⟩
    · rw [hp] at h
      exact hkey.keeps s t h

private theorem isMute_onlyKeys {f g : Reading → Except UsageError Reading} (hf : IsMute f)
    (hg : IsMute g) : IsMute fun s => if s.onlyKeys then f s else g s := by
  constructor
  · intro s
    have honly : s.muted.onlyKeys = s.onlyKeys := rfl
    rw [honly]
    split
    · exact hf.map_muted s
    · exact hg.map_muted s
  · intro s t h
    split at h
    · exact hf.keeps s t h
    · exact hg.keeps s t h

private theorem eq_of_splitName_eq_none {body name : List Char}
    (h : splitName body = (name, none)) :
    body = name := by
  rw [splitName] at h
  split at h
  · cases h
  · next hdrop =>
    cases h
    have hlength : body.length ≤ (body.takeWhile (· != '=')).length :=
      List.drop_eq_nil_iff.mp hdrop
    exact ((List.takeWhile_prefix _).eq_of_length_le hlength).symm

private theorem ofName?_cases {name : List Char} {flag : Flag}
    (h : Setting.ofName? name = some (.flag flag)) :
    flag = .verbose ∧ name = "verbose".toList ∨ flag = .quiet ∧ name = "quiet".toList ∨
      flag ≠ .verbose ∧ flag ≠ .quiet := by
  rw [Setting.ofName?, Option.map_eq_some_iff] at h
  obtain ⟨entry, hfind, hsetting⟩ := h
  have hmem := List.mem_of_find?_eq_some hfind
  have hname := List.find?_some hfind
  have hentry : entry.1.toList = name := by simpa using hname
  simp only [List.mem_cons, List.not_mem_nil, or_false] at hmem
  rcases hmem with rfl | rfl | rfl | rfl | rfl | rfl | rfl | rfl
  all_goals cases hsetting
  · exact .inr (.inr ⟨nofun, nofun⟩)
  · exact .inr (.inr ⟨nofun, nofun⟩)
  · exact .inl ⟨rfl, hentry.symm⟩
  · exact .inr (.inl ⟨rfl, hentry.symm⟩)
  · exact .inr (.inr ⟨nofun, nofun⟩)

private theorem isMute_long {body : List Char} (hverbose : body ≠ "verbose".toList)
    (hquiet : body ≠ "quiet".toList) : IsMute (long · body) := by
  unfold long
  have hbody {name : List Char} (h : splitName body = (name, none)) : body = name :=
    eq_of_splitName_eq_none h
  cases hsplit : splitName body with
  | mk name attached =>
    dsimp only
    cases hname : Setting.ofName? name with
    | none => exact isMute_error _
    | some setting =>
      cases setting with
      | value option => exact isMute_setValue option attached
      | flag flag =>
        dsimp only
        cases attached with
        | some value => exact isMute_error _
        | none =>
          rcases ofName?_cases hname with ⟨_, h⟩ | ⟨_, h⟩ | ⟨hv, hq⟩
          · exact absurd ((hbody hsplit).trans h) hverbose
          · exact absurd ((hbody hsplit).trans h) hquiet
          · exact isMute_setFlag hv hq

private theorem isMute_letters {c : Char} {rest : List Char} (h : verbosityFlag? c = none) :
    IsMute (letters · (c :: rest)) := by
  simp only [letters]
  cases hc : Setting.ofLetter? c with
  | none => exact isMute_error _
  | some setting =>
    cases setting with
    | value option =>
      dsimp only
      split
      all_goals exact isMute_setValue option _
    | flag flag =>
      dsimp only
      have hhelp : flag = .help := by
        simp only [Setting.ofLetter?] at hc
        split at hc
        all_goals cases hc
        · cases h
        · cases h
        · rfl
      subst hhelp
      have hstop : (fun s : Reading => s.setFlag .help >>= (letters · rest)) =
          fun s => s.settle >>= fun _ => .error .helpRequested := by
        funext s
        rw [setFlag]
        cases s.settle <;> rfl
      change IsMute fun s => s.setFlag .help >>= (letters · rest)
      rw [hstop]
      exact isMute_settle.bind (isMute_error .helpRequested)

/-- A word that gives no flag for verbosity, in front of two dashes or behind them. -/
theorem isMute_step {word : List Char} (hdashes : word ≠ ['-', '-'])
    (hflags : (splitWord word).1 = []) : IsMute (step · word) := by
  have hkey := isMute_addKey word
  unfold step
  apply isMute_onlyKeys hkey
  split
  · exact absurd rfl hdashes
  · next body =>
    apply isMute_long
    · rintro rfl
      cases hflags
    · rintro rfl
      cases hflags
  · next c rest _ hdash =>
    cases looksLikeNumber (c :: rest) with
    | true => exact isMute_plain _
    | false =>
      apply isMute_letters
      rw [splitWord_bundle hdash] at hflags
      exact verbosityFlag?_of_splitLetters (splitLetters_of_flags_eq_nil hflags)
  · exact isMute_plain _

theorem isMute_keys (words : List (List Char)) : IsMute fun s => words.foldlM addKey s := by
  induction words with
  | nil => exact isMute_ok fun _ => ⟨rfl, rfl, rfl, rfl⟩
  | cons word rest ih =>
    simp only [List.foldlM_cons]
    exact (isMute_addKey word).bind ih

private theorem run_eq_foldlM_addKey {s : Reading} (h : s.onlyKeys = true)
    (words : List (List Char)) :
    s.run words = words.foldlM addKey s := by
  induction words generalizing s with
  | nil => rfl
  | cons word rest ih =>
    have hstep : s.step word = s.addKey word := by
      unfold step
      exact if_pos h
    rw [run, hstep, List.foldlM_cons]
    cases hs : s.addKey word with
    | error e => rfl
    | ok t =>
      have hkeeps := (isMute_addKey word).keeps s t hs
      exact ih (hkeeps.2.2.trans h)

theorem run_dashes {s : Reading} (h : s.onlyKeys = false) (words : List (List Char)) :
    s.run (['-', '-'] :: words) = words.foldlM addKey { s with onlyKeys := true } := by
  have hdashes : s.step ['-', '-'] = .ok { s with onlyKeys := true } := by
    unfold step
    rw [h]
    rfl
  rw [run, hdashes]
  exact run_eq_foldlM_addKey rfl words

theorem finish_of_isMute {f : Reading → Except UsageError Reading} {s : Reading}
    {arguments : Arguments} (hf : IsMute f) (h : (f s).bind finish = .ok arguments) :
    (f s.muted).bind finish = .ok arguments.muted ∧
      arguments.verbose = s.arguments.verbose ∧ arguments.quiet = s.arguments.quiet := by
  obtain ⟨t, ht, hfinish⟩ := exists_of_bind_eq_ok (x := f s) h
  obtain ⟨u, hu, hkeys⟩ := exists_of_bind_eq_ok (x := t.settle) hfinish
  obtain ⟨hverbose, hquiet, _⟩ := (hf.bind isMute_settle).keeps s u (by rw [ht]; exact hu)
  have hmuted : t.muted.settle = .ok u.muted := by
    rw [isMute_settle.map_muted, hu]
    rfl
  have hsome : u.muted.arguments.keys.isEmpty = u.arguments.keys.isEmpty := rfl
  split at hkeys
  · cases hkeys
  · next hnonempty =>
    cases hkeys
    refine ⟨?_, hverbose, hquiet⟩
    rw [hf.map_muted, ht]
    change t.muted.finish = _
    rw [finish, hmuted]
    exact if_neg hnonempty

end Reading

end KeyPath.Command
