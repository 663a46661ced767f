import KeyPath.Command.Run
/-!
# Flags for verbosity

The flags that say how much is logged may stand anywhere in front of two dashes, alone or bundled.
A word is read as the flags at its start and then as what is left of it.
-/

namespace KeyPath.Command

/-- The flag for verbosity that a letter stands for. -/
def verbosityFlag? : Char → Option Flag
  | 'v' => some .verbose
  | 'q' => some .quiet
  | _ => none

/-- The flags for verbosity at the start of a bundle of letters, and the letters behind them. -/
def splitLetters : List Char → List Flag × List Char
  | [] => ([], [])
  | c :: rest =>
    match verbosityFlag? c with
    | some flag => (flag :: (splitLetters rest).1, (splitLetters rest).2)
    | none => ([], c :: rest)

/-- The flags for verbosity that a word gives, and the word without them if any of it is left. -/
def splitWord (word : List Char) : List Flag × Option (List Char) :=
  if word = "--verbose".toList then ([.verbose], none)
  else if word = "--quiet".toList then ([.quiet], none)
  else
    match word with
    | '-' :: letters =>
      let (flags, left) := splitLetters letters
      (flags, if left.isEmpty && !flags.isEmpty then none else some ('-' :: left))
    | _ => ([], some word)

/-- The flags for verbosity in front of two dashes. -/
def verbosityFlags : List (List Char) → List Flag
  | [] => []
  | word :: rest =>
    if word = ['-', '-'] then [] else (splitWord word).1 ++ verbosityFlags rest

/-- The words of a command line without its flags for verbosity. -/
def withoutFlags : List (List Char) → List (List Char)
  | [] => []
  | word :: rest =>
    if word = ['-', '-'] then word :: rest
    else (splitWord word).2.toList ++ withoutFlags rest

private theorem verbosityFlag?_cases {c : Char} {flag : Flag} (h : verbosityFlag? c = some flag) :
    c = 'v' ∧ flag = .verbose ∨ c = 'q' ∧ flag = .quiet := by
  unfold verbosityFlag? at h
  split at h
  · cases h
    exact .inl ⟨rfl, rfl⟩
  · cases h
    exact .inr ⟨rfl, rfl⟩
  · cases h

theorem ofLetter?_of_verbosityFlag? {c : Char} {flag : Flag} (h : verbosityFlag? c = some flag) :
    Setting.ofLetter? c = some (.flag flag) := by
  rcases verbosityFlag?_cases h with ⟨rfl, rfl⟩ | ⟨rfl, rfl⟩
  · rfl
  · rfl

theorem splitLetters_of_flags_eq_nil {letters : List Char} (h : (splitLetters letters).1 = []) :
    (splitLetters letters).2 = letters := by
  cases letters with
  | nil => rfl
  | cons c rest =>
    rw [splitLetters] at h ⊢
    cases hc : verbosityFlag? c with
    | none => rfl
    | some flag =>
      rw [hc] at h
      cases h

theorem verbosityFlag?_of_splitLetters {letters rest : List Char} {c : Char}
    (h : (splitLetters letters).2 = c :: rest) : verbosityFlag? c = none := by
  induction letters with
  | nil => cases h
  | cons d letters ih =>
    rw [splitLetters] at h
    cases hd : verbosityFlag? d with
    | none =>
      rw [hd] at h
      cases h
      exact hd
    | some flag =>
      rw [hd] at h
      exact ih h

private theorem eq_of_mem_splitLetters {letters : List Char} {flag : Flag}
    (h : flag ∈ (splitLetters letters).1) : flag = .verbose ∨ flag = .quiet := by
  induction letters with
  | nil => cases h
  | cons c letters ih =>
    rw [splitLetters] at h
    cases hc : verbosityFlag? c with
    | none =>
      rw [hc] at h
      cases h
    | some first =>
      rw [hc] at h
      rcases List.mem_cons.mp h with rfl | hrest
      · exact (verbosityFlag?_cases hc).imp And.right And.right
      · exact ih hrest

theorem splitWord_bundle {c : Char} {rest : List Char} (hc : c ≠ '-') :
    splitWord ('-' :: c :: rest) =
      ((splitLetters (c :: rest)).1,
        if (splitLetters (c :: rest)).2.isEmpty && !(splitLetters (c :: rest)).1.isEmpty then none
        else some ('-' :: (splitLetters (c :: rest)).2)) := by
  have hlong (body : List Char) : '-' :: c :: rest ≠ '-' :: '-' :: body := by
    intro h
    exact hc (List.cons.inj (List.cons.inj h).2).1
  have hverbose : '-' :: c :: rest ≠ "--verbose".toList := hlong "verbose".toList
  have hquiet : '-' :: c :: rest ≠ "--quiet".toList := hlong "quiet".toList
  unfold splitWord
  rw [if_neg hverbose, if_neg hquiet]
  rfl

theorem splitWord_of_flags_eq_nil {word : List Char} (h : (splitWord word).1 = []) :
    (splitWord word).2 = some word := by
  unfold splitWord at h ⊢
  split at h
  · cases h
  · split at h
    · cases h
    · next hverbose hquiet =>
      rw [if_neg hverbose, if_neg hquiet]
      split at h
      · next letters =>
        have hflags : (splitLetters letters).1 = [] := h
        dsimp only
        rw [hflags, splitLetters_of_flags_eq_nil hflags]
        simp
      · next hdash => rfl

theorem eq_of_mem_splitWord {word : List Char} {flag : Flag} (h : flag ∈ (splitWord word).1) :
    flag = .verbose ∨ flag = .quiet := by
  unfold splitWord at h
  split at h
  · exact .inl (List.mem_singleton.mp h)
  · split at h
    · exact .inr (List.mem_singleton.mp h)
    · split at h
      · exact eq_of_mem_splitLetters h
      · cases h

theorem splitWord_cases (word : List Char) :
    (splitWord word).1 = [] ∨ word = "--verbose".toList ∨ word = "--quiet".toList ∨
      ∃ c rest flag, word = '-' :: c :: rest ∧ verbosityFlag? c = some flag := by
  by_cases hverbose : word = "--verbose".toList
  · exact .inr (.inl hverbose)
  by_cases hquiet : word = "--quiet".toList
  · exact .inr (.inr (.inl hquiet))
  unfold splitWord
  rw [if_neg hverbose, if_neg hquiet]
  split
  · next letters =>
    cases letters with
    | nil => exact .inl rfl
    | cons c rest =>
      cases hc : verbosityFlag? c with
      | none =>
        left
        simp [splitLetters, hc]
      | some flag => exact .inr (.inr (.inr ⟨c, rest, flag, rfl, hc⟩))
  · exact .inl rfl

namespace Reading

theorem letters_eq_bind_splitLetters (s : Reading) (ls : List Char) :
    s.letters ls = (splitLetters ls).1.foldlM setFlag s >>= (letters · (splitLetters ls).2) := by
  induction ls generalizing s with
  | nil => rfl
  | cons c rest ih =>
    rw [splitLetters]
    cases hc : verbosityFlag? c with
    | none => rfl
    | some flag =>
      rw [letters, ofLetter?_of_verbosityFlag? hc]
      dsimp only
      rw [List.foldlM_cons, bind_assoc]
      congr
      funext t
      exact ih t

theorem looksLikeNumber_eq_false {c : Char} (rest : List Char) (h : c.isDigit = false) :
    looksLikeNumber (c :: rest) = false := by
  have hwhole :
      ((c :: rest).takeWhile fun c => c != 'e' && c != 'E').takeWhile Char.isDigit = [] := by
    rw [List.takeWhile_cons]
    split
    · rw [List.takeWhile_cons, h]
      rfl
    · rfl
  simp [looksLikeNumber, hwhole]

theorem step_bundle {s : Reading} {c : Char} {setting : Setting} (rest : List Char)
    (honly : s.onlyKeys = false) (h : Setting.ofLetter? c = some setting) :
    s.step ('-' :: c :: rest) = s.letters (c :: rest) := by
  have hdash : c ≠ '-' := by
    rintro rfl
    cases h
  have hdigit : c.isDigit = false := by
    unfold Setting.ofLetter? at h
    split at h
    all_goals first | rfl | cases h
  have hnumber := looksLikeNumber_eq_false rest hdigit
  unfold step
  rw [honly, if_neg Bool.false_ne_true]
  split
  · next heq => exact absurd (List.cons.inj (List.cons.inj heq).2).1 hdash
  · next heq => exact absurd (List.cons.inj (List.cons.inj heq).2).1 hdash
  · next heq =>
    cases heq
    rw [hnumber, if_neg Bool.false_ne_true]
  · next hother => exact absurd rfl (hother c rest)

end Reading

end KeyPath.Command
