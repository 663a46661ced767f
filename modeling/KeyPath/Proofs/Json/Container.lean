import KeyPath.Proofs.Json.Numeral
import KeyPath.Json.Reader
/-!
# Reading written containers

The entries of a container stand one behind the other with commas between them and perhaps blanks
around them. A container is read back as soon as each of its entries is, on the condition that
what stands behind an entry cannot belong to a number.
-/

namespace KeyPath.Json

def isClosing (c : Char) : Bool := c == ']' || c == '\x7d'

/-- Whether a text starts as an entry does, with neither a blank nor a closing bracket. -/
def startsEntry : List Char → Bool
  | [] => false
  | c :: _ => !isBlank c && !isClosing c

/-- A text is read as an entry, and all that follows is left. -/
structure Reads {ε : Type} (read : List Char → Except Fault (ε × List Char)) (text : List Char)
    (entry : ε) : Prop where
  starts : startsEntry text = true
  read_append : ∀ rest, endsNumber rest = true → read (text ++ rest) = .ok (entry, rest)

/-- The text of the entries of a container, each behind a gap. -/
def spread {ε : Type} (gap : List Char) (write : ε → List Char) : List ε → List Char
  | [] => []
  | entry :: rest => gap ++ write entry ++ rest.flatMap fun other => ',' :: gap ++ write other

variable {gap text : List Char}

theorem eq_spread {ε : Type} {write : ε → List Char} {texts : List ε → List Char}
    (nil : texts [] = [])
    (singleton : ∀ entry, texts [entry] = gap ++ write entry)
    (cons : ∀ entry other rest, texts (entry :: other :: rest) =
      gap ++ write entry ++ ',' :: texts (other :: rest)) (entries : List ε) :
    texts entries = spread gap write entries := by
  cases entries with
  | nil => exact nil
  | cons entry rest =>
    induction rest generalizing entry with
    | nil => rw [singleton, spread, List.flatMap_nil, List.append_nil]
    | cons other rest ih => simp [cons, ih other, spread]

theorem skipBlanks_append (hg : ∀ c ∈ gap, isBlank c = true) (text : List Char) :
    skipBlanks (gap ++ text) = skipBlanks text :=
  List.dropWhile_append_of_pos hg

theorem skipBlanks_of_startsEntry (h : startsEntry text = true) (rest : List Char) :
    skipBlanks (text ++ rest) = text ++ rest := by
  cases text with
  | nil => cases h
  | cons c text =>
    rw [startsEntry, Bool.and_eq_true, Bool.not_eq_true'] at h
    exact List.dropWhile_cons_of_neg (by simp [h.1])

private theorem skipBlanks_cons_of_isClosing {c : Char} (hc : isClosing c = true)
    (rest : List Char) :
    skipBlanks (c :: rest) = c :: rest := by
  rw [isClosing, Bool.or_eq_true, beq_iff_eq, beq_iff_eq] at hc
  rcases hc with rfl | rfl <;> rfl

private theorem endsNumber_of_isClosing {c : Char} (hc : isClosing c = true) (rest : List Char) :
    endsNumber (c :: rest) = true := by
  rw [isClosing, Bool.or_eq_true, beq_iff_eq, beq_iff_eq] at hc
  rcases hc with rfl | rfl <;> rfl

theorem endsNumber_append (hg : ∀ c ∈ gap, isBlank c = true) (h : endsNumber text = true) :
    endsNumber (gap ++ text) = true := by
  cases gap with
  | nil => exact h
  | cons c gap =>
    have hb := hg c List.mem_cons_self
    simp only [isBlank, Bool.or_eq_true, beq_iff_eq] at hb
    rcases hb with ((rfl | rfl) | rfl) | rfl <;> rfl

private theorem exists_cons_of_startsEntry (h : startsEntry text = true) :
    ∃ c rest, text = c :: rest ∧ isClosing c = false := by
  cases text with
  | nil => cases h
  | cons c rest =>
    rw [startsEntry, Bool.and_eq_true, Bool.not_eq_true', Bool.not_eq_true'] at h
    exact ⟨c, rest, rfl, h.2⟩

private theorem ne_of_isClosing {c d : Char} (hc : isClosing c = true) (hd : isClosing d = false) :
    d ≠ c := by
  rintro rfl
  rw [hc] at hd
  cases hd

namespace Container

variable {ε : Type} {container : Container} {last : List Char} {write : ε → List Char}
  {readEntry : List Char → Except Fault (ε × List Char)}

/-- By the entries behind the first one: each of them shortens the text, so that the bound
suffices. -/
private theorem readEntries_spread (hc : isClosing container.close = true)
    (hg : ∀ c ∈ gap, isBlank c = true) (hl : ∀ c ∈ last, isBlank c = true) {entry : ε}
    {entries : List ε} (hr : ∀ other ∈ entry :: entries, Reads readEntry (write other) other)
    (rest : List Char) {bound : Nat}
    (hb : (entries.flatMap fun other => ',' :: gap ++ write other).length < bound) :
    container.readEntries readEntry bound (write entry ++
      ((entries.flatMap fun other => ',' :: gap ++ write other) ++
        (last ++ container.close :: rest))) = .ok (entry :: entries, rest) := by
  have hentry := (hr entry List.mem_cons_self).read_append
  induction entries generalizing entry bound with
  | nil =>
    cases bound with
    | zero => exact absurd hb (Nat.not_lt_zero _)
    | succ bound =>
      have hend := endsNumber_append hl (endsNumber_of_isClosing hc rest)
      rw [List.flatMap_nil, List.nil_append, readEntries, hentry _ hend]
      simp only [skipBlanks_append hl, skipBlanks_cons_of_isClosing hc, if_true]
  | cons other entries ih =>
    cases bound with
    | zero => exact absurd hb (Nat.not_lt_zero _)
    | succ bound =>
      have hother := hr other (List.mem_cons_of_mem _ List.mem_cons_self)
      obtain ⟨d, more, hw, hd⟩ := exists_cons_of_startsEntry hother.starts
      have hcomma : ',' ≠ container.close := ne_of_isClosing hc rfl
      have hlength : (entries.flatMap fun other => ',' :: gap ++ write other).length < bound := by
        simp only [List.flatMap_cons, List.length_append, List.length_cons] at hb
        omega
      have hrest := ih (fun next hm => hr next (List.mem_cons_of_mem _ hm)) hlength
        hother.read_append
      rw [hw, List.cons_append] at hrest
      have hskip : ∀ text, skipBlanks (',' :: text) = ',' :: text := fun _ => rfl
      simp only [List.flatMap_cons, List.cons_append, List.append_assoc] at hrest ⊢
      rw [readEntries, hentry _ rfl]
      simp only [hskip, if_neg hcomma, if_true, skipBlanks_append hg,
        skipBlanks_of_startsEntry hother.starts]
      rw [hw, List.cons_append]
      simp only [if_neg (ne_of_isClosing hc hd), hrest]

theorem read_spread (hc : isClosing container.close = true) (hg : ∀ c ∈ gap, isBlank c = true)
    (hl : ∀ c ∈ last, isBlank c = true) {entries : List ε}
    (hr : ∀ entry ∈ entries, Reads readEntry (write entry) entry) (rest : List Char) :
    container.read readEntry (spread gap write entries ++ (last ++ container.close :: rest)) =
      .ok (entries, rest) := by
  cases entries with
  | nil =>
    rw [spread, List.nil_append, read, skipBlanks_append hl, skipBlanks_cons_of_isClosing hc]
    exact if_pos rfl
  | cons entry entries =>
    have hentry := hr entry List.mem_cons_self
    obtain ⟨c, more, hw, hopen⟩ := exists_cons_of_startsEntry hentry.starts
    have hlength : (entries.flatMap fun other => ',' :: gap ++ write other).length <
        (write entry ++ ((entries.flatMap fun other => ',' :: gap ++ write other) ++
          (last ++ container.close :: rest))).length := by
      simp only [List.length_append, List.length_cons]
      omega
    have hread := readEntries_spread hc hg hl hr rest hlength
    rw [spread, read, List.append_assoc, List.append_assoc, skipBlanks_append hg,
      skipBlanks_of_startsEntry hentry.starts, hw, List.cons_append]
    rw [hw, List.cons_append] at hread
    exact (if_neg (ne_of_isClosing hc hopen)).trans hread

end Container

end KeyPath.Json
