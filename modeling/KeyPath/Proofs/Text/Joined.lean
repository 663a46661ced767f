import Mathlib.Data.List.TakeWhile
/-!
# Texts one behind the other

A text is known up to the first character that cannot occur in it. A written value ends where the
text ends or a delimiter stands. Where each of several values is told from what is written, whatever
delimited text follows, a list of them with commas in between is told as well, up to its closing
bracket.
-/

namespace KeyPath.Text

section split

variable {c : Char} {before rest : List Char}

private theorem takeWhile_append_cons {p : Char → Bool} (hb : ∀ a ∈ before, p a = true)
    (hc : p c = false) : (before ++ c :: rest).takeWhile p = before := by
  have hstop : (c :: rest).takeWhile p = [] := List.takeWhile_cons_of_neg (by simp [hc])
  rw [List.takeWhile_append_of_pos hb, hstop, List.append_nil]

theorem takeWhile_ne_append (h : c ∉ before) :
    (before ++ c :: rest).takeWhile (· != c) = before := by
  apply takeWhile_append_cons
  · intro a ha
    exact bne_iff_ne.mpr fun he => h (he ▸ ha)
  · exact bne_self_eq_false c

theorem takeWhile_ne_self (h : c ∉ before) : before.takeWhile (· != c) = before := by
  rw [List.takeWhile_eq_self_iff]
  intro a ha
  exact bne_iff_ne.mpr fun he => h (he ▸ ha)

theorem drop_length_succ : (before ++ c :: rest).drop (before.length + 1) = rest := by
  rw [List.drop_append]
  simp

theorem drop_length_succ_self : before.drop (before.length + 1) = [] :=
  List.drop_eq_nil_of_le (Nat.le_succ _)

end split

/-- The characters that stand behind written values and keys. -/
def isDelimiter (c : Char) : Bool := [',', ']', '\x7d', '='].contains c

/-- A text that is empty or begins with a delimiter. -/
def Delimited (text : List Char) : Prop := ∀ c ∈ text.head?, isDelimiter c = true

theorem delimited_cons {c : Char} (h : isDelimiter c = true) (text : List Char) :
    Delimited (c :: text) := by
  rintro d ⟨⟩
  exact h

/-- The written forms of two things differ, whatever delimited text follows each, unless they are
the same and so is what follows. -/
def TellsApart {α : Type} (write : α → List Char) (a b : α) : Prop :=
  ∀ rest more, Delimited rest → Delimited more → write a ++ rest = write b ++ more →
    a = b ∧ rest = more

theorem TellsApart.eq_of_eq {α : Type} {write : α → List Char} {a b : α}
    (h : TellsApart write a b) (heq : write a = write b) : a = b :=
  (h [] [] nofun nofun (congrArg (· ++ []) heq)).1

private theorem takeWhile_token {token rest : List Char} (ht : ∀ c ∈ token, isDelimiter c = false)
    (hr : Delimited rest) : (token ++ rest).takeWhile (fun c => !isDelimiter c) = token := by
  have hinside : ∀ c ∈ token, (!isDelimiter c) = true := by simpa using ht
  cases rest with
  | nil => rw [List.append_nil, List.takeWhile_eq_self_iff.mpr hinside]
  | cons c rest => exact takeWhile_append_cons hinside (by simp [hr c rfl])

theorem eq_of_append_eq {token other rest more : List Char}
    (ht : ∀ c ∈ token, isDelimiter c = false) (ho : ∀ c ∈ other, isDelimiter c = false)
    (hr : Delimited rest) (hm : Delimited more) (h : token ++ rest = other ++ more) :
    token = other ∧ rest = more := by
  have heq : token = other := by
    rw [← takeWhile_token ht hr, h, takeWhile_token ho hm]
  subst heq
  exact ⟨rfl, List.append_cancel_left h⟩

variable {α : Type} {write : α → List Char}

/-- Written things with a comma and a space between neighbours. -/
def joined (write : α → List Char) : List α → List Char
  | [] => []
  | [x] => write x
  | x :: rest => write x ++ ',' :: ' ' :: joined write rest

/-- What stands behind the first of joined things. -/
def joinedTail (write : α → List Char) : List α → List Char
  | [] => []
  | rest => ',' :: ' ' :: joined write rest

theorem joined_cons (x : α) (rest : List α) :
    joined write (x :: rest) = write x ++ joinedTail write rest := by
  cases rest with
  | nil => exact (List.append_nil _).symm
  | cons y rest => rfl

private theorem delimited_joinedTail {close : Char} (hc : isDelimiter close = true) (rest : List α)
    (text : List Char) : Delimited (joinedTail write rest ++ close :: text) := by
  cases rest with
  | nil => exact delimited_cons hc text
  | cons y rest => exact delimited_cons rfl _

/-- Joined things that are told apart one by one are told apart up to a closing bracket. -/
theorem joined_append_inj {close : Char} (hclose : isDelimiter close = true) (hcomma : close ≠ ',')
    (hstart : ∀ x, ∃ c text, write x = c :: text ∧ isDelimiter c = false) {xs ys : List α}
    (htells : ∀ x ∈ xs, ∀ y ∈ ys, TellsApart write x y) {rest more : List Char}
    (h : joined write xs ++ close :: rest = joined write ys ++ close :: more) :
    xs = ys ∧ rest = more := by
  have hends (x : α) (xs : List α) (text other : List Char) :
      close :: other ≠ joined write (x :: xs) ++ text := by
    obtain ⟨c, written, hw, hc⟩ := hstart x
    rw [joined_cons, hw]
    intro heq
    rw [← (List.cons.inj heq).1, hclose] at hc
    cases hc
  induction xs generalizing ys with
  | nil =>
    cases ys with
    | nil => exact ⟨rfl, (List.cons.inj h).2⟩
    | cons y ys => exact absurd h (hends y ys _ _)
  | cons x xs ih =>
    cases ys with
    | nil => exact absurd h.symm (hends x xs _ _)
    | cons y ys =>
      rw [joined_cons, joined_cons, List.append_assoc, List.append_assoc] at h
      obtain ⟨rfl, htail⟩ := htells x List.mem_cons_self y List.mem_cons_self _ _
        (delimited_joinedTail hclose xs rest) (delimited_joinedTail hclose ys more) h
      have hother : ∀ x ∈ xs, ∀ y ∈ ys, TellsApart write x y := fun x hx y hy =>
        htells x (List.mem_cons_of_mem _ hx) y (List.mem_cons_of_mem _ hy)
      cases xs with
      | nil =>
        cases ys with
        | nil => exact ⟨rfl, (List.cons.inj htail).2⟩
        | cons z ys => exact absurd (List.cons.inj htail).1 hcomma
      | cons z xs =>
        cases ys with
        | nil => exact absurd (List.cons.inj htail).1.symm hcomma
        | cons w ys =>
          obtain ⟨hxs, hrest⟩ := ih hother (List.cons.inj (List.cons.inj htail).2).2
          exact ⟨congrArg (x :: ·) hxs, hrest⟩

end KeyPath.Text
