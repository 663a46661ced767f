import KeyPath.Proofs.Lookup.Answers
/-!
# Positions in words of 64 bits

A key names a position by a signed word, and the length of an array is an unsigned word. Resolving
the one against the other in words gives the exact position and never leaves the range of words.
Each position of an array is named by two keys, which lead on in the same way.
-/

namespace KeyPath

namespace Word

/-- A signed word as an unsigned one, unless it is negative. -/
def unsigned? (i : Int64) : Option UInt64 := if 0 ≤ i then some i.toUInt64 else none

/-- The magnitude of a signed word. That of the least signed word is an unsigned word as well. -/
def magnitude (i : Int64) : UInt64 := if 0 ≤ i then i.toUInt64 else (-i).toUInt64

/-- A difference of unsigned words, or nothing if it is below zero. -/
def sub? (a b : UInt64) : Option UInt64 := if b ≤ a then some (a - b) else none

/-- The position that a signed word names among `length` elements, computed in words. Nothing at all
is the result of a subtraction that fails. -/
def position? (index : Int64) (length : UInt64) : Option (Option UInt64) :=
  if 0 ≤ index then some ((unsigned? index).filter (· < length))
  else
    let back := magnitude index
    if back ≤ length then (sub? length back).map some else some none

private theorem toInt_eq (i : Int64) :
    i.toInt = if 2 * i.toUInt64.toNat < UInt64.size then (i.toUInt64.toNat : Int)
      else (i.toUInt64.toNat : Int) - UInt64.size :=
  BitVec.toInt_eq_toNat_cond i.toBitVec

private theorem nonneg_iff {i : Int64} : 0 ≤ i ↔ 0 ≤ i.toInt := Int64.le_iff_toInt_le

private theorem toNat_toUInt64 {i : Int64} (h : 0 ≤ i) : i.toUInt64.toNat = i.toInt.toNat := by
  have hnonneg := nonneg_iff.mp h
  have hlt := i.toUInt64.toNat_lt_size
  have hi := toInt_eq i
  omega

private theorem toNat_magnitude {i : Int64} (h : ¬ 0 ≤ i) :
    (magnitude i).toNat = i.toInt.natAbs := by
  have hneg := mt nonneg_iff.mpr h
  have hlt := i.toUInt64.toNat_lt_size
  have hi := toInt_eq i
  rw [magnitude, if_neg h, Int64.toUInt64_neg, UInt64.toNat_neg, Nat.mod_eq_of_lt (by omega)]
  omega

/-- Words are enough: no subtraction fails, and the position is the exact one. -/
theorem position?_eq (index : Int64) (length : UInt64) :
    position? index length =
      some ((KeyPath.position? index.toInt length.toNat).map UInt64.ofNat) := by
  rw [position?, KeyPath.position?]
  by_cases h : 0 ≤ index
  · have hnat := toNat_toUInt64 h
    rw [if_pos h, if_pos (nonneg_iff.mp h), unsigned?, if_pos h, ← hnat]
    by_cases hlt : index.toUInt64.toNat < length.toNat
    · have hword : index.toUInt64 < length := UInt64.lt_iff_toNat_lt.mpr hlt
      simp [hlt, hword]
    · have hword : length ≤ index.toUInt64 := UInt64.le_iff_toNat_le.mpr (Nat.le_of_not_lt hlt)
      simp [hlt, hword]
  · have hnat := toNat_magnitude h
    rw [if_neg h, if_neg (mt nonneg_iff.mpr h), ← hnat]
    dsimp only
    by_cases hle : (magnitude index).toNat ≤ length.toNat
    · have hword : magnitude index ≤ length := UInt64.le_iff_toNat_le.mpr hle
      rw [if_pos hword, if_pos hle, sub?, if_pos hword, Option.map_some, Option.map_some,
        ← UInt64.toNat_sub_of_le _ _ hword, UInt64.ofNat_toNat]
    · have hword : ¬ magnitude index ≤ length := mt UInt64.le_iff_toNat_le.mp hle
      rw [if_neg hword, if_neg hle, Option.map_none]

end Word

variable {items : List Value} {position : Nat} {index : Int64}

theorem resolveIndex_eq_some_iff {key : Key} {length : Nat} :
    resolveIndex key length = .ok (some position) ↔
      ∃ index, key = .int index ∧ position? index.toInt length = some position := by
  constructor
  · intro h
    cases key with
    | int index => exact ⟨index, rfl, Except.ok.inj h⟩
    | _ => cases h
  · rintro ⟨index, rfl, h⟩
    exact congrArg Except.ok h

private theorem position?_eq_some_iff_toInt {length : Nat} :
    position? index.toInt length = some position ↔
      position < length ∧ (0 ≤ index.toInt ∧ (position : Int) = index.toInt ∨
        index.toInt < 0 ∧ (position : Int) = length + index.toInt) := by
  rw [position?_eq_some_iff]
  omega

theorem index_of_resolveIndex {key : Key}
    (h : resolveIndex key items.length = .ok (some position)) :
    ∃ hp : position < items.length, (Value.array items).index key = .ok (some items[position]) := by
  obtain ⟨index, rfl, hp⟩ := resolveIndex_eq_some_iff.mp h
  have hlt := (position?_eq_some_iff.mp hp).1
  refine ⟨hlt, ?_⟩
  rw [Value.index, h]
  dsimp only
  rw [Option.bind_some, List.getElem?_eq_getElem hlt]

/-- The two keys that name a position: one counts from the start and one from the end. -/
structure NamePosition (front back : Int64) (position length : Nat) : Prop where
  front_eq : front.toInt = position
  back_eq : back.toInt = position - length
  ne : front ≠ back
  only : ∀ key, resolveIndex key length = .ok (some position) ↔ key = .int front ∨ key = .int back

private theorem exists_namePosition {length : Nat} (hl : length ≤ Int64.maxValue.toInt)
    (hp : position < length) : ∃ front back, NamePosition front back position length := by
  have hmax : Int64.maxValue.toInt = 2 ^ 63 - 1 := rfl
  have hfront : (Int64.ofInt position).toInt = position :=
    Int64.toInt_ofInt_of_le (by omega) (by omega)
  have hback : (Int64.ofInt (position - length)).toInt = position - length :=
    Int64.toInt_ofInt_of_le (by omega) (by omega)
  refine ⟨_, _, hfront, hback, ?_, ?_⟩
  · intro heq
    rw [heq] at hfront
    omega
  · intro key
    rw [resolveIndex_eq_some_iff]
    constructor
    · rintro ⟨index, rfl, h⟩
      rcases (position?_eq_some_iff.mp h).2 with hi | hi
      · exact .inl (congrArg Key.int (Int64.toInt_inj.mp (hi.trans hfront.symm)))
      · exact .inr (congrArg Key.int (Int64.toInt_inj.mp (hi.trans hback.symm)))
    · rintro (rfl | rfl)
      · exact ⟨_, rfl, position?_eq_some_iff.mpr ⟨hp, .inl hfront⟩⟩
      · exact ⟨_, rfl, position?_eq_some_iff.mpr ⟨hp, .inr hback⟩⟩

private theorem walk_array_congr {key key' : Key}
    (h : resolveIndex key items.length = .ok (some position))
    (h' : resolveIndex key' items.length = .ok (some position)) (rest : List Key) :
    walk (.array items) (key :: rest) = walk (.array items) (key' :: rest) := by
  obtain ⟨_, hindex⟩ := index_of_resolveIndex h
  obtain ⟨_, hindex'⟩ := index_of_resolveIndex h'
  rw [walk, walk, hindex, hindex']
  rfl

private theorem Through.dig_array_congr {m : Type → Type} [Monad m]
    (respond : ObjectRef → List Key → m DigResult) {root : Value} {before : List Key}
    {key key' : Key} (ht : Through root before (.array items))
    (h : resolveIndex key items.length = .ok (some position))
    (h' : resolveIndex key' items.length = .ok (some position)) (rest : List Key) :
    dig respond root (before ++ key :: rest) = dig respond root (before ++ key' :: rest) := by
  have hk : key :: rest ≠ [] := List.cons_ne_nil key rest
  have hk' : key' :: rest ≠ [] := List.cons_ne_nil key' rest
  have hitems : Value.array items ≠ .nil := nofun
  rw [ht.dig_eq_behind respond hitems hk, ht.dig_eq_behind respond hitems hk']
  exact digWith_congr _ hk hk' (walk_array_congr h h' rest)

/-- An index is resolved exactly, and in words as well as in whole numbers. A position that is
resolved lies inside the array. Two different keys name each position, and wherever a lookup comes
to the array, wrapped values entered, they make no difference to it. -/
theorem resolveIndex_exact {m : Type → Type} [Monad m]
    (respond : ObjectRef → List Key → m DigResult) :
    (∀ (index : Int64) (length : UInt64), ∃ place,
      resolveIndex (.int index) length.toNat = .ok place ∧
      (∀ position : Nat, place = some position ↔ position < length.toNat ∧
        (0 ≤ index.toInt ∧ (position : Int) = index.toInt ∨
          index.toInt < 0 ∧ (position : Int) = length.toNat + index.toInt)) ∧
      Word.position? index length = some (place.map UInt64.ofNat)) ∧
    (∀ (items : List Value) (key : Key) (position : Nat),
      resolveIndex key items.length = .ok (some position) →
      ∃ hp : position < items.length,
        (Value.array items).index key = .ok (some items[position])) ∧
    ∀ (items : List Value) (position : Nat), items.length ≤ Int64.maxValue.toInt →
      position < items.length →
      ∃ front back, NamePosition front back position items.length ∧
        ∀ root before rest, Through root before (.array items) →
          dig respond root (before ++ .int front :: rest) =
            dig respond root (before ++ .int back :: rest) := by
  refine ⟨?_, fun _ _ _ => index_of_resolveIndex, ?_⟩
  · intro index length
    exact ⟨_, rfl, fun _ => position?_eq_some_iff_toInt, Word.position?_eq index length⟩
  · intro items position hl hp
    obtain ⟨front, back, hnames⟩ := exists_namePosition hl hp
    refine ⟨front, back, hnames, ?_⟩
    intro root before rest ht
    exact ht.dig_array_congr respond ((hnames.only _).mpr (.inl rfl))
      ((hnames.only _).mpr (.inr rfl)) rest

/-- The least index names the first of as many elements as its magnitude. The last of two items
under a wrapped hash is named by one and by minus one. -/
theorem resolveIndex_exact_least :
    let items : List Value := [.bool false, .array [.nil, .str "deep"]]
    let root : Value := .wrapped 0 (.hash [(.str "k", .array items)])
    resolveIndex (.int Int64.minValue) (9223372036854775808 : UInt64).toNat = .ok (some 0) ∧
      Word.position? Int64.minValue 9223372036854775808 = some (some 0) ∧
      (Value.array items).index (.int (-1)) = .ok (some (.array [.nil, .str "deep"])) ∧
      Through root [.str "k"] (.array items) ∧
      ∃ front back, NamePosition front back 1 items.length ∧
        Id.run (dig (fun _ _ => .error .noKeys) root [.str "k", .int front, .int 1]) =
          Id.run (dig (fun _ _ => .error .noKeys) root [.str "k", .int back, .int 1]) := by
  intro items root
  obtain ⟨hexact, hinside, hnames⟩ := resolveIndex_exact (m := Id) (fun _ _ => .error .noKeys)
  obtain ⟨place, hplace, hiff, hword⟩ := hexact Int64.minValue 9223372036854775808
  have hzero : place = some 0 := (hiff 0).mpr (by decide)
  subst hzero
  obtain ⟨_, hlast⟩ := hinside items (.int (-1)) 1 rfl
  have hthrough : Through root [.str "k"] (.array items) := .enter (.step (.hash rfl) .here)
  obtain ⟨front, back, hnamed, hdig⟩ := hnames items 1 (by decide) (by decide)
  exact ⟨hplace, hword, hlast, hthrough, front, back, hnamed, hdig root _ [.int 1] hthrough⟩

end KeyPath
