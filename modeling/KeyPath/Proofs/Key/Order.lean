import KeyPath.Key.Basic
import KeyPath.Proofs.Text.Utf8
/-!
# The order of keys

Keys are ordered by kind, and within a kind by payload: false before true, integers by value, texts
by their bytes. This is a strict total order, and comparing two keys decides it.
-/

namespace KeyPath

theorem Text.utf8_lt_iff {a b : String} : utf8 a < utf8 b ↔ compare a b = .lt := by
  constructor
  · intro h
    cases hc : compare a b with
    | lt => rfl
    | eq =>
      rw [Std.LawfulEqCmp.eq_of_compare hc] at h
      exact absurd h (List.lt_irrefl _)
    | gt => exact absurd (utf8_lt (Std.OrientedCmp.lt_of_gt hc)) (List.lt_asymm h)
  · exact utf8_lt

namespace Key

/-- A key stands before another: nil before booleans, then integers, strings and symbols, and keys
of one kind by their payloads. -/
inductive Precedes : Key → Key → Prop
  | kind {a b : Key} : a.rank < b.rank → Precedes a b
  | bool : Precedes (bool false) (bool true)
  | int {i j : Int64} : i.toInt < j.toInt → Precedes (int i) (int j)
  | str {s t : String} : Text.utf8 s < Text.utf8 t → Precedes (str s) (str t)
  | sym {s t : String} : Text.utf8 s < Text.utf8 t → Precedes (sym s) (sym t)

theorem compare_eq_lt_iff {a b : Key} : compare a b = .lt ↔ a.Precedes b := by
  constructor
  · intro h
    cases a <;> cases b
    case bool.bool a b =>
      cases a <;> cases b <;> first | exact .bool | cases h
    case int.int i j => exact .int (Int64.lt_iff_toInt_lt.mp (compareOfLessAndEq_eq_lt.mp h))
    case str.str s t => exact .str (Text.utf8_lt_iff.mpr h)
    case sym.sym s t => exact .sym (Text.utf8_lt_iff.mpr h)
    -- keys of different kinds
    all_goals exact .kind (Nat.compare_eq_lt.mp h)
  · intro h
    cases h with
    | kind hrank =>
      have hlt : compare a.rank b.rank = .lt := Nat.compare_eq_lt.mpr hrank
      cases a <;> cases b <;> first | exact hlt | exact absurd hrank (Nat.lt_irrefl _)
    | bool => rfl
    | int hij => exact compareOfLessAndEq_eq_lt.mpr (Int64.lt_iff_toInt_lt.mpr hij)
    | str hst => exact Text.utf8_lt_iff.mp hst
    | sym hst => exact Text.utf8_lt_iff.mp hst

namespace Precedes

variable {a b c : Key}

theorem irrefl (a : Key) : ¬ a.Precedes a := by
  intro h
  have hlt := compare_eq_lt_iff.mpr h
  rw [Key.compare_eq_iff.mpr rfl] at hlt
  cases hlt

theorem trans (h : a.Precedes b) (h' : b.Precedes c) : a.Precedes c :=
  compare_eq_lt_iff.mp (Std.TransCmp.lt_trans (compare_eq_lt_iff.mpr h) (compare_eq_lt_iff.mpr h'))

theorem trichotomy (a b : Key) : a.Precedes b ∨ a = b ∨ b.Precedes a := by
  cases hc : compare a b with
  | lt => exact .inl (compare_eq_lt_iff.mp hc)
  | eq => exact .inr (.inl (Key.compare_eq_iff.mp hc))
  | gt => exact .inr (.inr (compare_eq_lt_iff.mp (Std.OrientedCmp.lt_of_gt hc)))

end Precedes

end Key

end KeyPath
