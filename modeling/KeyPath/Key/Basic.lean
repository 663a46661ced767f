/-!
# Keys

A key names an entry of a hash; an integer key also names a position of an array. Keys are
ordered by kind first (nil, booleans, integers, strings, symbols) and by payload within a kind.
-/

namespace KeyPath

inductive Key where
  | nil
  | bool (b : Bool)
  | int (i : Int64)
  | str (text : String)
  | sym (name : String)
  deriving DecidableEq, Repr, Inhabited

namespace Key

/-- The place of a key's kind in the order of keys. -/
def rank : Key → Nat
  | nil => 0
  | bool _ => 1
  | int _ => 2
  | str _ => 3
  | sym _ => 4

/-- Kinds are compared first; keys of one kind by payload, texts by code point. -/
protected def compare (a b : Key) : Ordering :=
  match a, b with
  | bool a, bool b => compare a b
  | int a, int b => compare a b
  | str a, str b => compare a b
  | sym a, sym b => compare a b
  | a, b => compare a.rank b.rank

instance : Ord Key := ⟨Key.compare⟩

theorem compare_eq_iff {a b : Key} : Ord.compare a b = .eq ↔ a = b := by
  change Key.compare a b = .eq ↔ a = b
  cases a <;> cases b <;> simp [Key.compare, rank]

instance : Std.LawfulEqOrd Key where
  compare_self {_} := compare_eq_iff.mpr rfl
  eq_of_compare h := compare_eq_iff.mp h

theorem compare_swap (a b : Key) : Key.compare a b = (Key.compare b a).swap := by
  cases a <;> cases b <;> exact Std.OrientedOrd.eq_swap

/-- Keys are in a total order, as their kinds and their payloads are. -/
instance : Std.TransOrd Key where
  eq_swap := compare_swap _ _
  isLE_trans {a b c} hab hbc := by
    change (Key.compare _ _).isLE at *
    cases a <;> cases b <;> cases c <;> simp only [Key.compare, rank] at *
    all_goals first | exact Std.TransOrd.isLE_trans hab hbc | contradiction | rfl

/-- The name of a key's class, as error messages give it. -/
def typeName : Key → String
  | nil => "nil"
  | bool true => "true"
  | bool false => "false"
  | int _ => "Integer"
  | str _ => "String"
  | sym _ => "Symbol"

def asIndex? : Key → Option Int64
  | int i => some i
  | _ => none

end Key

end KeyPath
