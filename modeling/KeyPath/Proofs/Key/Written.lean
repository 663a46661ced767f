import KeyPath.Proofs.Key.Typed
import KeyPath.Proofs.Text.Quoted
/-!
# Written keys read back

A key is read back from its written form, except for the symbol without a name, which reads as a
string, and a string with an escaped character, since the text between quotes is taken as it stands.
-/

namespace KeyPath.Key

open Text

private theorem parse_inspect_str (text : String) :
    parse (inspect (str text)) = str (String.ofList (text.toList.flatMap Quoted.escape)) := by
  rw [parse, inspect, String.toList_ofList, inspectChars, Quoted.encode, List.cons_append,
    ofChars_quoted]

private theorem parse_inspect_empty_symbol : parse (inspect (sym "")) = str ":" := by decide

theorem parse_inspect {key : Key} (hsym : key ≠ sym "") (hstr : ∀ text, key ≠ str text) :
    parse key.inspect = key := by
  have hread := parse_typed hsym
  cases key with
  | str text => exact absurd rfl (hstr text)
  | _ => exact hread

theorem parse_inspect_str_eq_self_iff {text : String} :
    parse (inspect (str text)) = str text ↔ ∀ c ∈ text.toList, Quoted.isEscaped c = false := by
  rw [parse_inspect_str, str.injEq, ← Quoted.flatMap_escape_eq_self_iff]
  constructor
  · intro h
    have hchars := congrArg String.toList h
    rwa [String.toList_ofList] at hchars
  · intro h
    rw [h, String.ofList_toList]

/-- The keys that are read back. -/
theorem parse_inspect_eq_self_iff {key : Key} :
    parse key.inspect = key ↔ key ≠ sym "" ∧
      ∀ text, key = str text → ∀ c ∈ text.toList, Quoted.isEscaped c = false := by
  constructor
  · intro h
    refine ⟨fun hempty => parse_ne_empty_symbol key.inspect (h.trans hempty), ?_⟩
    rintro text rfl
    exact parse_inspect_str_eq_self_iff.mp h
  · rintro ⟨hsym, hplain⟩
    by_cases hstr : ∃ text, key = str text
    · obtain ⟨text, rfl⟩ := hstr
      exact parse_inspect_str_eq_self_iff.mpr (hplain text rfl)
    · exact parse_inspect hsym (not_exists.mp hstr)

theorem parse_inspect_cases {key : Key} (h : parse key.inspect ≠ key) :
    (key = sym "" ∧ parse key.inspect = str ":") ∨
      ∃ text, key = str text ∧
        parse key.inspect = str (String.ofList (text.toList.flatMap Quoted.escape)) := by
  by_cases hsym : key = sym ""
  · exact .inl ⟨hsym, hsym ▸ parse_inspect_empty_symbol⟩
  · by_cases hstr : ∃ text, key = str text
    · obtain ⟨text, rfl⟩ := hstr
      exact .inr ⟨text, rfl, parse_inspect_str text⟩
    · exact absurd (parse_inspect hsym (not_exists.mp hstr)) h

end KeyPath.Key
