import KeyPath.Proofs.Command.Flags
import KeyPath.Proofs.Command.Location
import KeyPath.Proofs.Key.Written
/-!
# Written keys on the command line

A word that does not begin with a dash, or that is a negative number, is a key where no option waits
for a value. Written keys are such words, so a path that is typed one written key at a time is the
path that was written, as far as its keys are read back.
-/

namespace KeyPath.Command

open Text

namespace Reading

variable {s : Reading}

/-- Whether a word is a key where no option waits for a value. -/
def isKeyWord : List Char → Bool
  | '-' :: c :: rest => looksLikeNumber (c :: rest)
  | _ => true

theorem looksLikeNumber_of_digits {digits : List Char} (hne : digits ≠ [])
    (hd : ∀ c ∈ digits, c.isDigit = true) : looksLikeNumber digits = true := by
  have hmantissa : digits.takeWhile (fun c => c != 'e' && c != 'E') = digits := by
    rw [List.takeWhile_eq_self_iff]
    intro c hc
    have hdigit := hd c hc
    rw [Bool.and_eq_true, bne_iff_ne, bne_iff_ne]
    constructor
    · rintro rfl
      cases hdigit
    · rintro rfl
      cases hdigit
  have hwhole : digits.takeWhile Char.isDigit = digits := List.takeWhile_eq_self_iff.mpr hd
  simp [looksLikeNumber, hmantissa, hwhole, hne]

theorem step_of_isKeyWord (hp : s.pending = none) {word : List Char} (h : isKeyWord word = true) :
    s.step word = s.addKey word := by
  have hplain : s.plain word = s.addKey word := by
    rw [plain, hp]
  unfold step
  split
  · rfl
  · split
    · rw [isKeyWord, looksLikeNumber_eq_false [] rfl] at h
      cases h
    · rw [isKeyWord, looksLikeNumber_eq_false _ rfl] at h
      cases h
    · rw [isKeyWord] at h
      rw [if_pos h, hplain]
    · exact hplain

private theorem isKeyWord_of_head_ne {c : Char} (h : c ≠ '-') (rest : List Char) :
    isKeyWord (c :: rest) = true := by
  unfold isKeyWord
  split
  · next heq => exact absurd (List.cons.inj heq).1 h
  · rfl

private theorem isKeyWord_writeInt (n : Int) : isKeyWord (Numeral.writeInt n) = true := by
  obtain ⟨c, rest, hw⟩ := List.exists_cons_of_ne_nil (Numeral.writeNat_ne_nil n.natAbs)
  have hdigits : ∀ d ∈ c :: rest, d.isDigit = true := fun d hd =>
    Numeral.isDigit_of_mem_writeNat (hw ▸ hd)
  rw [Numeral.writeInt, hw]
  split
  · exact looksLikeNumber_of_digits (List.cons_ne_nil c rest) hdigits
  · apply isKeyWord_of_head_ne
    rintro rfl
    cases hdigits '-' List.mem_cons_self

private theorem isKeyWord_inspectChars (key : Key) : isKeyWord key.inspectChars = true := by
  cases key with
  | bool b => cases b <;> rfl
  | int i => exact isKeyWord_writeInt i.toInt
  | _ => rfl

end Reading

private theorem Arguments.parse_of_keyWords {texts : List String} (h : texts ≠ [])
    (hw : ∀ text ∈ texts, Reading.isKeyWord text.toList = true) :
    parse texts = .ok { Arguments.default with keys := texts } := by
  have hrun : Reading.start.run (texts.map String.toList) = .ok (Reading.start.withKeys texts) := by
    rw [Reading.run_of_forall_addKey rfl]
    · simp
    · intro word hm t hp _
      obtain ⟨text, ht, rfl⟩ := List.mem_map.mp hm
      exact Reading.step_of_isKeyWord hp (hw text ht)
  rw [parse, hrun]
  exact Reading.finish_withKeys_start false h

private theorem keyPath_of_described {keys : List Key} (h : keys ≠ [])
    (hread : ∀ key ∈ keys, Key.parse key.inspect = key) :
    ∃ arguments, Arguments.parse (keys.map fun key => Key.describePath [key]) = .ok arguments ∧
      arguments.keyPath = keys := by
  have hne : (keys.map fun key => Key.describePath [key]) ≠ [] := by simpa using h
  have hwords : ∀ text ∈ keys.map fun key => Key.describePath [key],
      Reading.isKeyWord text.toList = true := by
    intro text ht
    obtain ⟨key, _, rfl⟩ := List.mem_map.mp ht
    rw [Key.describePath, String.toList_ofList]
    exact Reading.isKeyWord_inspectChars key
  refine ⟨_, Arguments.parse_of_keyWords hne hwords, ?_⟩
  have hkeys : ∀ key ∈ keys, Key.parse (Key.describePath [key]) = id key := hread
  rw [Arguments.keyPath, List.map_map]
  exact (List.map_congr_left hkeys).trans (List.map_id keys)

/-- A key is read back from its written form unless it is the symbol without a name or a string with
an escaped character. Then a string is read instead, a colon or the text with its escapes. A path
without strings and without that symbol can be typed as it is written, one key at a time. -/
theorem written_keys_read_back :
    (∀ key : Key, Key.parse key.inspect = key ↔ key ≠ .sym "" ∧
      ∀ text, key = .str text → ∀ c ∈ text.toList, Quoted.isEscaped c = false) ∧
    (∀ key : Key, Key.parse key.inspect ≠ key →
      (key = .sym "" ∧ Key.parse key.inspect = .str ":") ∨
      ∃ text, key = .str text ∧
        Key.parse key.inspect = .str (String.ofList (text.toList.flatMap Quoted.escape))) ∧
    ∀ keys : List Key, keys ≠ [] → (∀ key ∈ keys, key ≠ .sym "" ∧ ∀ text, key ≠ .str text) →
      ∃ arguments, Arguments.parse (keys.map fun key => Key.describePath [key]) = .ok arguments ∧
        arguments.keyPath = keys := by
  refine ⟨fun _ => Key.parse_inspect_eq_self_iff, fun _ => Key.parse_inspect_cases, ?_⟩
  intro keys hne hkeys
  apply keyPath_of_described hne
  intro key hm
  obtain ⟨hsym, hstr⟩ := hkeys key hm
  exact Key.parse_inspect hsym hstr

/-- A string with a quote reads as the text with its escapes. The least integer looks like an
option, and the names of symbols may look like anything. -/
theorem written_keys_read_back_least :
    let key : Key := .str "a\"\n"
    let keys : List Key := [.nil, .int Int64.minValue, .sym "--", .sym "\"x\"", .bool false]
    Key.parse key.inspect ≠ key ∧ Key.parse key.inspect = .str "a\\\"\\n" ∧
      keys ≠ [] ∧ (∀ key ∈ keys, key ≠ .sym "" ∧ ∀ text, key ≠ .str text) ∧
      keys.map Key.inspect = ["nil", "-9223372036854775808", ":--", ":\"x\"", "false"] ∧
      ∃ arguments, Arguments.parse (keys.map fun key => Key.describePath [key]) = .ok arguments ∧
        arguments.keyPath = keys := by
  intro key keys
  obtain ⟨hiff, hcases, hpath⟩ := written_keys_read_back
  have hkey : Key.parse key.inspect ≠ key := by
    intro h
    exact absurd (((hiff key).mp h).2 "a\"\n" rfl '"' (by decide)) (by decide)
  have hread : Key.parse key.inspect = .str "a\\\"\\n" := by
    rcases hcases key hkey with ⟨hsym, _⟩ | ⟨text, htext, hparse⟩
    · exact absurd hsym (by decide)
    · obtain rfl : "a\"\n" = text := Key.str.inj htext
      rw [hparse]
      decide
  have hkeys : ∀ key ∈ keys, key ≠ .sym "" ∧ ∀ text, key ≠ .str text := by
    simp [keys]
  exact ⟨hkey, hread, List.cons_ne_nil _ _, hkeys, by decide,
    hpath keys (List.cons_ne_nil _ _) hkeys⟩

end KeyPath.Command
