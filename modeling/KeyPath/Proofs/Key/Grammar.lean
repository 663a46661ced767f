import KeyPath.Proofs.Key.Typed
import KeyPath.Proofs.Text.Utf8
/-!
# The grammar of typed keys

The first character of a typed text tells which form it can have, so it has one form at most. Each
form has a test of its own, which works on the bytes of the text and in words of 64 bits. As no two
forms overlap, the tests may be made in any order, and a text that fails all of them is a string.
-/

namespace KeyPath.Key

open Text

/-- The forms of typed keys, apart from strings that are typed as they stand. -/
inductive Form where
  | nil
  | bool (b : Bool)
  | symbol
  | quoted
  | numeral

/-- What a text of some form denotes. -/
inductive Denotes : Form → String → Key → Prop
  | nil : Denotes .nil "nil" .nil
  | yes : Denotes (.bool true) "true" (.bool true)
  | no : Denotes (.bool false) "false" (.bool false)
  | symbol {name : String} : name ≠ "" → Denotes .symbol (":" ++ name) (.sym name)
  | quoted (inside : String) : Denotes .quoted ("\"" ++ inside ++ "\"") (.str inside)
  | numeral {text : String} {i : Int64} :
    Numeral.Denotes text.toList i.toInt → Denotes .numeral text (.int i)

/-- Whether a text has two bytes at least and a quote at either end. -/
def isQuoted (text : String) : Bool :=
  2 ≤ text.utf8ByteSize ∧ text.toList.head? = some '"' ∧ text.toList.getLast? = some '"'

namespace Form

/-- The form that begins with a character. -/
def ofOpening? : Char → Option Form
  | 'n' => some .nil
  | 't' => some (.bool true)
  | 'f' => some (.bool false)
  | ':' => some .symbol
  | '"' => some .quoted
  | c => if c = '+' ∨ c = '-' ∨ c.isDigit then some .numeral else none

/-- The test for one form by itself. What is inside of quotes is cut out by bytes, and a numeral is
read in words. -/
def read? (form : Form) (text : String) : Option Key :=
  match form with
  | .nil => if text = "nil" then some .nil else none
  | .bool true => if text = "true" then some (.bool true) else none
  | .bool false => if text = "false" then some (.bool false) else none
  | .symbol =>
    match text.toList with
    | ':' :: c :: name => some (.sym (String.ofList (c :: name)))
    | _ => none
  | .quoted => if isQuoted text then (slice? text 1 (text.utf8ByteSize - 1)).map .str else none
  | .numeral => (Numeral.word? text.toList).map .int

private theorem ofOpening?_numeral {c : Char} (h : c = '+' ∨ c = '-' ∨ c.isDigit = true) :
    ofOpening? c = some .numeral := by
  unfold ofOpening?
  split
  · simp at h
  · simp at h
  · simp at h
  · simp at h
  · simp at h
  · exact if_pos h

end Form

variable {form form' : Form} {text : String} {key key' : Key}

private theorem toList_symbol (name : String) : (":" ++ name).toList = ':' :: name.toList := by
  rw [String.toList_append]
  rfl

private theorem toList_quoted (inside : String) :
    ("\"" ++ inside ++ "\"").toList = '"' :: (inside.toList ++ ['"']) := by
  rw [String.toList_append, String.toList_append]
  rfl

private theorem denotes_symbol {c : Char} {name : List Char} (h : text.toList = ':' :: c :: name) :
    Denotes .symbol text (.sym (String.ofList (c :: name))) := by
  have htext : text = ":" ++ String.ofList (c :: name) := by
    rw [← String.toList_inj, toList_symbol, String.toList_ofList, h]
  rw [htext]
  exact .symbol (by simp)

private theorem eq_quoted {inside : List Char} (h : text.toList = '"' :: (inside ++ ['"'])) :
    text = "\"" ++ String.ofList inside ++ "\"" := by
  rw [← String.toList_inj, toList_quoted, String.toList_ofList, h]

/-- The bytes at both ends are different ones, as a quote by itself is a single byte. -/
private theorem isQuoted_iff : isQuoted text = true ↔ ∃ inside, text = "\"" ++ inside ++ "\"" := by
  rw [isQuoted, decide_eq_true_iff]
  constructor
  · rintro ⟨hsize, hhead, hlast⟩
    obtain ⟨behind, hbehind⟩ := List.head?_eq_some_iff.mp hhead
    obtain ⟨before, hbefore⟩ := List.getLast?_eq_some_iff.mp hlast
    cases before with
    | nil =>
      have htext : text = "\"" := String.toList_inj.mp hbefore
      rw [htext] at hsize
      exact absurd hsize (by decide)
    | cons c inside =>
      obtain ⟨rfl, _⟩ := List.cons.inj (hbefore.symm.trans hbehind)
      exact ⟨String.ofList inside, eq_quoted hbefore⟩
  · rintro ⟨inside, rfl⟩
    refine ⟨?_, ?_, ?_⟩
    · rw [String.utf8ByteSize_append, String.utf8ByteSize_append]
      exact Nat.add_le_add_right (Nat.le_add_right 1 _) 1
    · rw [toList_quoted, List.head?_cons]
    · rw [toList_quoted, ← List.cons_append, List.getLast?_concat]

private theorem slice?_quoted (inside : String) :
    slice? ("\"" ++ inside ++ "\"") 1 (("\"" ++ inside ++ "\"").utf8ByteSize - 1) =
      some inside := by
  have hsize : ("\"" ++ inside ++ "\"").utf8ByteSize = 1 + inside.utf8ByteSize + 1 := by
    rw [String.utf8ByteSize_append, String.utf8ByteSize_append]
    rfl
  rw [hsize, Nat.add_sub_cancel]
  exact slice?_append "\"" inside "\""

private theorem Form.read?_eq_some_iff : form.read? text = some key ↔ Denotes form text key := by
  constructor
  · intro h
    unfold read? at h
    split at h
    · obtain ⟨rfl, hkey⟩ := Option.ite_none_right_eq_some.mp h
      exact Option.some.inj hkey ▸ .nil
    · obtain ⟨rfl, hkey⟩ := Option.ite_none_right_eq_some.mp h
      exact Option.some.inj hkey ▸ .yes
    · obtain ⟨rfl, hkey⟩ := Option.ite_none_right_eq_some.mp h
      exact Option.some.inj hkey ▸ .no
    · split at h
      · next htext => exact Option.some.inj h ▸ denotes_symbol htext
      · cases h
    · obtain ⟨hquoted, hslice⟩ := Option.ite_none_right_eq_some.mp h
      obtain ⟨inside, rfl⟩ := isQuoted_iff.mp hquoted
      rw [slice?_quoted] at hslice
      exact Option.some.inj hslice ▸ .quoted inside
    · obtain ⟨i, hi, rfl⟩ := Option.map_eq_some_iff.mp h
      exact .numeral (Numeral.word?_eq_some_iff.mp hi)
  · intro h
    cases h with
    | nil => rfl
    | yes => rfl
    | no => rfl
    | symbol hname =>
      obtain ⟨c, rest, hn⟩ := List.exists_cons_of_ne_nil (mt String.toList_eq_nil_iff.mp hname)
      rw [read?, toList_symbol, hn]
      change some (Key.sym (String.ofList (c :: rest))) = _
      rw [← hn, String.ofList_toList]
    | quoted inside =>
      rw [read?, if_pos (isQuoted_iff.mpr ⟨inside, rfl⟩), slice?_quoted]
      rfl
    | numeral hn =>
      rw [read?, Numeral.word?_eq_some_iff.mpr hn]
      rfl

private theorem Denotes.opening (h : Denotes form text key) :
    text.toList.head?.bind Form.ofOpening? = some form := by
  cases h with
  | nil => rfl
  | yes => rfl
  | no => rfl
  | symbol =>
    rw [toList_symbol]
    rfl
  | quoted inside =>
    rw [toList_quoted]
    rfl
  | numeral hn =>
    obtain ⟨c, rest, htext, hc⟩ := hn.exists_cons
    rw [htext]
    exact Form.ofOpening?_numeral hc

theorem Denotes.unique (h : Denotes form text key) (h' : Denotes form' text key') :
    form = form' ∧ key = key' := by
  obtain rfl := Option.some.inj (h.opening.symm.trans h'.opening)
  rw [← Form.read?_eq_some_iff] at h h'
  exact ⟨rfl, Option.some.inj (h.symm.trans h')⟩

private theorem Denotes.parse_eq (h : Denotes form text key) : parse text = key := by
  cases h with
  | nil => rfl
  | yes => rfl
  | no => rfl
  | symbol hname => rw [parse, toList_symbol, ofChars_colon hname]
  | quoted inside => rw [parse, toList_quoted, ofChars_quoted, String.ofList_toList]
  | numeral hn => exact ofChars_numeral hn

private theorem parse_eq_str (h : ∀ form key, ¬ Denotes form text key) : parse text = str text := by
  unfold parse ofChars
  split
  · next htext =>
    obtain rfl : text = "nil" := String.toList_inj.mp htext
    exact absurd .nil (h _ _)
  · next htext =>
    obtain rfl : text = "true" := String.toList_inj.mp htext
    exact absurd .yes (h _ _)
  · next htext =>
    obtain rfl : text = "false" := String.toList_inj.mp htext
    exact absurd .no (h _ _)
  · next htext => exact absurd (denotes_symbol htext) (h _ _)
  · split
    · next hinside =>
      rw [eq_quoted (unquote?_eq_some_iff.mp hinside)] at h
      exact absurd (.quoted _) (h _ _)
    · split
      · next hi =>
        rw [← Numeral.word?_eq, Numeral.word?_eq_some_iff] at hi
        exact absurd (.numeral hi) (h _ _)
      · rw [String.ofList_toList]

theorem parse_eq_iff : parse text = key ↔ (∃ form, Denotes form text key) ∨
    key = str text ∧ ∀ form other, ¬ Denotes form text other := by
  constructor
  · rintro rfl
    by_cases hform : ∃ form key, Denotes form text key
    · obtain ⟨form, key, hkey⟩ := hform
      exact .inl ⟨form, hkey.parse_eq ▸ hkey⟩
    · have hnone : ∀ form key, ¬ Denotes form text key := fun form key hkey =>
        hform ⟨form, key, hkey⟩
      exact .inr ⟨parse_eq_str hnone, hnone⟩
  · rintro (⟨form, hkey⟩ | ⟨rfl, hnone⟩)
    · exact hkey.parse_eq
    · exact parse_eq_str hnone

theorem parse_eq_findSome? {tests : List Form} (h : ∀ form, form ∈ tests) (text : String) :
    parse text = (tests.findSome? (·.read? text)).getD (str text) := by
  cases hf : tests.findSome? (·.read? text) with
  | none =>
    rw [List.findSome?_eq_none_iff] at hf
    apply parse_eq_str
    intro form key hkey
    have hread := hf form (h form)
    rw [Form.read?_eq_some_iff.mpr hkey] at hread
    cases hread
  | some key =>
    obtain ⟨form, _, hread⟩ := List.exists_of_findSome?_eq_some hf
    exact (Form.read?_eq_some_iff.mp hread).parse_eq

theorem parse_of_out_of_range {n : Int} (hn : Numeral.Denotes text.toList n)
    (hrange : n < -2 ^ 63 ∨ 2 ^ 63 ≤ n) : parse text = str text := by
  apply parse_eq_str
  intro form key hkey
  have hopening := hkey.opening
  obtain ⟨c, rest, htext, hc⟩ := hn.exists_cons
  rw [htext, List.head?_cons, Option.bind_some, Form.ofOpening?_numeral hc] at hopening
  obtain rfl := Option.some.inj hopening
  cases hkey with
  | @numeral _ i hi =>
    have hmin : Int64.minValue.toInt = -2 ^ 63 := rfl
    have hmax : Int64.maxValue.toInt = 2 ^ 63 - 1 := rfl
    have hlow := i.minValue_le_toInt
    have hhigh := i.toInt_le
    have heq := hn.unique hi
    omega

theorem parse_eq_iff_of_ne_str (h : ∀ s, key ≠ str s) :
    parse text = key ↔ ∃ form, Denotes form text key := by
  rw [parse_eq_iff, or_iff_left (fun hplain => h text hplain.1)]

theorem parse_eq_nil_iff : parse text = nil ↔ text = "nil" := by
  refine (parse_eq_iff_of_ne_str (by simp)).trans ⟨?_, ?_⟩
  · rintro ⟨form, hform⟩
    cases hform with
    | nil => rfl
  · rintro rfl
    exact ⟨_, .nil⟩

theorem parse_eq_bool_iff {b : Bool} :
    parse text = bool b ↔ text = if b then "true" else "false" := by
  refine (parse_eq_iff_of_ne_str (by simp)).trans ⟨?_, ?_⟩
  · rintro ⟨form, hform⟩
    cases hform with
    | yes => rfl
    | no => rfl
  · rintro rfl
    cases b with
    | true => exact ⟨_, .yes⟩
    | false => exact ⟨_, .no⟩

theorem parse_eq_sym_iff {name : String} :
    parse text = sym name ↔ name ≠ "" ∧ text = ":" ++ name := by
  refine (parse_eq_iff_of_ne_str (by simp)).trans ⟨?_, ?_⟩
  · rintro ⟨form, hform⟩
    cases hform with
    | symbol hname => exact ⟨hname, rfl⟩
  · rintro ⟨hname, rfl⟩
    exact ⟨_, .symbol hname⟩

theorem parse_eq_int_iff {i : Int64} :
    parse text = int i ↔ Numeral.Denotes text.toList i.toInt := by
  refine (parse_eq_iff_of_ne_str (by simp)).trans ⟨?_, ?_⟩
  · rintro ⟨form, hform⟩
    cases hform with
    | numeral hi => exact hi
  · intro hi
    exact ⟨_, .numeral hi⟩

theorem parse_eq_str_iff {s : String} : parse text = str s ↔ text = "\"" ++ s ++ "\"" ∨
    s = text ∧ ∀ form key, ¬ Denotes form text key := by
  have hquoted : (∃ form, Denotes form text (str s)) ↔ text = "\"" ++ s ++ "\"" := by
    constructor
    · rintro ⟨form, hform⟩
      cases hform with
      | quoted => rfl
    · rintro rfl
      exact ⟨.quoted, .quoted s⟩
  rw [parse_eq_iff, hquoted, str.injEq]

/-- Typed keys have an exact grammar. Every kind of key has its own texts, and a numeral that is out
of range is a string like any other text without a form. No text has two forms, so the tests for
them give the key in whatever order they are made. What is inside of quotes can always be cut out.
-/
theorem parse_exact (text : String) :
    (parse text = nil ↔ text = "nil") ∧
    (∀ b, parse text = bool b ↔ text = if b then "true" else "false") ∧
    (∀ name, parse text = sym name ↔ name ≠ "" ∧ text = ":" ++ name) ∧
    (∀ i, parse text = int i ↔ Numeral.Denotes text.toList i.toInt) ∧
    (∀ n, Numeral.Denotes text.toList n → n < -2 ^ 63 ∨ 2 ^ 63 ≤ n → parse text = str text) ∧
    (∀ s, parse text = str s ↔ text = "\"" ++ s ++ "\"" ∨
      s = text ∧ ∀ form key, ¬ Denotes form text key) ∧
    (∀ form form' key key', Denotes form text key → Denotes form' text key' →
      form = form' ∧ key = key') ∧
    (∀ tests : List Form, (∀ form, form ∈ tests) →
      parse text = (tests.findSome? (·.read? text)).getD (str text)) ∧
    (isQuoted text = true → ∃ inside,
      slice? text 1 (text.utf8ByteSize - 1) = some inside ∧ parse text = str inside) := by
  refine ⟨parse_eq_nil_iff, fun _ => parse_eq_bool_iff, fun _ => parse_eq_sym_iff,
    fun _ => parse_eq_int_iff, fun _ => parse_of_out_of_range, fun _ => parse_eq_str_iff,
    fun _ _ _ _ => Denotes.unique, fun _ htests => parse_eq_findSome? htests text, ?_⟩
  intro hquoted
  obtain ⟨inside, rfl⟩ := isQuoted_iff.mp hquoted
  exact ⟨inside, slice?_quoted inside, (Denotes.quoted inside).parse_eq⟩

/-- The least word with a zero in front, the numeral behind the greatest word, a text in quotes that
would be a symbol without them, and texts that fall short of a form by one character. -/
theorem parse_exact_least :
    let least := "-09223372036854775808"
    let beyond := "+9223372036854775808"
    let quoted := "\":é\""
    let tests : List Form := [.numeral, .quoted, .symbol, .bool false, .bool true, .nil]
    parse least = int Int64.minValue ∧
      Numeral.Denotes beyond.toList (2 ^ 63) ∧ parse beyond = str beyond ∧
      isQuoted quoted = true ∧ (∃ inside, slice? quoted 1 4 = some inside ∧
        parse quoted = str inside) ∧
      (∀ form key, Denotes form quoted key → form = .quoted ∧ key = str ":é") ∧
      (∀ form, form ∈ tests) ∧
      ∀ text ∈ ["", ":", "-", "\"", "nul"], parse text = str text := by
  intro least beyond quoted tests
  obtain ⟨_, _, _, hint, _⟩ := parse_exact least
  obtain ⟨_, _, _, _, hbeyond, _⟩ := parse_exact beyond
  obtain ⟨_, _, _, _, _, _, hunique, _, hslice⟩ := parse_exact quoted
  have hleast : Numeral.Denotes least.toList Int64.minValue.toInt :=
    Numeral.integer?_eq_some_iff.mp (by decide)
  have hn : Numeral.Denotes beyond.toList (2 ^ 63) := Numeral.integer?_eq_some_iff.mp (by decide)
  have hquoted : isQuoted quoted = true := by decide
  have hform : Denotes .quoted quoted (str ":é") := .quoted ":é"
  have htests : ∀ form, form ∈ tests := by
    rintro (_ | b | _ | _ | _)
    case bool => cases b <;> simp [tests]
    all_goals simp [tests]
  refine ⟨(hint _).mpr hleast, hn, hbeyond _ hn (.inr (Int.le_refl _)), hquoted, hslice hquoted,
    fun form key hkey => hunique _ _ _ _ hkey hform, htests, ?_⟩
  intro text htext
  obtain ⟨_, _, _, _, _, _, _, horder, _⟩ := parse_exact text
  rw [horder tests htests]
  simp only [List.mem_cons, List.not_mem_nil, or_false] at htext
  rcases htext with rfl | rfl | rfl | rfl | rfl
  all_goals decide

end KeyPath.Key
