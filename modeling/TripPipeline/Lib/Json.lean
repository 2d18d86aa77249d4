import Mathlib.Data.List.Basic
import Mathlib.Data.Nat.Digits.Defs
import Mathlib.Tactic.Common

/-!
# JSON texts

A value of JSON, its compact ASCII text, and a reader of texts that is one pass of a pushdown
machine over the characters.

* A number is kept as it is spelled (`NumberText`): a JSON number, or one of the three words that
  stand for the other floats.
* `print` separates with `,` and `:` and escapes every character outside of the printable ASCII
  range, those beyond 16 bits as a pair of surrogates.
* `parse` takes blanks between the tokens, every escape and any order of members, and refuses
  control characters in a text. A `String` holds no lone surrogate, and `parse` refuses its escape.
* `parse_print`: a printed value is read back as it was, whatever the contents of its texts.
-/

namespace TripPipeline.Lib

/-! ## Numbers -/

/-- How far a number has been read. -/
inductive NumberState where
  | start | minus | zero | whole | point | fraction | exponent | sign | power
  deriving DecidableEq

/-- One character of `-?(0|[1-9][0-9]*)(\.[0-9]+)?([eE][+-]?[0-9]+)?`. -/
def NumberState.step : NumberState → Char → Option NumberState
  | .start, c => if c = '-' then some .minus else if c = '0' then some .zero
      else if c.isDigit then some .whole else none
  | .minus, c => if c = '0' then some .zero else if c.isDigit then some .whole else none
  | .zero, c => if c = '.' then some .point else if c = 'e' ∨ c = 'E' then some .exponent else none
  | .whole, c => if c.isDigit then some .whole else if c = '.' then some .point
      else if c = 'e' ∨ c = 'E' then some .exponent else none
  | .point, c => if c.isDigit then some .fraction else none
  | .fraction, c => if c.isDigit then some .fraction
      else if c = 'e' ∨ c = 'E' then some .exponent else none
  | .exponent, c =>
      if c = '+' ∨ c = '-' then some .sign else if c.isDigit then some .power else none
  | .sign, c | .power, c => if c.isDigit then some .power else none

/-- A number may end here. -/
def NumberState.complete : NumberState → Bool
  | .zero | .whole | .fraction | .power => true
  | _ => false

/-- The words for the floats that are no numbers. -/
def nonNumbers : List (List Char) :=
  ["NaN".toList, "Infinity".toList, "-Infinity".toList]

/-- The spelling of a number. -/
def isNumber (cs : List Char) : Bool :=
  nonNumbers.contains cs || (cs.foldlM NumberState.step .start).any NumberState.complete

/-- A number as it is spelled. -/
abbrev NumberText := {cs : List Char // isNumber cs = true}

/-! ## Values and their texts -/

/-- A JSON value. -/
inductive Json where
  | null
  | bool (b : Bool)
  | number (text : NumberText)
  | string (s : String)
  | array (xs : List Json)
  | object (members : List (String × Json))

/-- Four hexadecimal digits. -/
def hexUnit (n : ℕ) : List Char :=
  [(n / 4096 % 16).digitChar, (n / 256 % 16).digitChar, (n / 16 % 16).digitChar,
    (n % 16).digitChar]

/-- The escape of a 16-bit unit. -/
def unicodeEscape (n : ℕ) : List Char := '\\' :: 'u' :: hexUnit n

/-- A character in a text. -/
def escape (c : Char) : List Char :=
  if c = '"' then ['\\', '"']
  else if c = '\\' then ['\\', '\\']
  else if ' ' ≤ c ∧ c ≤ '~' then [c]
  else if c = '\n' then ['\\', 'n']
  else if c = '\r' then ['\\', 'r']
  else if c = '\t' then ['\\', 't']
  else if c = '\x0c' then ['\\', 'f']
  else if c = '\x08' then ['\\', 'b']
  else if c.toNat < 0x10000 then unicodeEscape c.toNat
  else unicodeEscape (0xD800 + (c.toNat - 0x10000) / 0x400) ++
    unicodeEscape (0xDC00 + (c.toNat - 0x10000) % 0x400)

/-- A text in quotes. -/
def quote (s : String) : List Char := '"' :: (s.toList.flatMap escape ++ ['"'])

mutual

/-- The compact text of a value. -/
def Json.print : Json → List Char
  | .null => "null".toList
  | .bool true => "true".toList
  | .bool false => "false".toList
  | .number text => text.1
  | .string s => quote s
  | .array [] => ['[', ']']
  | .array (x :: xs) => '[' :: (x.print ++ Json.printElements xs)
  | .object [] => ['\x7b', '\x7d']
  | .object ((k, v) :: ms) => '\x7b' :: (quote k ++ ':' :: (v.print ++ Json.printMembers ms))

/-- The elements after the first one, and the bracket. -/
def Json.printElements : List Json → List Char
  | [] => [']']
  | x :: xs => ',' :: (x.print ++ Json.printElements xs)

/-- The members after the first one, and the brace. -/
def Json.printMembers : List (String × Json) → List Char
  | [] => ['\x7d']
  | (k, v) :: ms => ',' :: (quote k ++ ':' :: (v.print ++ Json.printMembers ms))

end

/-! ## Reading texts -/

/-- The value of a hexadecimal digit. -/
def hexValue (c : Char) : Option ℕ := (List.range 16).find? fun d => c.toLower = d.digitChar

/-- Where the reader stands in a text. -/
inductive TextState where
  | plain
  | backslash
  /-- Some digits of an escape; the high surrogate before it, if there was one. -/
  | unicode (high : Option ℕ) (digits value : ℕ)
  | high (high : ℕ)
  | highBackslash (high : ℕ)

/-- The escapes of one character. -/
def unescape (c : Char) : Option Char :=
  if c = '"' then some '"'
  else if c = '\\' then some '\\'
  else if c = '/' then some '/'
  else if c = 'b' then some '\x08'
  else if c = 'f' then some '\x0c'
  else if c = 'n' then some '\n'
  else if c = 'r' then some '\r'
  else if c = 't' then some '\t'
  else none

/-- A 16-bit unit has been read. -/
def takeUnit (high : Option ℕ) (n : ℕ) (acc : List Char) : Option (List Char × TextState) :=
  match high with
  | none =>
      if 0xD800 ≤ n ∧ n < 0xDC00 then some (acc, .high n)
      else if 0xDC00 ≤ n ∧ n < 0xE000 then none
      else some (Char.ofNat n :: acc, .plain)
  | some high =>
      if 0xDC00 ≤ n ∧ n < 0xE000 then
        some (Char.ofNat (0x10000 + (high - 0xD800) * 0x400 + (n - 0xDC00)) :: acc, .plain)
      else none

/-- One character inside of a text. The characters read are held in reverse. -/
def scanText (acc : List Char) : TextState → Char → Option (List Char × TextState)
  | .plain, c =>
      if c = '\\' then some (acc, .backslash)
      else if c.toNat < 0x20 then none
      else some (c :: acc, .plain)
  | .backslash, c =>
      if c = 'u' then some (acc, .unicode none 0 0)
      else (unescape c).map fun c => (c :: acc, .plain)
  | .unicode high digits value, c =>
      (hexValue c).bind fun d =>
        if digits < 3 then some (acc, .unicode high (digits + 1) (value * 16 + d))
        else takeUnit high (value * 16 + d) acc
  | .high high, c => if c = '\\' then some (acc, .highBackslash high) else none
  | .highBackslash high, c => if c = 'u' then some (acc, .unicode (some high) 0 0) else none

/-! ## Reading values -/

/-- A container that is being read, with what it has so far in reverse. -/
inductive Container where
  | element (done : List Json)
  | member (done : List (String × Json)) (key : String)

/-- What the reader waits for, or is in the middle of. -/
inductive Mode where
  /-- A value; `first` when a `]` may stand in its place. -/
  | value (first : Bool)
  /-- A key of an object; `first` when a closing brace may stand in its place. -/
  | key (done : List (String × Json)) (first : Bool)
  | colon (done : List (String × Json)) (key : String)
  | after (v : Json)
  | word (acc : List Char)
  /-- Inside of a text: a value, or a key after the members that are done. -/
  | text (done : Option (List (String × Json))) (acc : List Char) (state : TextState)

/-- The reader. -/
structure Reader where
  stack : List Container
  mode : Mode

/-- A blank between two tokens. -/
def isBlank (c : Char) : Bool := c = ' ' || c = '\t' || c = '\n' || c = '\r'

/-- A character of a number or of a word. -/
def isWordChar (c : Char) : Bool := c.isAlphanum || c = '+' || c = '-' || c = '.'

/-- What a word stands for. -/
def readWord (cs : List Char) : Option Json :=
  if cs = "null".toList then some .null
  else if cs = "true".toList then some (.bool true)
  else if cs = "false".toList then some (.bool false)
  else if h : isNumber cs = true then some (.number ⟨cs, h⟩)
  else none

/-- One character after a value. -/
def stepAfter (stack : List Container) (v : Json) (c : Char) : Option Reader :=
  if isBlank c then some ⟨stack, .after v⟩
  else
    match stack with
    | .element done :: stack =>
        if c = ',' then some ⟨.element (v :: done) :: stack, .value false⟩
        else if c = ']' then some ⟨stack, .after (.array (v :: done).reverse)⟩
        else none
    | .member done key :: stack =>
        if c = ',' then some ⟨stack, .key ((key, v) :: done) false⟩
        else if c = '\x7d' then some ⟨stack, .after (.object ((key, v) :: done).reverse)⟩
        else none
    | [] => none

/-- One character. -/
def Reader.step (r : Reader) (c : Char) : Option Reader :=
  match r.mode with
  | .value first =>
      if isBlank c then some r
      else if isWordChar c then some ⟨r.stack, .word [c]⟩
      else if c = '"' then some ⟨r.stack, .text none [] .plain⟩
      else if c = '[' then some ⟨.element [] :: r.stack, .value true⟩
      else if c = '\x7b' then some ⟨r.stack, .key [] true⟩
      else if c = ']' ∧ first then
        match r.stack with
        | .element done :: stack => some ⟨stack, .after (.array done.reverse)⟩
        | _ => none
      else none
  | .key done first =>
      if isBlank c then some r
      else if c = '"' then some ⟨r.stack, .text (some done) [] .plain⟩
      else if c = '\x7d' ∧ first then some ⟨r.stack, .after (.object done.reverse)⟩
      else none
  | .colon done key =>
      if isBlank c then some r
      else if c = ':' then some ⟨.member done key :: r.stack, .value false⟩
      else none
  | .after v => stepAfter r.stack v c
  | .word acc =>
      if isWordChar c then some ⟨r.stack, .word (c :: acc)⟩
      else (readWord acc.reverse).bind fun v => stepAfter r.stack v c
  | .text done acc .plain =>
      if c = '"' then
        match done with
        | none => some ⟨r.stack, .after (.string (String.ofList acc.reverse))⟩
        | some done => some ⟨r.stack, .colon done (String.ofList acc.reverse)⟩
      else (scanText acc .plain c).map fun p => ⟨r.stack, .text done p.1 p.2⟩
  | .text done acc state => (scanText acc state c).map fun p => ⟨r.stack, .text done p.1 p.2⟩

/-- The value that was read, at the end of the text. -/
def Reader.finish (r : Reader) : Option Json :=
  match r.stack, r.mode with
  | [], .after v => some v
  | [], .word acc => readWord acc.reverse
  | _, _ => none

/-- The rest of a text. -/
def Reader.run (r : Reader) (cs : List Char) : Option Json :=
  (cs.foldlM Reader.step r).bind Reader.finish

/-- The value of a text. -/
def Json.parse (cs : List Char) : Option Json := Reader.run ⟨[], .value false⟩ cs

/-! ## Reading back a text -/

/-- Reading a character first, then the rest. -/
theorem run_cons (r : Reader) (c : Char) (cs : List Char) :
    r.run (c :: cs) = (r.step c).bind fun r => r.run cs := by
  unfold Reader.run
  rw [List.foldlM_cons]
  exact Option.bind_assoc _ _ _

/-- A hexadecimal digit reads back as its value. -/
theorem hexValue_digitChar {d : ℕ} (h : d < 16) : hexValue d.digitChar = some d := by
  have hall : ∀ d < 16, hexValue (Nat.digitChar d) = some d := by decide
  exact hall d h

section text

variable (stack : List Container) (done : Option (List (String × Json))) (acc rest : List Char)

/-- One digit of an escape. -/
theorem run_hexDigit (high : Option ℕ) (digits value : ℕ) {d : ℕ} (h : d < 16) :
    Reader.run ⟨stack, .text done acc (.unicode high digits value)⟩ (d.digitChar :: rest) =
      if digits < 3 then
        Reader.run ⟨stack, .text done acc (.unicode high (digits + 1) (value * 16 + d))⟩ rest
      else (takeUnit high (value * 16 + d) acc).bind fun p =>
        Reader.run ⟨stack, .text done p.1 p.2⟩ rest := by
  rw [run_cons]
  simp only [Reader.step, scanText, hexValue_digitChar h, Option.bind_some]
  split_ifs
  · rfl
  · rw [Option.bind_map]
    rfl

/-- The four digits of a unit. -/
theorem run_hexUnit (high : Option ℕ) {n : ℕ} (h : n < 0x10000) :
    Reader.run ⟨stack, .text done acc (.unicode high 0 0)⟩ (hexUnit n ++ rest) =
      (takeUnit high n acc).bind fun p => Reader.run ⟨stack, .text done p.1 p.2⟩ rest := by
  unfold hexUnit
  simp only [List.cons_append, List.nil_append]
  rw [run_hexDigit _ _ _ _ _ _ _ (Nat.mod_lt _ (by norm_num)), if_pos (by norm_num),
    run_hexDigit _ _ _ _ _ _ _ (Nat.mod_lt _ (by norm_num)), if_pos (by norm_num),
    run_hexDigit _ _ _ _ _ _ _ (Nat.mod_lt _ (by norm_num)), if_pos (by norm_num),
    run_hexDigit _ _ _ _ _ _ _ (Nat.mod_lt _ (by norm_num)), if_neg (by norm_num)]
  congr 2
  omega

/-- An escaped unit. -/
theorem run_unicodeEscape {n : ℕ} (h : n < 0x10000) :
    Reader.run ⟨stack, .text done acc .plain⟩ (unicodeEscape n ++ rest) =
      (takeUnit none n acc).bind fun p => Reader.run ⟨stack, .text done p.1 p.2⟩ rest :=
  run_hexUnit stack done acc rest none h

/-- An escaped unit after a high surrogate. -/
theorem run_lowEscape (high : ℕ) {n : ℕ} (h : n < 0x10000) :
    Reader.run ⟨stack, .text done acc (.high high)⟩ (unicodeEscape n ++ rest) =
      (takeUnit (some high) n acc).bind fun p => Reader.run ⟨stack, .text done p.1 p.2⟩ rest :=
  run_hexUnit stack done acc rest (some high) h

/-- A character that stands for itself. -/
theorem run_plain {c : Char} (hquote : c ≠ '"') (hslash : c ≠ '\\') (hblank : ' ' ≤ c) :
    Reader.run ⟨stack, .text done acc .plain⟩ (c :: rest) =
      Reader.run ⟨stack, .text done (c :: acc) .plain⟩ rest := by
  have hcontrol : ¬c.toNat < 0x20 := not_lt.mpr hblank
  rw [run_cons]
  simp [Reader.step, scanText, hquote, hslash, hcontrol]

/-- An escaped character is read as itself. -/
theorem run_escape (c : Char) :
    Reader.run ⟨stack, .text done acc .plain⟩ (escape c ++ rest) =
      Reader.run ⟨stack, .text done (c :: acc) .plain⟩ rest := by
  have hvalid : c.toNat < 0xD800 ∨ 0xDFFF < c.toNat ∧ c.toNat < 0x110000 := c.valid
  unfold escape
  by_cases hquote : c = '"'
  · rw [if_pos hquote, hquote]
    rfl
  rw [if_neg hquote]
  by_cases hslash : c = '\\'
  · rw [if_pos hslash, hslash]
    rfl
  rw [if_neg hslash]
  by_cases hascii : ' ' ≤ c ∧ c ≤ '~'
  · rw [if_pos hascii]
    exact run_plain stack done acc rest hquote hslash hascii.1
  rw [if_neg hascii]
  by_cases hn : c = '\n'
  · rw [if_pos hn, hn]
    rfl
  rw [if_neg hn]
  by_cases hr : c = '\r'
  · rw [if_pos hr, hr]
    rfl
  rw [if_neg hr]
  by_cases ht : c = '\t'
  · rw [if_pos ht, ht]
    rfl
  rw [if_neg ht]
  by_cases hf : c = '\x0c'
  · rw [if_pos hf, hf]
    rfl
  rw [if_neg hf]
  by_cases hb : c = '\x08'
  · rw [if_pos hb, hb]
    rfl
  rw [if_neg hb]
  by_cases hunit : c.toNat < 0x10000
  · rw [if_pos hunit]
    have htake : takeUnit none c.toNat acc = some (c :: acc, .plain) := by
      unfold takeUnit
      dsimp only
      rw [if_neg (by omega), if_neg (by omega), Char.ofNat_toNat]
    rw [run_unicodeEscape stack done acc rest hunit, htake]
    rfl
  · -- a pair of surrogates
    rw [if_neg hunit]
    have hhigh : takeUnit none (0xD800 + (c.toNat - 0x10000) / 0x400) acc =
        some (acc, .high (0xD800 + (c.toNat - 0x10000) / 0x400)) := by
      unfold takeUnit
      exact if_pos (by omega)
    have hlow : takeUnit (some (0xD800 + (c.toNat - 0x10000) / 0x400))
        (0xDC00 + (c.toNat - 0x10000) % 0x400) acc = some (c :: acc, .plain) := by
      have hsum : 0x10000 + (0xD800 + (c.toNat - 0x10000) / 0x400 - 0xD800) * 0x400 +
          (0xDC00 + (c.toNat - 0x10000) % 0x400 - 0xDC00) = c.toNat := by omega
      unfold takeUnit
      dsimp only
      rw [if_pos (by omega), hsum, Char.ofNat_toNat]
    rw [List.append_assoc, run_unicodeEscape _ _ _ _ (by omega), hhigh, Option.bind_some,
      run_lowEscape _ _ _ _ _ (by omega), hlow]
    rfl

/-- The characters of a text. -/
theorem run_escapes (cs : List Char) :
    Reader.run ⟨stack, .text done acc .plain⟩ (cs.flatMap escape ++ rest) =
      Reader.run ⟨stack, .text done (cs.reverse ++ acc) .plain⟩ rest := by
  induction cs generalizing acc with
  | nil => rfl
  | cons c cs ih =>
      rw [List.flatMap_cons, List.append_assoc, run_escape, ih, List.reverse_cons,
        List.append_assoc]
      rfl

/-- A text in quotes, as a value. -/
theorem run_quote (s : String) (first : Bool) :
    Reader.run ⟨stack, .value first⟩ (quote s ++ rest) =
      Reader.run ⟨stack, .after (.string s)⟩ rest := by
  have hopen : Reader.run ⟨stack, .value first⟩ (quote s ++ rest) =
      Reader.run ⟨stack, .text none [] .plain⟩ (s.toList.flatMap escape ++ ('"' :: rest)) := by
    rw [quote, List.cons_append, List.append_assoc, run_cons]
    rfl
  rw [hopen, run_escapes, List.append_nil, run_cons]
  simp [Reader.step]

/-- A text in quotes, as a key. -/
theorem run_quote_key (s : String) (members : List (String × Json)) (first : Bool) :
    Reader.run ⟨stack, .key members first⟩ (quote s ++ rest) =
      Reader.run ⟨stack, .colon members s⟩ rest := by
  have hopen : Reader.run ⟨stack, .key members first⟩ (quote s ++ rest) =
      Reader.run ⟨stack, .text (some members) [] .plain⟩
        (s.toList.flatMap escape ++ ('"' :: rest)) := by
    rw [quote, List.cons_append, List.append_assoc, run_cons]
    rfl
  rw [hopen, run_escapes, List.append_nil, run_cons]
  simp [Reader.step]

end text

/-! ## Reading back a value -/

/-- A word ends where a text ends or goes on with another character. -/
def EndsWord (rest : List Char) : Prop := ∀ c ∈ rest.head?, isWordChar c = false

/-- A character that is in no word ends a word. -/
theorem endsWord_cons {c : Char} {rest : List Char} (h : isWordChar c = false) :
    EndsWord (c :: rest) := by
  intro c' hc'
  obtain rfl := Option.some.inj hc'
  exact h

section word

variable {stack : List Container} {rest : List Char}

/-- Inside a word its characters are collected. -/
theorem run_wordChars {w : List Char} (hw : ∀ c ∈ w, isWordChar c = true) (acc : List Char) :
    Reader.run ⟨stack, .word acc⟩ (w ++ rest) =
      Reader.run ⟨stack, .word (w.reverse ++ acc)⟩ rest := by
  induction w generalizing acc with
  | nil => rfl
  | cons c w ih =>
      have hc := hw c List.mem_cons_self
      rw [List.cons_append, run_cons]
      simp only [Reader.step, hc, if_true, Option.bind_some]
      rw [ih (fun d hd => hw d (List.mem_cons_of_mem c hd)), List.reverse_cons, List.append_assoc]
      rfl

/-- A character of a word is not blank. -/
theorem isBlank_eq_false_of_isWordChar {c : Char} (h : isWordChar c = true) :
    isBlank c = false := by
  by_contra hblank
  simp only [isBlank, Bool.not_eq_false, Bool.or_eq_true, decide_eq_true_eq] at hblank
  rcases hblank with ((rfl | rfl) | rfl) | rfl <;> exact absurd h (by decide)

/-- At the end of a word the reader stands after its value. -/
theorem run_word_end {acc : List Char} {v : Json} (hread : readWord acc.reverse = some v)
    (hrest : EndsWord rest) :
    Reader.run ⟨stack, .word acc⟩ rest = Reader.run ⟨stack, .after v⟩ rest := by
  cases rest with
  | nil =>
      cases stack with
      | nil => exact hread
      | cons container stack => rfl
  | cons c rest =>
      have hc : isWordChar c = false := hrest c rfl
      rw [run_cons, run_cons]
      simp only [Reader.step, hc, hread, Option.bind_some, if_false, Bool.false_eq_true]

/-- **A word is read as what it stands for.** -/
theorem run_word {w : List Char} {v : Json} (hne : w ≠ []) (hw : ∀ c ∈ w, isWordChar c = true)
    (hread : readWord w = some v) (first : Bool) (hrest : EndsWord rest) :
    Reader.run ⟨stack, .value first⟩ (w ++ rest) = Reader.run ⟨stack, .after v⟩ rest := by
  obtain ⟨c, w, rfl⟩ := List.exists_cons_of_ne_nil hne
  have hc := hw c List.mem_cons_self
  have hstart : Reader.run ⟨stack, .value first⟩ (c :: (w ++ rest)) =
      Reader.run ⟨stack, .word [c]⟩ (w ++ rest) := by
    rw [run_cons]
    simp only [Reader.step, isBlank_eq_false_of_isWordChar hc, hc, Bool.false_eq_true, if_false,
      if_true, Option.bind_some]
  rw [List.cons_append, hstart, run_wordChars fun d hd => hw d (List.mem_cons_of_mem c hd)]
  apply run_word_end _ hrest
  rw [List.reverse_append, List.reverse_reverse]
  exact hread

end word

section number

/-- The characters of a number are those of a word. -/
theorem isWordChar_of_step {state state' : NumberState} {c : Char}
    (h : state.step c = some state') : isWordChar c = true := by
  by_contra hc
  have hdigit : c.isDigit = false := by
    simp only [isWordChar, Char.isAlphanum, Bool.or_eq_true, not_or, Bool.not_eq_true] at hc
    exact hc.1.1.1.2
  have hne : ∀ d, isWordChar d = true → c ≠ d := by
    rintro d hd rfl
    exact hc hd
  have hminus := hne '-' rfl
  have hplus := hne '+' rfl
  have hpoint := hne '.' rfl
  have hzero := hne '0' rfl
  have he := hne 'e' rfl
  have hE := hne 'E' rfl
  cases state <;> simp [NumberState.step, *] at h

/-- What the number automaton reads are characters of a word. -/
theorem isWordChar_of_foldlM {cs : List Char} {state state' : NumberState}
    (h : cs.foldlM NumberState.step state = some state') : ∀ c ∈ cs, isWordChar c = true := by
  induction cs generalizing state with
  | nil => exact fun c hc => absurd hc List.not_mem_nil
  | cons c cs ih =>
      rw [List.foldlM_cons] at h
      obtain ⟨next, hnext, hrest⟩ := Option.bind_eq_some_iff.mp h
      intro d hd
      rcases List.mem_cons.mp hd with rfl | hd
      · exact isWordChar_of_step hnext
      · exact ih hrest d hd

/-- A number is made of characters of a word. -/
theorem isWordChar_of_isNumber {cs : List Char} (h : isNumber cs = true) :
    ∀ c ∈ cs, isWordChar c = true := by
  rcases Bool.or_eq_true _ _ |>.mp h with hword | hnumber
  · have hmem : cs ∈ nonNumbers := by simpa using hword
    simp only [nonNumbers, List.mem_cons, List.not_mem_nil, or_false] at hmem
    rcases hmem with rfl | rfl | rfl <;> exact List.all_eq_true.mp rfl
  · rcases hstate : cs.foldlM NumberState.step .start with _ | state
    · rw [hstate] at hnumber
      cases hnumber
    · exact isWordChar_of_foldlM hstate

/-- The text of a number reads as the number. -/
theorem readWord_number (text : NumberText) : readWord text.1 = some (.number text) := by
  obtain ⟨cs, h⟩ := text
  have hne : ∀ w, isNumber w = false → cs ≠ w := by
    rintro w hw rfl
    rw [hw] at h
    cases h
  unfold readWord
  rw [if_neg (hne _ rfl), if_neg (hne _ rfl), if_neg (hne _ rfl), dif_pos h]

/-- The text of a number is not empty. -/
theorem number_ne_nil (text : NumberText) : text.1 ≠ [] := by
  obtain ⟨cs, h⟩ := text
  rintro rfl
  cases h

end number

section value

/-- What is printed after an element ends a word. -/
theorem endsWord_printElements (xs : List Json) (rest : List Char) :
    EndsWord (Json.printElements xs ++ rest) := by
  cases xs with
  | nil => exact endsWord_cons rfl
  | cons x xs => exact endsWord_cons rfl

/-- What is printed after a member's value ends a word. -/
theorem endsWord_printMembers (ms : List (String × Json)) (rest : List Char) :
    EndsWord (Json.printMembers ms ++ rest) := by
  cases ms with
  | nil => exact endsWord_cons rfl
  | cons m ms => exact endsWord_cons rfl

/-- A key and its colon. -/
theorem run_key (stack : List Container) (members : List (String × Json)) (first : Bool)
    (k : String) (rest : List Char) :
    Reader.run ⟨stack, .key members first⟩ (quote k ++ ':' :: rest) =
      Reader.run ⟨.member members k :: stack, .value false⟩ rest := by
  rw [run_quote_key, run_cons]
  rfl

mutual

/-- **A printed value is read back**, wherever it stands. -/
theorem run_print (stack : List Container) (first : Bool) (rest : List Char)
    (hrest : EndsWord rest) :
    ∀ v : Json, Reader.run ⟨stack, .value first⟩ (v.print ++ rest) =
      Reader.run ⟨stack, .after v⟩ rest
  | .null => by
      rw [Json.print]
      exact run_word (by decide) (List.all_eq_true.mp rfl) rfl first hrest
  | .bool true => by
      rw [Json.print]
      exact run_word (by decide) (List.all_eq_true.mp rfl) rfl first hrest
  | .bool false => by
      rw [Json.print]
      exact run_word (by decide) (List.all_eq_true.mp rfl) rfl first hrest
  | .number text =>
      run_word (number_ne_nil text) (isWordChar_of_isNumber text.2) (readWord_number text) first
        hrest
  | .string s => run_quote stack rest s first
  | .array [] => by
      rw [Json.print, List.cons_append, List.cons_append, List.nil_append, run_cons]
      rfl
  | .array (x :: xs) => by
      have hopen : Reader.run ⟨stack, .value first⟩ ((Json.array (x :: xs)).print ++ rest) =
          Reader.run ⟨.element [] :: stack, .value true⟩
            (x.print ++ (Json.printElements xs ++ rest)) := by
        rw [Json.print, List.cons_append, List.append_assoc, run_cons]
        rfl
      rw [hopen, run_print _ true _ (endsWord_printElements xs rest) x,
        run_printElements stack rest xs [] x]
      rfl
  | .object [] => by
      rw [Json.print, List.cons_append, List.cons_append, List.nil_append, run_cons]
      rfl
  | .object ((k, v) :: ms) => by
      have hopen : Reader.run ⟨stack, .value first⟩ ((Json.object ((k, v) :: ms)).print ++ rest) =
          Reader.run ⟨stack, .key [] true⟩
            (quote k ++ ':' :: (v.print ++ (Json.printMembers ms ++ rest))) := by
        rw [Json.print, List.cons_append, List.append_assoc, List.cons_append, List.append_assoc,
          run_cons]
        rfl
      rw [hopen, run_key, run_print _ false _ (endsWord_printMembers ms rest) v,
        run_printMembers stack rest ms [] k v]
      rfl

/-- The elements of an array after the first one. -/
theorem run_printElements (stack : List Container) (rest : List Char) :
    ∀ (xs : List Json) (done : List Json) (v : Json),
      Reader.run ⟨.element done :: stack, .after v⟩ (Json.printElements xs ++ rest) =
        Reader.run ⟨stack, .after (.array (done.reverse ++ v :: xs))⟩ rest
  | [], done, v => by
      rw [Json.printElements, List.cons_append, run_cons, ← List.reverse_cons]
      rfl
  | x :: xs, done, v => by
      have hnext : Reader.run ⟨.element done :: stack, .after v⟩
          (Json.printElements (x :: xs) ++ rest) =
            Reader.run ⟨.element (v :: done) :: stack, .value false⟩
              (x.print ++ (Json.printElements xs ++ rest)) := by
        rw [Json.printElements, List.cons_append, List.append_assoc, run_cons]
        rfl
      rw [hnext, run_print _ false _ (endsWord_printElements xs rest) x,
        run_printElements stack rest xs (v :: done) x, List.reverse_cons, List.append_assoc]
      rfl

/-- The members of an object after the first one. -/
theorem run_printMembers (stack : List Container) (rest : List Char) :
    ∀ (ms : List (String × Json)) (done : List (String × Json)) (k : String) (v : Json),
      Reader.run ⟨.member done k :: stack, .after v⟩ (Json.printMembers ms ++ rest) =
        Reader.run ⟨stack, .after (.object (done.reverse ++ (k, v) :: ms))⟩ rest
  | [], done, k, v => by
      rw [Json.printMembers, List.cons_append, run_cons, ← List.reverse_cons]
      rfl
  | (k', v') :: ms, done, k, v => by
      have hnext : Reader.run ⟨.member done k :: stack, .after v⟩
          (Json.printMembers ((k', v') :: ms) ++ rest) =
            Reader.run ⟨stack, .key ((k, v) :: done) false⟩
              (quote k' ++ ':' :: (v'.print ++ (Json.printMembers ms ++ rest))) := by
        rw [Json.printMembers, List.cons_append, List.append_assoc, List.cons_append,
          List.append_assoc, run_cons]
        rfl
      rw [hnext, run_key, run_print _ false _ (endsWord_printMembers ms rest) v',
        run_printMembers stack rest ms ((k, v) :: done) k' v', List.reverse_cons, List.append_assoc]
      rfl

end

/-- **A printed value is read back as it was.** -/
theorem parse_print (v : Json) : Json.parse v.print = some v := by
  have h := run_print [] false [] (fun c hc => absurd hc (by simp)) v
  rw [List.append_nil] at h
  exact h

-- a character outside of the basic plane is a pair of escapes
example : (Json.array [.string "é\n", .string "😀"]).print =
    "[\"\\u00e9\\n\",\"\\ud83d\\ude00\"]".toList := by decide

end value

end TripPipeline.Lib
