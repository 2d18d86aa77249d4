import Mathlib.Algebra.Order.Floor.Ring
import Mathlib.Data.Rat.Floor

/-!
# The Python values and exceptions the pipeline's code handles

The modules of the pipeline pass decoded JSON objects, Spark rows and CQL parameters around as
plain Python values. This file fixes those values once:

* `Exc`: an exception, with the classes an `except` clause or an `isinstance` test can name;
* `Datetime`: a `datetime`, naive or with a `utcoffset`, in microseconds;
* `PyVal`, `Dict`: the values of a decoded payload or row, `dict` lookups included;
* `uuidUUID`: `uuid.UUID(text)`, with the digits of every script that `int(text, 16)` reads;
* `JsonCodec`: `json.loads` and `json.dumps` as a parameter, arbitrary where a result does not
  depend on how a text is decoded. `PyJson` has Python's own.

Numbers are exact: `int` is `ℤ` and a finite `float` is the rational number it denotes. The other
three floats, which `json.loads` gives for `NaN`, `Infinity` and literals out of range, are
`NonFinite`.
-/

namespace TripPipeline.Common

/-! ## Exceptions -/

/-- The exception classes that the modelled `except` clauses and `isinstance` tests name. -/
inductive ExcType where
  | writeTimeout | unavailable | operationTimedOut | noHostAvailable | connectionError
  | invalidRequest | typeError | valueError
  | permanentDefect | keyError | attributeError
  | bufferError | kafkaException
  deriving DecidableEq, Repr

/-- A raised exception. -/
structure Exc where
  /-- `type(exc).__name__`. -/
  name : String
  /-- `str(exc)`. -/
  text : String
  /-- The named classes the exception is an instance of, its own class included. -/
  bases : List ExcType
  deriving DecidableEq, Repr

/-- `isinstance(exc, classes)`. -/
def Exc.isInstance (e : Exc) (classes : List ExcType) : Bool := e.bases.any classes.contains

/-- The reason text of a quarantined record: `f"{type(exc).__name__}: {exc}"`. -/
def Exc.reason (e : Exc) : String := e.name ++ ": " ++ e.text

/-! ## Dates and times -/

/-- A `datetime`: the wall-clock reading in microseconds since 1970-01-01T00:00, and the
`utcoffset` in microseconds (`none` for a naive value). -/
structure Datetime where
  wall : ℤ
  utcoffset : Option ℤ
  deriving DecidableEq, Repr

namespace Datetime

/-- Microseconds in an hour. -/
def hourUs : ℤ := 3600 * 1000000

/-- Microseconds in a day. -/
def dayUs : ℤ := 24 * hourUs

/-- The instant an aware value denotes, in microseconds since the epoch. -/
def instant (d : Datetime) : ℤ := d.wall - d.utcoffset.getD 0

/-- `if et.tzinfo is None: et = et.replace(tzinfo=timezone.utc)`. -/
def orUtc (d : Datetime) : Datetime :=
  match d.utcoffset with
  | none => { d with utcoffset := some 0 }
  | some _ => d

/-- `et.date()`, as a day number: the date on the wall clock. -/
def date (d : Datetime) : ℤ := d.wall / dayUs

/-- `et.replace(minute=0, second=0, microsecond=0)`: the hour on the wall clock. -/
def hour (d : Datetime) : Datetime := { d with wall := d.wall - d.wall % hourUs }

/-- Taking a naive datetime as UTC leaves its instant. -/
@[simp] theorem instant_orUtc (d : Datetime) : d.orUtc.instant = d.instant := by
  unfold orUtc instant
  cases h : d.utcoffset <;> simp [h]

/-- Taking a naive datetime as UTC leaves its wall clock. -/
@[simp] theorem orUtc_wall (d : Datetime) : d.orUtc.wall = d.wall := by
  unfold orUtc
  split <;> rfl

end Datetime

/-! ## Values and dictionaries -/

/-- The `float` values that denote no number. -/
inductive NonFinite where
  | nan | infinity | negInfinity
  deriving DecidableEq, Repr

/-- A Python value of a decoded payload, of a Spark row or of a CQL parameter list. -/
inductive PyVal where
  | none
  | bool (b : Bool)
  | int (n : ℤ)
  | float (x : ℚ)
  | nonFinite (x : NonFinite)
  | str (s : String)
  | list (xs : List PyVal)
  | dict (kvs : List (String × PyVal))
  | datetime (d : Datetime)
  | date (day : ℤ)
  | uuid (n : ℕ)

/-- A `dict` with text keys. -/
abbrev Dict := List (String × PyVal)

namespace PyVal

/-- `value in (None, "")`. -/
def isMissing : PyVal → Bool
  | .none => true
  | .str s => s = ""
  | _ => false

/-- `value is None`. -/
def isNone : PyVal → Bool
  | .none => true
  | _ => false

/-- Truth value testing, as `or` and `if` apply it. -/
def truthy : PyVal → Bool
  | .none => false
  | .bool b => b
  | .int n => n ≠ 0
  | .float x => x ≠ 0
  | .str s => s ≠ ""
  | .list xs => !xs.isEmpty
  | .dict kvs => !kvs.isEmpty
  | _ => true

/-- `a or b`. -/
def orElse (a b : PyVal) : PyVal := if a.truthy then a else b

/-- A nullable column as a value. -/
def ofOption {α : Type} (f : α → PyVal) : Option α → PyVal
  | Option.none => .none
  | some a => f a

/-- An absent value is `None`. -/
@[simp] theorem ofOption_none {α : Type} (f : α → PyVal) : ofOption f Option.none = .none := rfl

/-- A present value is its Python value. -/
@[simp] theorem ofOption_some {α : Type} (f : α → PyVal) (a : α) : ofOption f (some a) = f a := rfl

end PyVal

namespace Dict

/-- `row.get(field)`. -/
def get (row : Dict) (field : String) : PyVal := (row.lookup field).getD .none

/-- `row[field]`, which raises `KeyError` on an absent key. -/
def item (row : Dict) (field : String) : Except Exc PyVal :=
  match row.lookup field with
  | some v => .ok v
  | none => .error ⟨"KeyError", "'" ++ field ++ "'", [.keyError]⟩

/-- `row[field] = value`: the key keeps its place, a new key goes to the end. -/
def set (field : String) (value : PyVal) : Dict → Dict
  | [] => [(field, value)]
  | (k, v) :: row => if k = field then (k, value) :: row else (k, v) :: set field value row

/-- `List.lookup` of a cell, with the test as a proposition. -/
theorem lookup_cons_ite (row : Dict) (k field : String) (value : PyVal) :
    List.lookup k ((field, value) :: row) = if k = field then some value else row.lookup k := by
  by_cases h : k = field
  · simp [h]
  · have hb : (k == field) = false := by simpa using h
    simp [List.lookup_cons, h, hb]

/-- An assignment changes what is found under its key only. -/
theorem lookup_set (row : Dict) (field k : String) (value : PyVal) :
    (set field value row).lookup k = if k = field then some value else row.lookup k := by
  induction row with
  | nil => rw [set, lookup_cons_ite]
  | cons p row ih =>
      obtain ⟨k', v⟩ := p
      by_cases hk : k' = field
      · subst hk
        rw [set, if_pos rfl, lookup_cons_ite, lookup_cons_ite]
        split_ifs <;> rfl
      · rw [set, if_neg hk, lookup_cons_ite, lookup_cons_ite, ih]
        by_cases h : k = k'
        · subst h
          simp [hk]
        · simp [h]

end Dict

/-- `json.loads` (`none` when it raises) and `json.dumps` of an object. -/
structure JsonCodec where
  loads : String → Option PyVal
  dumps : Dict → String

/-! ## `uuid.UUID` -/

/-- `s.replace(pat, "")` for a non-empty `pat`; `skip` counts the characters of an occurrence
still to be dropped. -/
def removeSub (pat : List Char) : ℕ → List Char → List Char
  | _, [] => []
  | skip + 1, _ :: cs => removeSub pat skip cs
  | 0, c :: cs =>
      if pat.isPrefixOf (c :: cs) then removeSub pat (pat.length - 1) cs
      else c :: removeSub pat 0 cs

/-- `s.strip(chars)`. -/
def stripChars (chars : List Char) (s : List Char) : List Char :=
  ((s.dropWhile chars.contains).reverse.dropWhile chars.contains).reverse

/-- The value of a hexadecimal digit. -/
def hexDigit (c : Char) : Option ℕ :=
  if '0' ≤ c ∧ c ≤ '9' then some (c.toNat - '0'.toNat)
  else if 'a' ≤ c ∧ c ≤ 'f' then some (c.toNat - 'a'.toNat + 10)
  else if 'A' ≤ c ∧ c ≤ 'F' then some (c.toNat - 'A'.toNat + 10)
  else none

/-- Digits of `int(text, 16)` after sign and prefix: single underscores may stand between two
digits. `digit` says whether the character before was a digit. -/
def hexDigits : (acc : ℕ) → (digit : Bool) → List Char → Option ℕ
  | acc, digit, [] => if digit then some acc else none
  | acc, digit, c :: cs =>
      if c = '_' then if digit then hexDigits acc false cs else none
      else match hexDigit c with
        | some d => hexDigits (acc * 16 + d) true cs
        | none => none

/-- The zeros of the scripts other than ASCII's, each followed by the digits from one to nine
(Unicode 14.0, as in Python 3.11; an older Python knows a few scripts less). -/
def decimalZeros : List ℕ :=
  [0x660, 0x6f0, 0x7c0, 0x966, 0x9e6, 0xa66, 0xae6, 0xb66, 0xbe6, 0xc66, 0xce6, 0xd66, 0xde6,
    0xe50, 0xed0, 0xf20, 0x1040, 0x1090, 0x17e0, 0x1810, 0x1946, 0x19d0, 0x1a80, 0x1a90, 0x1b50,
    0x1bb0, 0x1c40, 0x1c50, 0xa620, 0xa8d0, 0xa900, 0xa9d0, 0xa9f0, 0xaa50, 0xabf0, 0xff10,
    0x104a0, 0x10d30, 0x11066, 0x110f0, 0x11136, 0x111d0, 0x112f0, 0x11450, 0x114d0, 0x11650,
    0x116c0, 0x11730, 0x118e0, 0x11950, 0x11c50, 0x11d50, 0x11da0, 0x16a60, 0x16ac0, 0x16b50,
    0x1d7ce, 0x1d7d8, 0x1d7e2, 0x1d7ec, 0x1d7f6, 0x1e140, 0x1e2f0, 0x1e950, 0x1fbf0]

/-- White space other than ASCII's, for `int`. -/
def wideSpaces : List ℕ :=
  [0x85, 0xa0, 0x1680, 0x2000, 0x2001, 0x2002, 0x2003, 0x2004, 0x2005, 0x2006, 0x2007, 0x2008,
    0x2009, 0x200a, 0x2028, 0x2029, 0x202f, 0x205f, 0x3000]

/-- A character as `int` reads it: a decimal digit of any script is that digit, white space is a
blank, and nothing else outside ASCII is read. -/
def asciiDigit (c : Char) : Char :=
  if c.toNat < 128 then c
  else if wideSpaces.contains c.toNat then ' '
  else
    match decimalZeros.find? fun first => first ≤ c.toNat && c.toNat < first + 10 with
    | some first => (c.toNat - first).digitChar
    | none => '?'

/-- `int(text, 16)`. -/
def intBase16 (text : List Char) : Option ℤ :=
  let digits (cs : List Char) : Option ℕ :=
    match cs with
    | '0' :: 'x' :: '_' :: r => hexDigits 0 false r
    | '0' :: 'x' :: r => hexDigits 0 false r
    | '0' :: 'X' :: '_' :: r => hexDigits 0 false r
    | '0' :: 'X' :: r => hexDigits 0 false r
    | r => hexDigits 0 false r
  match stripChars [' ', '\t', '\n', '\r', '\x0b', '\x0c'] (text.map asciiDigit) with
  | '-' :: cs => (digits cs).map fun n => -(n : ℤ)
  | '+' :: cs => (digits cs).map fun n => (n : ℤ)
  | cs => (digits cs).map fun n => (n : ℤ)

/-- `uuid.UUID(text)`: a `urn:`/`uuid:` prefix, braces and hyphens are dropped, 32 characters
must remain, and they are read as one hexadecimal number.
Source: Python's `uuid.UUID.__init__`, as `build_statements` calls it -/
def uuidOfText (text : String) : Option ℕ :=
  let hex := removeSub "uuid:".toList 0 (removeSub "urn:".toList 0 text.toList)
  let hex := removeSub "-".toList 0 (stripChars ['{', '}'] hex)
  if hex.length = 32 then
    match intBase16 hex with
    | some (.ofNat n) => some n
    | _ => none
  else none

/-- `uuid.UUID(value)` on a value of a row: a text that is no UUID raises `ValueError`, any other
value has no `replace` method. -/
def uuidUUID : PyVal → Except Exc ℕ
  | .str s =>
      match uuidOfText s with
      | some n => .ok n
      | none => .error ⟨"ValueError", "badly formed hexadecimal UUID string", [.valueError]⟩
  | .none => .error ⟨"TypeError",
      "one of the hex, bytes, bytes_le, fields, or int arguments must be given", [.typeError]⟩
  | _ => .error ⟨"AttributeError", "object has no attribute 'replace'", [.attributeError]⟩

/-- Hyphens, letter case and the script of a decimal digit do not change the UUID a text denotes. -/
example : uuidOfText "0000000000000000000000000000002A" =
      uuidOfText "00000000-0000-0000-0000-00000000002a" ∧
    uuidOfText "00000000-0000-0000-0000-00000000002a" =
      uuidOfText "000000000000000000000000000000٢a" := by decide

end TripPipeline.Common
