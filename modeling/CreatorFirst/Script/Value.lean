import Mathlib.Data.Rat.Floor
import Mathlib.Data.Int.Log

/-!
# Values of a dynamically typed script

What a parser of structured text hands to a script, with the conversions that scripts apply to such
values without looking at their type. Numbers are exact rationals that a double can hold, with one
zero. Two lists, or two mappings, are never the same value.
-/

namespace CreatorFirst.Script

inductive Number where
  | finite (q : ℚ)
  | infinity (negative : Bool)
  | nan
  deriving DecidableEq

inductive Value where
  | undefined
  | null
  | bool (b : Bool)
  | number (x : Number)
  | string (s : String)
  | array (items : List Value)
  | object (fields : List (String × Value))

namespace Number

/-- The nearest double, the even one of two. -/
def round (q : ℚ) : Number :=
  if q = 0 then .finite 0
  else
    let unit : ℚ := 2 ^ max (Int.log 2 |q| - 52) (-1074)
    let low : ℤ := ⌊q / unit⌋
    let rest : ℚ := q / unit - low
    let nearest : ℤ :=
      if rest < 1 / 2 then low else if 1 / 2 < rest then low + 1
      else if low % 2 = 0 then low else low + 1
    if (2 : ℚ) ^ 1024 ≤ |nearest * unit| then .infinity (q < 0) else .finite (nearest * unit)

def neg : Number → Number
  | .finite q => .finite (-q)
  | .infinity negative => .infinity (!negative)
  | .nan => .nan

/-! ## Numbers in text -/

def digitOf (base : ℕ) (c : Char) : Option ℕ :=
  let digit :=
    if '0' ≤ c ∧ c ≤ '9' then c.toNat - 48
    else if 'a' ≤ c ∧ c ≤ 'f' then c.toNat - 87
    else if 'A' ≤ c ∧ c ≤ 'F' then c.toNat - 55
    else base
  if digit < base then some digit else none

/-- A sequence of digits, at least one. -/
def readDigits (base : ℕ) (cs : List Char) : Option ℕ :=
  if cs = [] then none
  else cs.foldlM (fun n c ↦ (digitOf base c).map (n * base + ·)) 0

def readExponent : List Char → Option ℤ
  | [] => some 0
  | _ :: '-' :: cs => (readDigits 10 cs).map fun n ↦ -(n : ℤ)
  | _ :: '+' :: cs => (readDigits 10 cs).map Nat.cast
  | _ :: cs => (readDigits 10 cs).map Nat.cast

/-- Digits, with a point before, between or behind them, and an exponent. -/
def readDecimal (cs : List Char) : Option ℚ := do
  let (mantissa, power) := cs.span fun c ↦ c ≠ 'e' && c ≠ 'E'
  let (whole, fraction) := mantissa.span (· ≠ '.')
  let digits ← readDigits 10 (whole ++ fraction.drop 1)
  let exponent ← readExponent power
  return digits * (10 : ℚ) ^ (exponent - (fraction.drop 1).length)

def ofUnsigned (cs : List Char) : Number :=
  if cs = "Infinity".toList then .infinity false
  else (readDecimal cs).elim .nan round

def ofBase (base : ℕ) (cs : List Char) : Number :=
  (readDigits base cs).elim .nan fun n ↦ round n

/-- White space and line ends. -/
def isSpace (c : Char) : Bool :=
  (9 ≤ c.toNat && c.toNat ≤ 13) || (0x2000 ≤ c.toNat && c.toNat ≤ 0x200a) ||
    c.toNat ∈ [0x20, 0xa0, 0x1680, 0x2028, 0x2029, 0x202f, 0x205f, 0x3000, 0xfeff]

def trim (cs : List Char) : List Char :=
  ((cs.dropWhile isSpace).reverse.dropWhile isSpace).reverse

/-- The conversion of a text. -/
def ofString (s : String) : Number :=
  match trim s.toList with
  | [] => .finite 0
  | '0' :: 'x' :: cs | '0' :: 'X' :: cs => ofBase 16 cs
  | '0' :: 'o' :: cs | '0' :: 'O' :: cs => ofBase 8 cs
  | '0' :: 'b' :: cs | '0' :: 'B' :: cs => ofBase 2 cs
  | '-' :: cs => (ofUnsigned cs).neg
  | '+' :: cs => ofUnsigned cs
  | cs => ofUnsigned cs

example : ofString " 0x1F\n" = .finite 31 := by decide +kernel
example : ofString "-12.5e1" = .finite (-125) := by decide +kernel
example : ofString "9007199254740993" = .finite 9007199254740992 := by decide +kernel
example : ofString "1,2" = .nan := by decide +kernel

/-- Equality as a script has it: what is not a number differs from everything. -/
def equals : Number → Number → Bool
  | .nan, _ | _, .nan => false
  | x, y => x = y

end Number

namespace Value

/-- `Number(value)`. A list is converted through its text, which has commas from two items on. -/
def toNumber : Value → Number
  | .undefined => .nan
  | .null => .finite 0
  | .bool b => .finite (if b then 1 else 0)
  | .number x => x
  | .string s => .ofString s
  | .array [] | .array [.undefined] | .array [.null] => .finite 0
  | .array [.bool _] => .nan
  | .array [item] => item.toNumber
  | .array (_ :: _ :: _) => .nan
  | .object _ => .nan

/-- `String(value)` where this can be one of the identifiers and hashes that texts are matched with:
a string, the only item of a list, or nothing. -/
def text : Value → String
  | .string s => s
  | .array [item] => item.text
  | _ => ""

/-- A condition takes the value for true. -/
def truthy : Value → Bool
  | .undefined | .null => false
  | .bool b => b
  | .number x => x ≠ .finite 0 && x ≠ .nan
  | .string s => s ≠ ""
  | .array _ | .object _ => true

/-- `value === s` for a string. -/
def is (value : Value) (s : String) : Bool :=
  match value with
  | .string t => t = s
  | _ => false

/-- `value === b` for a truth value. -/
def isBool (value : Value) (b : Bool) : Bool :=
  match value with
  | .bool c => c = b
  | _ => false

/-- `typeof value === 'boolean'`. -/
def isBoolean : Value → Bool
  | .bool _ => true
  | _ => false

/-- `===`. -/
def strictEquals : Value → Value → Bool
  | .undefined, .undefined | .null, .null => true
  | .bool b, .bool c => b = c
  | .number x, .number y => x.equals y
  | .string s, .string t => s = t
  | _, _ => false

/-- Equality of the keys of a map, for which what is not a number is one key. -/
def sameKey (v w : Value) : Bool :=
  match v, w with
  | .number .nan, .number .nan => true
  | _, _ => v.strictEquals w

/-- The items of a list. -/
def items? : Value → Option (List Value)
  | .array items => some items
  | _ => none

/-- `value.name`, for a value that has properties. -/
def property (value : Value) (name : String) : Value :=
  match value with
  | .object fields => (fields.lookup name).getD .undefined
  | _ => .undefined

/-! ## Integers without a bound -/

/-- The text of an integer that a double holds has as few digits as determine it, then zeros. This is
the integer that the text denotes. -/
def printed (n : ℤ) : Option ℤ :=
  let length := (Nat.toDigits 10 n.natAbs).length
  (List.range 17).findSome? fun k ↦
    let unit := 10 ^ (length - (k + 1))
    let near := n.sign * ((n.natAbs + unit / 2) / unit * unit : ℕ)
    if Number.round near = .finite n then some near else none

/-- The integer that a text denotes. -/
def readInteger (s : String) : Option ℤ :=
  match Number.trim s.toList with
  | [] => some 0
  | '0' :: 'x' :: cs | '0' :: 'X' :: cs => (Number.readDigits 16 cs).map Nat.cast
  | '0' :: 'o' :: cs | '0' :: 'O' :: cs => (Number.readDigits 8 cs).map Nat.cast
  | '0' :: 'b' :: cs | '0' :: 'B' :: cs => (Number.readDigits 2 cs).map Nat.cast
  | '-' :: cs => (Number.readDigits 10 cs).map fun n ↦ -(n : ℤ)
  | '+' :: cs => (Number.readDigits 10 cs).map Nat.cast
  | cs => (Number.readDigits 10 cs).map Nat.cast

/-- The integer that the text of a list denotes when this is its only item. From `10 ^ 21` on the text
of a number has an exponent. -/
def itemInteger : Value → Option ℤ
  | .undefined | .null | .array [] => some 0
  | .number (.finite q) => if q.den = 1 ∧ q.num.natAbs < 10 ^ 21 then printed q.num else none
  | .string s => readInteger s
  | .array [item] => item.itemInteger
  | _ => none

/-- `BigInt(value)`, which throws on what is no integer. -/
def bigInt : Value → Option ℤ
  | .bool b => some (if b then 1 else 0)
  | .number (.finite q) => if q.den = 1 then some q.num else none
  | .string s => readInteger s
  | .array [] => some 0
  | .array [item] => item.itemInteger
  | _ => none

example : bigInt (.string " 0x1F\n") = some 31 := by decide +kernel
example : bigInt (.string "-12") = some (-12) := by decide +kernel
example : bigInt (.string "1.0") = none := by decide +kernel
example : bigInt (.array [.number (.finite 1152921504606846976)]) = some 1152921504606847000 := by
  decide +kernel

theorem is_iff {v : Value} {s : String} : v.is s = true ↔ v = .string s := by
  cases v <;> simp [is]

end Value

end CreatorFirst.Script
