import RtuBus.Json.Error

/-! # Reading JSON text

The reader walks the UTF-8 bytes of a text. Blanks are space, tab, line feed and carriage
return. A string ends at its closing quote; escapes are the two-character ones and `\u` with
four hexadecimal digits, where a surrogate must come in a leading-trailing pair. A number is
an integer while it fits in 64 bits; a fraction, an exponent or a larger integer makes it a
double, computed from its digits as `decimalToDouble` says.

An error carries the place where it was found: `fail` marks the current byte, `failAhead` the
byte after the one looked at. Arrays and objects may nest 127 deep.
-/

namespace RtuBus

namespace Json

/-- Reading a text: the bytes are fixed, the index of the next unread byte is the state. An
error leaves the index where the error was found. -/
abbrev Read := ReaderT ByteArray (ExceptT Error (StateM Nat))

namespace Read

def run {α : Type} (x : Read α) (text : ByteArray) : Except Error α :=
  ((ReaderT.run x text).run.run 0).1

/-- The byte at the current index, if the text has not ended. -/
def peek : Read (Option UInt8) := do
  let b ← read
  let i ← get
  pure b[i]?

def eat : Read Unit :=
  modify (· + 1)

def here : Read Position := do
  pure (Position.ofIndex (← read) (← get))

def fail {α : Type} (code : Malformed) : Read α := do
  throw { fault := .malformed code, position := some (← here) }

/-- Fails with a syntax fault at the byte after the current one. -/
def failAhead {α : Type} (code : Malformed) : Read α := do
  let b ← read
  let i ← get
  throw { fault := .malformed code, position := some (Position.ofIndex b (min (i + 1) b.size)) }

/-- Gives an error without a place the current place. -/
def fixPosition (e : Error) : Read Error := do
  match e.position with
  | some _ => pure e
  | none => pure { e with position := some (← here) }

def failHere {α : Type} (fault : Fault) : Read α := do
  throw { fault, position := some (← here) }

def observe {α : Type} (x : Read α) : Read (Except Error α) :=
  tryCatch (Except.ok <$> x) (fun e => pure (.error e))

end Read

open Read

def isBlank (c : UInt8) : Bool :=
  c == 0x20 || c == 0x0A || c == 0x09 || c == 0x0D

def isDigit (c : UInt8) : Bool :=
  0x30 ≤ c && c ≤ 0x39

/-- The byte at `i`, or zero past the end. -/
def byteAt (b : ByteArray) (i : Nat) : UInt8 :=
  b[i]?.getD 0

/-- The index of the first non-blank byte at or after `i`. -/
def skipBlank (b : ByteArray) (i : Nat) : Nat :=
  if h : i < b.size then
    if isBlank b[i] then skipBlank b (i + 1) else i
  else i
termination_by b.size - i

/-- The index of the first non-digit at or after `i`. -/
def skipDigits (b : ByteArray) (i : Nat) : Nat :=
  if h : i < b.size then
    if isDigit b[i] then skipDigits b (i + 1) else i
  else i
termination_by b.size - i

/-- Skips blanks and looks at the next byte. -/
def parseWhitespace : Read (Option UInt8) := do
  let b ← read
  let j := skipBlank b (← get)
  set j
  pure b[j]?

/-- Reads the rest of a keyword, byte by byte. -/
def parseIdent : List UInt8 → Read Unit
  | [] => pure ()
  | c :: rest => do
    match ← peek with
    | none => fail .eofInValue
    | some d =>
      eat
      if d == c then parseIdent rest else fail .expectedIdent

/-- Reads the colon after a member name. -/
def parseColon : Read Unit := do
  match ← parseWhitespace with
  | some 0x3A => eat
  | some _ => failAhead .expectedColon
  | none => failAhead .eofInObject

/-! ## Strings -/

def hexValue (c : UInt8) : Option Nat :=
  Hex.digitValue? (Char.ofNat c.toNat)

/-- The value of the four hexadecimal digits at `i`. -/
def hex4 (b : ByteArray) (i : Nat) : Option Nat := do
  let a ← hexValue (byteAt b i)
  let c ← hexValue (byteAt b (i + 1))
  let d ← hexValue (byteAt b (i + 2))
  let e ← hexValue (byteAt b (i + 3))
  pure (((a * 16 + c) * 16 + d) * 16 + e)

def utf8Bytes (n : Nat) : Array UInt8 :=
  (String.singleton (Char.ofNat n)).toUTF8.data

/-- The byte a two-character escape stands for. -/
def shortEscape (e : UInt8) : Option UInt8 :=
  match e with
  | 0x22 => some 0x22
  | 0x5C => some 0x5C
  | 0x2F => some 0x2F
  | 0x62 => some 0x08
  | 0x66 => some 0x0C
  | 0x6E => some 0x0A
  | 0x72 => some 0x0D
  | 0x74 => some 0x09
  | _ => none

/-- Reads a string body from `i`, just after its opening quote, to just after its closing
quote, collecting its content. With `keep` the content is wanted: a surrogate escape must
have its partner, and a raw control character counts as read before the error. Without it,
escapes are only checked for their form. A fault comes with the index where it was found. -/
def scanString (keep : Bool) (b : ByteArray) (i : Nat) (acc : Array UInt8) :
    Except (Malformed × Nat) (Array UInt8 × Nat) :=
  if h : i < b.size then
    let c := b[i]
    if c == 0x22 then .ok (acc, i + 1)
    else if c == 0x5C then
      if h1 : i + 1 < b.size then
        let e := b[i + 1]
        match shortEscape e with
        | some out => scanString keep b (i + 2) (acc.push out)
        | none =>
          if e != 0x75 then .error (.invalidEscape, i + 2)
          else if h6 : i + 6 ≤ b.size then
            match hex4 b (i + 2) with
            | none => .error (.invalidEscape, i + 6)
            | some n =>
              if !keep then scanString keep b (i + 6) acc
              else if 0xDC00 ≤ n ∧ n ≤ 0xDFFF then .error (.loneSurrogate, i + 6)
              else if n < 0xD800 ∨ 0xDBFF < n then scanString keep b (i + 6) (acc ++ utf8Bytes n)
              else
                let j := i + 6
                if b.size ≤ j then .error (.eofInString, b.size)
                else if byteAt b j != 0x5C then .error (.unexpectedEndOfHexEscape, j + 1)
                else if b.size ≤ j + 1 then .error (.eofInString, b.size)
                else if byteAt b (j + 1) != 0x75 then .error (.unexpectedEndOfHexEscape, j + 2)
                else if h12 : j + 6 ≤ b.size then
                  match hex4 b (j + 2) with
                  | none => .error (.invalidEscape, j + 6)
                  | some m =>
                    if m < 0xDC00 ∨ 0xDFFF < m then .error (.loneSurrogate, j + 6)
                    else
                      let cp := (n - 0xD800) * 0x400 + (m - 0xDC00) + 0x10000
                      scanString keep b (j + 6) (acc ++ utf8Bytes cp)
                else .error (.eofInString, b.size)
          else .error (.eofInString, b.size)
      else .error (.eofInString, b.size)
    else if c < 0x20 then .error (.controlCharacter, if keep then i + 1 else i)
    else scanString keep b (i + 1) (acc.push c)
  else .error (.eofInString, b.size)
termination_by b.size - i

/-- Runs a scan of the text from the current index, moving to where it stopped. -/
def scan {α : Type} (f : ByteArray → Nat → Except (Malformed × Nat) (α × Nat)) :
    Read α := do
  let b ← read
  match f b (← get) with
  | .ok (a, j) => set j; pure a
  | .error (code, j) =>
    set j
    throw { fault := .malformed code, position := some (Position.ofIndex b j) }

def parseStr : Read String := do
  let bytes ← scan fun b i => scanString true b i #[]
  pure ((String.fromUTF8? ⟨bytes⟩).getD "")

def ignoreStr : Read Unit := do
  let _ ← scan fun b i => scanString false b i #[]
  pure ()

/-! ## Numbers -/

def u64Max : Nat := Nat.pow 2 64 - 1

def i32Max : Nat := Nat.pow 2 31 - 1

/-- Whether `a * 10 + d` exceeds `limit`. -/
def overflows (a d limit : Nat) : Bool :=
  limit / 10 ≤ a && (limit / 10 < a || limit % 10 < d)

def clampI32 (x : Int) : Int :=
  max (-((Nat.pow 2 31 : Nat) : Int)) (min x (i32Max : Int))

def powTen (k : Nat) : Binary.Finite :=
  (Binary.double.ofNat (Nat.pow 10 k)).getD default

/-- The double that a significand and a decimal exponent stand for, computed in rounded
steps: the significand rounded to a double, then multiplied or divided by `10^|exp|`
rounded to a double, where `|exp| ≤ 308`; a more negative exponent first divides by `1e308`
as often as needed, and stops at zero. `none` when the value overflows. -/
def decimalToDouble (sig : Nat) (exp : Int) : Option Binary.Finite :=
  go (exp.natAbs / 308 + 1) ((Binary.double.ofNat sig).getD default) exp
where
  go : Nat → Binary.Finite → Int → Option Binary.Finite
    | fuel, f, e =>
      if e.natAbs ≤ 308 then
        if 0 ≤ e then Binary.double.mul f (powTen e.natAbs)
        else Binary.double.div f (powTen e.natAbs)
      else if f.mant = 0 then some f
      else if 0 ≤ e then none
      else match fuel with
        | 0 => some f
        | fuel + 1 =>
          match Binary.double.div f (powTen 308) with
          | some g => go fuel g (e + 308)
          | none => none

/-- Digits of an integer part while its value fits in 64 bits: the value, the index of the
first byte not taken, and whether a digit was left because it would overflow. -/
def intDigits (b : ByteArray) (i sig : Nat) : Nat × Nat × Bool :=
  if h : i < b.size then
    if isDigit b[i] then
      let d := (b[i] - 0x30).toNat
      if overflows sig d u64Max then (sig, i, true) else intDigits b (i + 1) (sig * 10 + d)
    else (sig, i, false)
  else (sig, i, false)
termination_by b.size - i

/-- Digits of a fraction while the significand fits in 64 bits: the significand, the index
of the first byte not taken, the digits taken, and whether a digit was left. -/
def fracDigits (b : ByteArray) (i sig count : Nat) : Nat × Nat × Nat × Bool :=
  if h : i < b.size then
    if isDigit b[i] then
      let d := (b[i] - 0x30).toNat
      if overflows sig d u64Max then (sig, i, count, true)
      else fracDigits b (i + 1) (sig * 10 + d) (count + 1)
    else (sig, i, count, false)
  else (sig, i, count, false)
termination_by b.size - i

/-- Digits of an exponent after its first: the value, the index after the last digit taken,
and whether the digit just taken made it exceed the 32-bit range. -/
def expDigits (b : ByteArray) (i e : Nat) : Nat × Nat × Bool :=
  if h : i < b.size then
    if isDigit b[i] then
      let d := (b[i] - 0x30).toNat
      if overflows e d i32Max then (e, i + 1, true) else expDigits b (i + 1) (e * 10 + d)
    else (e, i, false)
  else (e, i, false)
termination_by b.size - i

abbrev NumberScan := Except (Malformed × Nat) (Number × Nat)

/-- A double with the number's sign, from significand and decimal exponent. -/
def fromParts (positive : Bool) (sig : Nat) (exp : Int) (i : Nat) : NumberScan :=
  match decimalToDouble sig exp with
  | some x => .ok (.float (if positive then x else x.negate), i)
  | none => .error (.numberOutOfRange, i)

/-- The number after an exponent too large for 32 bits: out of range unless it scales a zero
or is negative, in which case it is zero. -/
def exponentOverflow (positive zeroSig positiveExp : Bool) (b : ByteArray) (i : Nat) :
    NumberScan :=
  if !zeroSig && positiveExp then .error (.numberOutOfRange, i)
  else
    let zero : Binary.Finite := ⟨false, 0, Binary.double.minExp⟩
    .ok (.float (if positive then zero else zero.negate), skipDigits b i)

/-- The exponent part, from just after `e` or `E`. -/
def scanExponent (positive : Bool) (b : ByteArray) (i sig : Nat) (start : Int) : NumberScan :=
  let c := byteAt b i
  let positiveExp := c != 0x2D
  let i := if c == 0x2B || c == 0x2D then i + 1 else i
  match b[i]? with
  | none => .error (.eofInValue, i)
  | some d =>
    if !isDigit d then .error (.invalidNumber, i + 1)
    else
      let (e, j, overflowed) := expDigits b (i + 1) (d - 0x30).toNat
      if overflowed then exponentOverflow positive (sig == 0) positiveExp b j
      else
        let final := if positiveExp then clampI32 (start + e) else clampI32 (start - e)
        fromParts positive sig final j

/-- The rest of a number once its significand no longer fits: further digits are dropped. -/
def scanOverflowedFraction (positive : Bool) (b : ByteArray) (i sig : Nat) (exp : Int) :
    NumberScan :=
  let j := skipDigits b i
  let c := byteAt b j
  if c == 0x65 || c == 0x45 then scanExponent positive b (j + 1) sig exp
  else fromParts positive sig exp j

/-- The fraction, from just after the point. -/
def scanFraction (positive : Bool) (b : ByteArray) (i sig : Nat) (before : Int) : NumberScan :=
  let (sig, j, count, overflowed) := fracDigits b i sig 0
  if overflowed then scanOverflowedFraction positive b j sig (before - count)
  else if count = 0 then
    if j < b.size then .error (.invalidNumber, min (j + 1) b.size)
    else .error (.eofInValue, j)
  else
    let c := byteAt b j
    if c == 0x65 || c == 0x45 then scanExponent positive b (j + 1) sig (before - count)
    else fromParts positive sig (before - count) j

/-- What follows the integer digits: a fraction, an exponent, or the end of the number. -/
def scanAfterInteger (positive : Bool) (b : ByteArray) (i sig : Nat) : NumberScan :=
  let c := byteAt b i
  if c == 0x2E then scanFraction positive b (i + 1) sig 0
  else if c == 0x65 || c == 0x45 then scanExponent positive b (i + 1) sig 0
  else if positive then .ok (.nat sig, i)
  else if 1 ≤ sig ∧ sig ≤ Nat.pow 2 63 then .ok (.neg sig, i)
  else .ok (.float ((Binary.double.ofNat sig).getD default).negate, i)

/-- An integer part too long for 64 bits: its remaining digits scale by ten each. -/
def scanLongInteger (positive : Bool) (b : ByteArray) (i sig : Nat) : NumberScan :=
  let j := skipDigits b i
  let c := byteAt b j
  if c == 0x2E then scanFraction positive b (j + 1) sig (j - i)
  else if c == 0x65 || c == 0x45 then scanExponent positive b (j + 1) sig (j - i)
  else fromParts positive sig (j - i) j

/-- A number from its first digit (after the minus sign of a negative one). -/
def scanNumber (positive : Bool) (b : ByteArray) (i : Nat) : NumberScan :=
  match b[i]? with
  | none => .error (.eofInValue, i)
  | some c =>
    if c == 0x30 then
      if isDigit (byteAt b (i + 1)) then .error (.invalidNumber, min (i + 2) b.size)
      else scanAfterInteger positive b (i + 1) 0
    else if isDigit c then
      let (sig, j, overflowed) := intDigits b (i + 1) (c - 0x30).toNat
      if overflowed then scanLongInteger positive b j sig else scanAfterInteger positive b j sig
    else .error (.invalidNumber, i + 1)

def parseNumber (positive : Bool) : Read Number :=
  scan (scanNumber positive)

/-- Passes over the exponent of a number that is not kept, from just after `e` or `E`. -/
def skipExponent (b : ByteArray) (i : Nat) : Except (Malformed × Nat) (Unit × Nat) :=
  let c := byteAt b i
  let i := if c == 0x2B || c == 0x2D then i + 1 else i
  let i' := if i < b.size then i + 1 else i
  if isDigit (byteAt b i) then .ok ((), skipDigits b i') else .error (.invalidNumber, i')

/-- Passes over a number that is not kept, from its first digit. -/
def skipNumber (b : ByteArray) (i : Nat) : Except (Malformed × Nat) (Unit × Nat) :=
  let c := byteAt b i
  let i' := if i < b.size then i + 1 else i
  let afterInt : Nat → Except (Malformed × Nat) (Unit × Nat) := fun j =>
    let d := byteAt b j
    if d == 0x2E then
      let k := skipDigits b (j + 1)
      if k = j + 1 then .error (.invalidNumber, min (k + 1) b.size)
      else
        let e := byteAt b k
        if e == 0x65 || e == 0x45 then skipExponent b (k + 1) else .ok ((), k)
    else if d == 0x65 || d == 0x45 then skipExponent b (j + 1)
    else .ok ((), j)
  if c == 0x30 then
    if isDigit (byteAt b i') then .error (.invalidNumber, min (i' + 1) b.size) else afterInt i'
  else if isDigit c then afterInt (skipDigits b i')
  else .error (.invalidNumber, i')

/-! ## Arrays and objects -/

/-- Whether another item follows in an array; `first` before the first item. -/
def hasNextItem (first : Bool) : Read Bool := do
  match ← parseWhitespace with
  | none => failAhead .eofInList
  | some 0x5D => pure false
  | some c =>
    if first then pure true
    else if c == 0x2C then
      eat
      match ← parseWhitespace with
      | some 0x5D => failAhead .trailingComma
      | some _ => pure true
      | none => failAhead .eofInValue
    else failAhead .expectedListCommaOrEnd

/-- Whether another member follows in an object, and then reads its name. -/
def nextKey (first : Bool) : Read (Option String) := do
  let more ← do
    match ← parseWhitespace with
    | none => failAhead .eofInObject
    | some 0x7D => pure false
    | some c =>
      if first then
        if c == 0x22 then pure true else failAhead .keyMustBeAString
      else if c == 0x2C then
        eat
        match ← parseWhitespace with
        | some 0x22 => pure true
        | some 0x7D => failAhead .trailingComma
        | some _ => failAhead .keyMustBeAString
        | none => failAhead .eofInValue
      else failAhead .expectedObjectCommaOrEnd
  if more then
    eat
    pure (some (← parseStr))
  else pure none

/-- The end of an array: its closing bracket, or why it is missing. -/
def endSeq : Read Unit := do
  match ← parseWhitespace with
  | some 0x5D => eat
  | some 0x2C =>
    eat
    match ← parseWhitespace with
    | some 0x5D => failAhead .trailingComma
    | _ => failAhead .trailingCharacters
  | some _ => failAhead .trailingCharacters
  | none => failAhead .eofInList

/-- The end of an object: its closing brace, or why it is missing. -/
def endMap : Read Unit := do
  match ← parseWhitespace with
  | some 0x7D => eat
  | some 0x2C => failAhead .trailingComma
  | some _ => failAhead .trailingCharacters
  | none => failAhead .eofInObject

/-- The outcome of the items of a container and of its end: an error of the items wins. -/
def closeWith {α : Type} (items : Except Error α) (close : Except Error Unit) : Read α :=
  match items, close with
  | .ok a, .ok () => pure a
  | .error e, _ => throw e
  | .ok _, .error e => throw e

/-- The end of the text: nothing but blanks may follow. -/
def endText : Read Unit := do
  match ← parseWhitespace with
  | some _ => failAhead .trailingCharacters
  | none => pure ()

/-! ## Passing over a value -/

abbrev Frame := UInt8

/-- Closes containers after a value: commas and closing brackets, then the next member
name if an object continues. Returns the open containers, innermost first, or `none` when
the outermost one is closed. -/
def closeFrames : Nat → Bool → Frame → List Frame → Read (Option (List Frame))
  | 0, _, _, _ => fail .eofInValue
  | fuel + 1, acceptComma, frame, outer => do
    match ← parseWhitespace with
    | some 0x2C =>
      if acceptComma then
        eat
        pure (some (frame :: outer))
      else pure (some (frame :: outer))
    | some c =>
      if (c == 0x5D && frame == 0x5B) || (c == 0x7D && frame == 0x7B) then
        eat
        match outer with
        | [] => pure none
        | f :: rest => closeFrames fuel true f rest
      else if acceptComma then
        failAhead (if frame == 0x5B then .expectedListCommaOrEnd else .expectedObjectCommaOrEnd)
      else pure (some (frame :: outer))
    | none => failAhead (if frame == 0x5B then .eofInList else .eofInObject)

/-- Reads the member name and colon that follow in an object. -/
def skipMemberName : Read Unit := do
  match ← parseWhitespace with
  | some 0x22 => eat
  | some _ => failAhead .keyMustBeAString
  | none => failAhead .eofInObject
  ignoreStr
  match ← parseWhitespace with
  | some 0x3A => eat
  | some _ => failAhead .expectedColon
  | none => failAhead .eofInObject

/-- Passes over values without keeping them: one value, and while containers are open, the
rest of them. Nesting has no limit here; `open_` holds the open containers, innermost first. -/
def skipValues : Nat → List Frame → Read Unit
  | 0, _ => fail .eofInValue
  | fuel + 1, open_ => do
    let c ← match ← parseWhitespace with
      | none => failAhead .eofInValue
      | some c => pure c
    let opened ← do
      if c == 0x6E then eat; parseIdent [0x75, 0x6C, 0x6C]; pure none
      else if c == 0x74 then eat; parseIdent [0x72, 0x75, 0x65]; pure none
      else if c == 0x66 then eat; parseIdent [0x61, 0x6C, 0x73, 0x65]; pure none
      else if c == 0x2D then eat; scan skipNumber; pure none
      else if isDigit c then scan skipNumber; pure none
      else if c == 0x22 then eat; ignoreStr; pure none
      else if c == 0x5B || c == 0x7B then eat; pure (some c)
      else failAhead .expectedValue
    let next ← match opened, open_ with
      | some f, _ => closeFrames fuel false f open_
      | none, [] => pure none
      | none, f :: rest => closeFrames fuel true f rest
    match next with
    | none => pure ()
    | some [] => pure ()
    | some (f :: rest) =>
      if f == 0x7B then skipMemberName
      skipValues fuel (f :: rest)

def ignoreValue : Read Unit := do
  skipValues (2 * (← read).size + 8) []

/-! ## Values -/

mutual
/-- Reads a value; `depth` is how many more containers may open. -/
def parseValue : Nat → Nat → Read Value
  | 0, _ => fail .eofInValue
  | fuel + 1, depth => do
    match ← parseWhitespace with
    | none => failAhead .eofInValue
    | some c =>
      if c == 0x6E then eat; parseIdent [0x75, 0x6C, 0x6C]; pure .null
      else if c == 0x74 then eat; parseIdent [0x72, 0x75, 0x65]; pure (.bool true)
      else if c == 0x66 then eat; parseIdent [0x61, 0x6C, 0x73, 0x65]; pure (.bool false)
      else if c == 0x2D then eat; pure (.num (← parseNumber false))
      else if isDigit c then pure (.num (← parseNumber true))
      else if c == 0x22 then eat; pure (.str (← parseStr))
      else if c == 0x5B then
        if depth ≤ 1 then failAhead .recursionLimitExceeded
        eat
        let items ← observe (parseItems fuel (depth - 1) true [])
        let close ← observe endSeq
        pure (.arr (← closeWith items close))
      else if c == 0x7B then
        if depth ≤ 1 then failAhead .recursionLimitExceeded
        eat
        let members ← observe (parseMembers fuel (depth - 1) true [])
        let close ← observe endMap
        pure (.obj (← closeWith members close))
      else failAhead .expectedValue

/-- Reads the items of an array after its opening bracket, up to its end. -/
def parseItems : Nat → Nat → Bool → List Value → Read (List Value)
  | 0, _, _, _ => fail .eofInValue
  | fuel + 1, depth, first, acc => do
    if ← hasNextItem first then
      let v ← parseValue fuel depth
      parseItems fuel depth false (acc ++ [v])
    else pure acc

/-- Reads the members of an object after its opening brace, up to its end. -/
def parseMembers : Nat → Nat → Bool → List (String × Value) → Read (List (String × Value))
  | 0, _, _, _ => fail .eofInValue
  | fuel + 1, depth, first, acc => do
    match ← nextKey first with
    | some k =>
      parseColon
      let v ← parseValue fuel depth
      parseMembers fuel depth false (insertMember k v acc)
    | none => pure acc
end

/-- Reads a whole text as one value; blanks may surround it. -/
def Value.parse (text : String) : Except Error Value :=
  let b := text.toUTF8
  Read.run (do
    let v ← parseValue (2 * b.size + 8) 128
    endText
    pure v) b

end Json

end RtuBus
