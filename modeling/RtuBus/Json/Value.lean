import RtuBus.Binary.Text
import RtuBus.Text.Hex

/-! # JSON values

A value read from JSON text. Numbers keep the kind the reader gave them: an integer that fits
in 64 bits, signed or not, or a double. Object members are kept in increasing key order and a
later member replaces an earlier one of the same key, so a key appears once.

The compact text of a value has no blanks, members in key order, and escapes only the quote,
the backslash and control characters.
-/

namespace RtuBus

namespace Json

/-- A number as read: a 64-bit integer or a double. -/
inductive Number where
  /-- A non-negative integer below `2^64`. -/
  | nat (n : Nat)
  /-- A negative integer `-n` with `1 ≤ n ≤ 2^63`. -/
  | neg (n : Nat)
  | float (x : Binary.Finite)
  deriving Repr, DecidableEq, Inhabited

/-- A JSON value. -/
inductive Value where
  | null
  | bool (b : Bool)
  | num (n : Number)
  | str (s : String)
  | arr (items : List Value)
  /-- An object, members in increasing key order, keys distinct. -/
  | obj (members : List (String × Value))
  deriving Repr, Inhabited

/-- Numbers in JSON text and in messages: positional from `1e-5` up to below `1e16`,
otherwise with an exponent that always carries its sign; a tie goes to the even digit. -/
def numberLayout : Binary.Layout :=
  { lowest := -5, highest := 15, plusSign := true, tie := .even }

namespace Number

/-- The text of a number. -/
def text : Number → String
  | nat n => toString n
  | neg n => "-" ++ toString n
  | float x => numberLayout.finite Binary.double x

end Number

/-- Adds a member to members in increasing key order, replacing one of the same key. -/
def insertMember (k : String) (v : Value) : List (String × Value) → List (String × Value)
  | [] => [(k, v)]
  | (k', v') :: rest =>
    if k < k' then (k, v) :: (k', v') :: rest
    else if k = k' then (k, v) :: rest
    else (k', v') :: insertMember k v rest

/-- The escaped form of one character inside a quoted string. -/
def escapeChar (c : Char) : List Char :=
  if c = '"' then ['\\', '"']
  else if c = '\\' then ['\\', '\\']
  else if c = '\n' then ['\\', 'n']
  else if c = '\r' then ['\\', 'r']
  else if c = '\t' then ['\\', 't']
  else if c.toNat = 8 then ['\\', 'b']
  else if c.toNat = 12 then ['\\', 'f']
  else if c.toNat < 0x20 then ['\\', 'u', '0', '0'] ++ Hex.digits false 2 c.toNat
  else [c]

def quote (s : String) : String :=
  String.ofList ('"' :: s.toList.flatMap escapeChar ++ ['"'])

namespace Value

mutual
/-- The compact text of a value. -/
def write : Value → String
  | null => "null"
  | bool b => if b then "true" else "false"
  | num n => n.text
  | str s => quote s
  | arr items => "[" ++ writeItems items ++ "]"
  | obj members => "\x7b" ++ writeMembers members ++ "\x7d"

/-- Array items, separated by commas. -/
def writeItems : List Value → String
  | [] => ""
  | [v] => v.write
  | v :: rest => v.write ++ "," ++ writeItems rest

/-- Object members, separated by commas. -/
def writeMembers : List (String × Value) → String
  | [] => ""
  | [(k, v)] => quote k ++ ":" ++ v.write
  | (k, v) :: rest => quote k ++ ":" ++ v.write ++ "," ++ writeMembers rest
end

mutual
/-- The number of nodes of a value. -/
def weight : Value → Nat
  | arr items => weightItems items + 1
  | obj members => weightMembers members + 1
  | _ => 1

def weightItems : List Value → Nat
  | [] => 0
  | v :: rest => v.weight + weightItems rest

/-- The number of nodes of object members. -/
def weightMembers : List (String × Value) → Nat
  | [] => 0
  | (_, v) :: rest => v.weight + weightMembers rest
end

def member? (k : String) : Value → Option Value
  | obj members => members.lookup k
  | _ => none

end Value

end Json

end RtuBus
