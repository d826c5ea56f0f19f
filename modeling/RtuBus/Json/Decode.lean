import RtuBus.Json.Reader

/-! # Decoding JSON by shape

A `Shape` says what a JSON document must look like: an unsigned integer of some width, one of
a closed set of names, a record of named members, or a list. Decoding gives a `Datum`, the
same tree with the JSON details gone; records come out with one datum per member, in the
order the shape lists them, defaults filled in.

A record may be written as an object (members in any order, unknown members passed over,
a member twice is an error) or as an array of its members in order, where a missing tail takes
the defaults. A name may be written as a string or as an object with that one key and `null`.
Decoding a text reports the place of the first fault; decoding a value already read has no
places to report.
-/

namespace RtuBus

namespace Json

/-- A decoded document. -/
inductive Datum where
  | nat (n : Nat)
  | tag (i : Nat)
  | fields (ds : List Datum)
  | items (ds : List Datum)
  deriving Repr, Inhabited

/-- A closed set of names. -/
structure Choice where
  identifier : String
  names : List String
  lookup : String → Option Nat

/-- The form a document must have. -/
inductive Shape where
  | unsigned (bits : Nat)
  | choice (c : Choice)
  | record (name : String) (members : List (String × Shape × Option Datum))
  | list (item : Shape)

namespace Shape

/-- What a shape is called in messages. -/
def expecting : Shape → String
  | unsigned bits => "u" ++ toString bits
  | choice c => c.identifier
  | record name _ => "struct " ++ name
  | list _ => "a sequence"

end Shape

def recordLength (name : String) (n : Nat) : String :=
  "struct " ++ name ++ " with " ++ toString n ++ (if n = 1 then " element" else " elements")

/-- A number checked against an unsigned width. -/
def Number.toUnsigned (bits : Nat) : Number → Except Fault Nat
  | .nat n => if n < Nat.pow 2 bits then .ok n else .error (.invalidValue (.unsigned n) s!"u{bits}")
  | .neg n => .error (.invalidValue (.signed (-(n : Int))) s!"u{bits}")
  | .float x => .error (.invalidType (.float x) s!"u{bits}")

/-- The members of a record once all given ones are known: a default for each missing one,
or the first missing one that has none. -/
def fillDefaults :
    List (String × Shape × Option Datum) → List (Option Datum) → Except Fault (List Datum)
  | [], _ => .ok []
  | (key, _, dflt) :: rest, slot :: slots => do
    let d ← match slot, dflt with
      | some d, _ => pure d
      | none, some d => pure d
      | none, none => throw (.missingField key)
    pure (d :: (← fillDefaults rest slots))
  | (key, _, dflt) :: rest, [] => do
    let d ← match dflt with
      | some d => pure d
      | none => throw (.missingField key)
    pure (d :: (← fillDefaults rest []))

def memberIndex (members : List (String × Shape × Option Datum)) (k : String) : Option Nat :=
  members.findIdx? (·.1 == k)

/-! ## Decoding a text -/

open Read

/-- Reads a found thing that is not of the expected kind, and fails with its description. -/
def failInvalidType {α : Type} (expected : String) : Read α := do
  let b ← read
  let c := byteAt b (← get)
  let found ← do
    if c == 0x6E then eat; parseIdent [0x75, 0x6C, 0x6C]; pure Unexpected.unit
    else if c == 0x74 then eat; parseIdent [0x72, 0x75, 0x65]; pure (Unexpected.bool true)
    else if c == 0x66 then eat; parseIdent [0x61, 0x6C, 0x73, 0x65]; pure (Unexpected.bool false)
    else if c == 0x2D then eat; pure (← parseNumber false).unexpected
    else if isDigit c then pure (← parseNumber true).unexpected
    else if c == 0x22 then eat; pure (Unexpected.str (← parseStr))
    else if c == 0x5B then pure Unexpected.seq
    else if c == 0x7B then pure Unexpected.map
    else failAhead .expectedValue
  failHere (.invalidType found expected)

/-- Runs a decoding step, placing its error at the current index if it has no place yet. -/
def placed {α : Type} (x : Read α) : Read α :=
  tryCatch x fun e => do throw (← fixPosition e)

/-- Reads an unsigned integer of `bits` bits. -/
def readUnsigned (bits : Nat) : Read Nat := placed do
  match ← parseWhitespace with
  | none => failAhead .eofInValue
  | some c =>
    let n ← if c == 0x2D then do eat; parseNumber false
      else if isDigit c then parseNumber true
      else failInvalidType s!"u{bits}"
    match n.toUnsigned bits with
    | .ok v => pure v
    | .error f => throw { fault := f }

/-- Reads a name as a string and looks it up. -/
def readIdentifier (c : Choice) : Read Nat := placed do
  match ← parseWhitespace with
  | none => failAhead .eofInValue
  | some 0x22 =>
    eat
    let s ← parseStr
    match c.lookup s with
    | some i => pure i
    | none => throw { fault := .unknownVariant s c.names }
  | some _ => failInvalidType c.identifier

/-- Reads the `null` after a name written as an object key. -/
def readUnit : Read Unit := placed do
  match ← parseWhitespace with
  | none => failAhead .eofInValue
  | some 0x6E => eat; parseIdent [0x75, 0x6C, 0x6C]
  | some _ => failInvalidType "unit"

/-- Reads a name: a string, or an object with the name as its one key and `null`. The key of
such an object must be a string; an object closed at once has no value where one is due. -/
def readChoice (c : Choice) : Read Nat := do
  match ← parseWhitespace with
  | some 0x22 => readIdentifier c
  | some 0x7B =>
    eat
    match ← parseWhitespace with
    | some 0x22 => pure ()
    | some 0x7D => failAhead .expectedValue
    | some _ => failAhead .keyMustBeAString
    | none => failAhead .eofInObject
    let i ← readIdentifier c
    parseColon
    readUnit
    match ← parseWhitespace with
    | some 0x7D => eat; pure i
    | some _ => fail .expectedValue
    | none => fail .eofInObject
  | some _ => failAhead .expectedValue
  | none => failAhead .eofInValue

mutual
/-- Reads a document of shape `s`. -/
def readShape : Nat → Shape → Read Datum
  | 0, _ => fail .eofInValue
  | _ + 1, .unsigned bits => .nat <$> readUnsigned bits
  | _ + 1, .choice c => .tag <$> readChoice c
  | fuel + 1, .record name members => placed do
    match ← parseWhitespace with
    | none => failAhead .eofInValue
    | some 0x5B =>
      eat
      let r ← observe (readRecordItems fuel name members.length members true)
      let close ← observe endSeq
      .fields <$> closeWith r close
    | some 0x7B =>
      eat
      let r ← observe (readRecordMembers fuel members (members.map fun _ => none) true)
      let close ← observe endMap
      let slots ← closeWith r close
      match fillDefaults members slots with
      | .ok ds => pure (.fields ds)
      | .error f => throw { fault := f }
    | some _ => failInvalidType ("struct " ++ name)
  | fuel + 1, .list item => placed do
    match ← parseWhitespace with
    | none => failAhead .eofInValue
    | some 0x5B =>
      eat
      let r ← observe (readListItems fuel item true [])
      let close ← observe endSeq
      .items <$> closeWith r close
    | some _ => failInvalidType "a sequence"

/-- Reads the members of a record written as an array, in order; `n` is the member count. -/
def readRecordItems : Nat → String → Nat → List (String × Shape × Option Datum) → Bool →
    Read (List Datum)
  | 0, _, _, _, _ => fail .eofInValue
  | _ + 1, _, _, [], _ => pure []
  | fuel + 1, name, n, (_, shape, dflt) :: rest, first => do
    let d ← if ← hasNextItem first then readShape fuel shape
      else match dflt with
        | some d => pure d
        | none => throw { fault := .invalidLength (n - rest.length - 1) (recordLength name n) }
    let more ← readRecordItems fuel name n rest false
    pure (d :: more)

/-- Reads the members of a record written as an object into their slots. -/
def readRecordMembers :
    Nat → List (String × Shape × Option Datum) → List (Option Datum) → Bool →
      Read (List (Option Datum))
  | 0, _, _, _ => fail .eofInValue
  | fuel + 1, members, slots, first => do
    match ← nextKey first with
    | none => pure slots
    | some k =>
      match memberIndex members k with
      | none =>
        parseColon
        ignoreValue
        readRecordMembers fuel members slots false
      | some i =>
        if (slots[i]?.getD none).isSome then throw { fault := .duplicateField k }
        parseColon
        match members[i]? with
        | some (_, shape, _) =>
          let d ← readShape fuel shape
          readRecordMembers fuel members (slots.set i (some d)) false
        | none => readRecordMembers fuel members slots false

/-- Reads the items of a list. -/
def readListItems : Nat → Shape → Bool → List Datum → Read (List Datum)
  | 0, _, _, _ => fail .eofInValue
  | fuel + 1, item, first, acc => do
    if ← hasNextItem first then
      let d ← readShape fuel item
      readListItems fuel item false (acc ++ [d])
    else pure acc
end

/-- Decodes a whole text as a document of shape `s`; blanks may surround it. -/
def Shape.decodeText (s : Shape) (text : String) : Except Error Datum :=
  let b := text.toUTF8
  Read.run (do
    let d ← readShape (2 * b.size + 16) s
    endText
    pure d) b

/-! ## Decoding a value -/

/-- Looks up a name given as a value: a string, or an object with one key whose value is
`null`. -/
def Choice.ofValue (c : Choice) : Value → Except Fault Nat
  | .str s => match c.lookup s with
    | some i => .ok i
    | none => .error (.unknownVariant s c.names)
  | .obj [(k, v)] => match c.lookup k with
    | none => .error (.unknownVariant k c.names)
    | some i => match v with
      | .null => .ok i
      | other => .error (.invalidType other.unexpected "unit")
  | .obj _ => .error (.invalidValue .map "map with a single key")
  | other => .error (.invalidType other.unexpected "string or map")

mutual
/-- Decodes a value as a document of shape `s`. -/
def Shape.ofValue : Nat → Shape → Value → Except Fault Datum
  | 0, _, _ => .error (.malformed .recursionLimitExceeded)
  | _ + 1, .unsigned bits, v => match v with
    | .num n => .nat <$> n.toUnsigned bits
    | other => .error (.invalidType other.unexpected s!"u{bits}")
  | _ + 1, .choice c, v => .tag <$> c.ofValue v
  | fuel + 1, .record name members, v => match v with
    | .arr items => do
      let ds ← recordOfItems fuel name members.length members items
      if members.length < items.length then
        throw (.invalidLength items.length "fewer elements in array")
      pure (.fields ds)
    | .obj given => do
      let slots ← recordOfMembers fuel members given (members.map fun _ => none)
      .fields <$> fillDefaults members slots
    | other => .error (.invalidType other.unexpected ("struct " ++ name))
  | fuel + 1, .list item, v => match v with
    | .arr items => .items <$> listOfItems fuel item items
    | other => .error (.invalidType other.unexpected "a sequence")

/-- The members of a record given as an array, in order. -/
def recordOfItems :
    Nat → String → Nat → List (String × Shape × Option Datum) → List Value →
      Except Fault (List Datum)
  | 0, _, _, _, _ => .error (.malformed .recursionLimitExceeded)
  | _ + 1, _, _, [], _ => .ok []
  | fuel + 1, name, n, (_, shape, dflt) :: rest, items => do
    let d ← match items, dflt with
      | v :: _, _ => Shape.ofValue fuel shape v
      | [], some d => pure d
      | [], none => throw (.invalidLength (n - rest.length - 1) (recordLength name n))
    pure (d :: (← recordOfItems fuel name n rest items.tail))

/-- The members of a record given as an object, into their slots. -/
def recordOfMembers : Nat → List (String × Shape × Option Datum) → List (String × Value) →
    List (Option Datum) → Except Fault (List (Option Datum))
  | 0, _, _, _ => .error (.malformed .recursionLimitExceeded)
  | _ + 1, _, [], slots => .ok slots
  | fuel + 1, members, (k, v) :: rest, slots =>
    match memberIndex members k with
    | none => recordOfMembers fuel members rest slots
    | some i => match members[i]? with
      | some (_, shape, _) => do
        let d ← Shape.ofValue fuel shape v
        recordOfMembers fuel members rest (slots.set i (some d))
      | none => recordOfMembers fuel members rest slots

/-- The items of a list. -/
def listOfItems : Nat → Shape → List Value → Except Fault (List Datum)
  | 0, _, _ => .error (.malformed .recursionLimitExceeded)
  | _ + 1, _, [] => .ok []
  | fuel + 1, item, v :: rest => do
    let d ← Shape.ofValue fuel item v
    pure (d :: (← listOfItems fuel item rest))
end

/-- Decodes a value as a document of shape `s`; such errors have no place. -/
def Shape.decodeValue (s : Shape) (v : Value) : Except Error Datum :=
  match Shape.ofValue (2 * v.weight + 16) s v with
  | .ok d => .ok d
  | .error f => .error { fault := f }

end Json

end RtuBus
