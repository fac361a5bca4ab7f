import AssetMinifier.Text.Basic

/-!
# Records

A record is one line of fields with commas between them.  A field in quotes may
hold commas, line ends and doubled quotes.  Empty lines before the record are
passed over, and what follows it is not read.
-/

namespace AssetMinifier

/-- What is wrong with a field. -/
inductive FieldFault where
  | bareQuote
  | openQuote
  deriving DecidableEq, Repr

/-- The text of a field's fault. -/
def FieldFault.message : FieldFault → Text
  | bareQuote => "bare \" in non-quoted-field"
  | openQuote => "extraneous or missing \" in quoted-field"

/-- Why a text starts with no record. -/
inductive RecordError where
  /-- There is none. -/
  | missing
  /-- A field of the record that starts on a line is faulty at a place. -/
  | faulty (start line column : Nat) (fault : FieldFault)
  deriving DecidableEq, Repr

/-- The text of a record's error. -/
def RecordError.message : RecordError → Text
  | missing => "EOF"
  | faulty start line column fault =>
    let record : Text :=
      if start = line then [] else "record on line " ++ Text.ofNat start ++ "; "
    record ++ "parse error on line " ++ Text.ofNat line ++ ", column " ++ Text.ofNat column ++
      ": " ++ fault.message

namespace Record

/-- The byte of a quote. -/
def quote : UInt8 := 0x22

/-- The byte between fields. -/
def comma : UInt8 := 0x2C

/-- The byte that ends a line. -/
def lineFeed : UInt8 := 0x0A

/-- The byte that may precede the end of a line. -/
def carriageReturn : UInt8 := 0x0D

/-- All line ends as single bytes.  A carriage return at the very end does not
count. -/
def normalize : Text → Text
  | [] => []
  | [b] => if b = carriageReturn then [] else [b]
  | b :: c :: t =>
    if b = carriageReturn && c = lineFeed then normalize (c :: t)
    else b :: normalize (c :: t)

/-- Where a field is being read. -/
inductive Mode where
  | start
  | plain
  | quoted
  deriving DecidableEq, Repr

/-- Add a finished field in front. -/
def field (done : Text) (later : Except RecordError (List Text)) :
    Except RecordError (List Text) :=
  later.map (done :: ·)

/-- Read the fields of a record that starts on a line.  `done` is what was read
of the current field. -/
def fields (start : Nat) :
    Mode → (line column : Nat) → (done : Text) → Text → Except RecordError (List Text)
  | .quoted, line, column, _, [] => .error (.faulty start line column .openQuote)
  | _, _, _, done, [] => .ok [done]
  | .quoted, line, column, done, [b] =>
    if b = quote then .ok [done]
    else .error (.faulty start line (column + 1) .openQuote)
  | .quoted, line, column, done, b :: c :: t =>
    if b = quote then
      if c = quote then fields start .quoted line (column + 2) (done ++ [quote]) t
      else if c = comma then field done (fields start .start line (column + 2) [] t)
      else if c = lineFeed then .ok [done]
      else .error (.faulty start line column .openQuote)
    else if b = lineFeed then fields start .quoted (line + 1) 1 (done ++ [b]) (c :: t)
    else fields start .quoted line (column + 1) (done ++ [b]) (c :: t)
  | mode, line, column, done, b :: t =>
    if b = lineFeed then .ok [done]
    else if b = comma then field done (fields start .start line (column + 1) [] t)
    else if b = quote then
      if mode = .start then fields start .quoted line (column + 1) [] t
      else .error (.faulty start line column .bareQuote)
    else fields start .plain line (column + 1) (done ++ [b]) t

/-- The first record of a text. -/
def first (t : Text) : Except RecordError (List Text) :=
  let t := normalize t
  let blank := (t.takeWhile (· = lineFeed)).length
  if t.length = blank then .error .missing
  else fields (blank + 1) .start (blank + 1) 1 [] (t.drop blank)

/-- The fields of a list that is written as a record.  The empty text is the
empty list. -/
def list (t : Text) : Except RecordError (List Text) :=
  if t.isEmpty then .ok [] else first t

end Record

end AssetMinifier
