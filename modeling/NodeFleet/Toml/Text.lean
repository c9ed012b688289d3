import NodeFleet.Text.Percent

/-!
# TOML: blanks, texts and keys

The smallest parts of a TOML document.  Every reader returns the characters after what
it has read, and `none` where the document breaks the rules.  A text stands between
quotation marks or apostrophes; three of them in a row open a text of several lines.
Only quotation marks admit escapes.
-/

namespace NodeFleet.Toml

/-! ## Blanks, comments and line ends -/

/-- The blanks within a line. -/
def isBlank (c : Char) : Bool :=
  c = ' ' || c = '\t'

/-- The text after the blanks at its start. -/
def skipBlanks (cs : List Char) : List Char :=
  cs.dropWhile isBlank

/-- Whether a character may stand in a comment or unescaped in a text: no control character but
the tabulator. -/
def isPlain (c : Char) : Bool :=
  c = '\t' || (0x20 ≤ c.toNat && c.toNat ≠ 0x7F)

/-- The text after a comment, if one starts here. -/
def skipComment : List Char → List Char
  | '#' :: rest => rest.dropWhile isPlain
  | cs => cs

/-- The text after one line break. -/
def cutNewline? : List Char → Option (List Char)
  | '\n' :: rest => some rest
  | '\r' :: '\n' :: rest => some rest
  | _ => none

/-- The text after the end of a line: blanks, a comment if wanted, and a line break or the end of
the document. -/
def cutLineEnd? (cs : List Char) : Option (List Char) :=
  match skipComment (skipBlanks cs) with
  | [] => some []
  | cs => cutNewline? cs

/-- The text after blanks, comments and line breaks. -/
def skipLines : Nat → List Char → List Char
  | 0, cs => cs
  | fuel + 1, cs =>
      match skipComment (skipBlanks cs) with
      | [] => []
      | rest =>
          match cutNewline? rest with
          | some rest => skipLines fuel rest
          | none => skipBlanks cs

/-! ## Texts -/

/-- The character of a scalar value in hexadecimal digits. -/
def scalar? (digits : List Char) : Option Char := do
  let values ← digits.mapM Text.Percent.hexDigit?
  let n := values.foldl (fun n digit => 16 * n + digit) 0
  if n < 0xD800 ∨ (0xDFFF < n ∧ n < 0x110000) then some (Char.ofNat n) else none

/-- The character that an escape stands for, and the text after it. -/
def readEscape? : List Char → Option (Char × List Char)
  | 'b' :: rest => some (Char.ofNat 8, rest)
  | 't' :: rest => some ('\t', rest)
  | 'n' :: rest => some ('\n', rest)
  | 'f' :: rest => some (Char.ofNat 12, rest)
  | 'r' :: rest => some ('\r', rest)
  | '"' :: rest => some ('"', rest)
  | '\\' :: rest => some ('\\', rest)
  | 'u' :: rest =>
      if rest.length < 4 then none else (scalar? (rest.take 4)).map fun c => (c, rest.drop 4)
  | 'U' :: rest =>
      if rest.length < 8 then none else (scalar? (rest.take 8)).map fun c => (c, rest.drop 8)
  | _ => none

/-- Reads a text of one line up to its closing mark; `found` are the characters so far, last
first. -/
def readLine? (mark : Char) : Nat → List Char → List Char → Option (List Char × List Char)
  | 0, _, _ => none
  | _ + 1, _, [] => none
  | fuel + 1, found, c :: rest =>
      if c = mark then some (found.reverse, rest)
      else if c = '\\' ∧ mark = '"' then do
        let (c, rest) ← readEscape? rest
        readLine? mark fuel (c :: found) rest
      else if isPlain c then readLine? mark fuel (c :: found) rest
      else none

/-- The text after the blanks and line breaks that a backslash at the end of a line takes away. -/
def skipFolded : List Char → List Char
  | '\r' :: '\n' :: rest => skipFolded rest
  | c :: rest => if isBlank c ∨ c = '\n' then skipFolded rest else c :: rest
  | [] => []

/-- Whether the line ends here but for blanks. -/
def endsLine (cs : List Char) : Bool :=
  (cutNewline? (skipBlanks cs)).isSome

/-- Reads a text of several lines up to its closing marks.  Of more than three marks in a row up to
two belong to the text.  A line break of either kind counts as one character. -/
def readLines? (mark : Char) : Nat → List Char → List Char → Option (List Char × List Char)
  | 0, _, _ => none
  | _ + 1, _, [] => none
  | fuel + 1, found, c :: rest =>
      if c = mark then
        let run := (c :: rest).takeWhile (· = mark)
        if run.length < 3 then readLines? mark fuel (mark :: found) rest
        else
          let taken := min run.length 5
          some (found.reverse ++ List.replicate (taken - 3) mark, (c :: rest).drop taken)
      else if c = '\\' ∧ mark = '"' then
        if endsLine rest then readLines? mark fuel found (skipFolded rest)
        else do
          let (c, rest) ← readEscape? rest
          readLines? mark fuel (c :: found) rest
      else
        match cutNewline? (c :: rest) with
        | some rest => readLines? mark fuel ('\n' :: found) rest
        | none => if isPlain c then readLines? mark fuel (c :: found) rest else none

/-- Reads a text of one line after its opening mark. -/
def readShort? (mark : Char) (cs : List Char) : Option (String × List Char) :=
  (readLine? mark (cs.length + 1) [] cs).map fun found => (String.ofList found.1, found.2)

/-- Reads a text of either form after its opening mark.  A line break right after three marks is
dropped. -/
def readText? (mark : Char) (cs : List Char) : Option (String × List Char) :=
  match cs with
  | b :: c :: rest =>
      if b = mark ∧ c = mark then
        let rest := (cutNewline? rest).getD rest
        (readLines? mark (rest.length + 1) [] rest).map fun found =>
          (String.ofList found.1, found.2)
      else readShort? mark cs
  | _ => readShort? mark cs

/-! ## Keys -/

/-- The characters of a key without marks. -/
def isBare (c : Char) : Bool :=
  c.isAlphanum || c = '_' || c = '-'

/-- Reads one part of a key. -/
def readPart? : List Char → Option (String × List Char)
  | '"' :: rest => readShort? '"' rest
  | '\'' :: rest => readShort? '\'' rest
  | cs =>
      match cs.takeWhile isBare with
      | [] => none
      | name => some (String.ofList name, cs.dropWhile isBare)

/-- Reads a key: parts with points between them and blanks around them.  The text after the key
starts with no blank. -/
def readKey? : Nat → List Char → Option (List String × List Char)
  | 0, _ => none
  | fuel + 1, cs => do
      let (part, rest) ← readPart? (skipBlanks cs)
      match skipBlanks rest with
      | '.' :: rest =>
          let (parts, rest) ← readKey? fuel rest
          return (part :: parts, rest)
      | rest => return ([part], rest)

/-- The number of parts that no key reaches. -/
def partLimit : Nat := 80

end NodeFleet.Toml
