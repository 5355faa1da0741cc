/-! # Plain text

Text for a terminal may hold **control sequences**, which an escape character
starts and which change how the terminal looks or works.  `plain` is what is left of
a text when they and the other controls are taken out: the visible characters and
the blank controls (tab, line feed, form feed and carriage return).

The reader goes through the text one character at a time.  Its `Place` says inside
which kind of sequence it stands.  A sequence is an escape and a letter, perhaps with
intermediates between them; or a control sequence behind `[`, up to its final letter;
or one of the strings: a device control string behind `P`, a system command behind `]`,
which a bell ends, and three kinds of which nothing is read.  A cancel ends every
sequence, and an escape starts the next.

A blank control inside a sequence that is no string takes effect at once.  The reader
then **lingers**: what is shown behind the blank is shown too, up to the next
character that is not, from where the sequence is read on.

The main statement is `plain_of_shown`: a text without controls stays as it is. -/

namespace CodeGrant.Terminal

/-- Where the reader stands. -/
inductive Place where
  /-- Outside every sequence. -/
  | ground
  /-- Behind an escape. -/
  | escape
  /-- Behind an escape and an intermediate. -/
  | escapeIntermediate
  /-- In a control sequence. -/
  | sequence
  /-- In front of the parameters of a device control string. -/
  | deviceEntry
  /-- In the parameters of a device control string. -/
  | deviceParameter
  /-- Behind an intermediate of a device control string. -/
  | deviceIntermediate
  /-- In the rest of a device control string, or in a string of which nothing is read. -/
  | body
  /-- In a system command. -/
  | command
  deriving DecidableEq, Repr

/-- A character that may stand between an escape and the letter it belongs to. -/
def isIntermediate (c : Char) : Bool := ' ' ≤ c && c ≤ '/'

/-- A character of which parameters consist. -/
def isParameter (c : Char) : Bool := '0' ≤ c && c ≤ '?'

/-- A character that ends a control sequence. -/
def isFinal (c : Char) : Bool := '@' ≤ c && c ≤ '~'

/-- A control that moves on in the page. -/
def isBlankControl (c : Char) : Bool := c == '\t' || c == '\n' || c == '\x0c' || c == '\r'

/-- A character that is shown outside every sequence. -/
def isShown (c : Char) : Bool := isBlankControl c || (' ' ≤ c && c != '\x7f')

/-- Whether a byte of the encoding of a character is `9C`, the control that ends a string.  Only
the bytes behind the first can be, and each of them holds six bits. -/
def holdsTerminator (c : Char) : Bool :=
  let n := c.toNat
  (0x80 ≤ n && n % 64 == 0x1C) || (0x800 ≤ n && n / 64 % 64 == 0x1C)
    || (0x10000 ≤ n && n / 4096 % 64 == 0x1C)

namespace Place

/-- Whether a blank control takes effect here. -/
def heedsBlanks : Place → Bool
  | escape | escapeIntermediate | sequence => true
  | ground | deviceEntry | deviceParameter | deviceIntermediate | body | command => false

/-- The place behind a character that is not shown, cancels nothing and is no escape. -/
def next (place : Place) (c : Char) : Place :=
  match place with
  | ground => ground
  | escape =>
    if isIntermediate c then escapeIntermediate
    else if c = '[' then sequence
    else if c = ']' then command
    else if c = 'P' then deviceEntry
    else if c = 'X' ∨ c = '^' ∨ c = '_' then body
    else if isParameter c || isFinal c then ground
    else escape
  | escapeIntermediate => if isParameter c || isFinal c then ground else escapeIntermediate
  | sequence => if isFinal c then ground else sequence
  | deviceEntry =>
    if isIntermediate c then deviceIntermediate
    else if isParameter c then deviceParameter
    else if isFinal c then body
    else deviceEntry
  | deviceParameter =>
    if isIntermediate c then deviceIntermediate
    else if ('<' ≤ c && c ≤ '?') || isFinal c then body
    else deviceParameter
  | deviceIntermediate => if isParameter c || isFinal c then body else deviceIntermediate
  | body => if holdsTerminator c then ground else body
  | command => if c = '\x07' then ground else command

end Place

/-- The reader of a text. -/
structure Reader where
  place : Place := .ground
  /-- Whether it shows what follows a blank in a sequence. -/
  lingers : Bool := false
  deriving DecidableEq, Repr

namespace Reader

/-- The reader behind a character, and whether that is shown. -/
def step (reader : Reader) (c : Char) : Reader × Bool :=
  if (reader.place == .ground || reader.lingers) && isShown c then
    (if c ≤ '~' then reader else {}, true)
  else if c = '\x18' ∨ c = '\x1a' then ({}, false)
  else if c = '\x1b' then ({ place := .escape }, false)
  else if reader.place.heedsBlanks && isBlankControl c then ({ reader with lingers := true }, true)
  else ({ place := reader.place.next c }, false)

/-- What is shown of a text. -/
def shown (reader : Reader) : List Char → List Char
  | [] => []
  | c :: cs =>
    let (reader, visible) := reader.step c
    if visible then c :: reader.shown cs else reader.shown cs

end Reader

/-- A text without control sequences and other controls. -/
def plain (text : String) : String := String.ofList (Reader.shown {} text.toList)

/-- What is shown outside sequences is kept. -/
theorem Reader.shown_append (cs rest : List Char) (h : ∀ c ∈ cs, isShown c = true) :
    Reader.shown {} (cs ++ rest) = cs ++ Reader.shown {} rest := by
  induction cs with
  | nil => rfl
  | cons c cs ih =>
    have hc : isShown c = true := h c (by simp)
    have hs : Reader.step {} c = ({}, true) := by simp [Reader.step, hc]
    rw [List.cons_append, Reader.shown, hs]
    simp [ih fun d hd => h d (by simp [hd])]

/-- **A text without controls stays as it is.** -/
theorem plain_of_shown (text : String) (h : ∀ c ∈ text.toList, isShown c = true) :
    plain text = text := by
  have := Reader.shown_append text.toList [] h
  simp only [List.append_nil, Reader.shown] at this
  rw [plain, this, String.ofList_toList]

example : plain "a\x1b[1mb\x1b[0m\x07 c\n" = "ab c\n" := by decide +kernel
example : plain "\x1b]title\x07x\x1b[3\ny z\x01Aw" = "x\ny zw" := by decide +kernel

end CodeGrant.Terminal
