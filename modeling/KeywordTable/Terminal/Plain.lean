/-!
# Plain Text

Text as it is printed where escape sequences are not understood. The sequences
are dropped, and so are controls that are no white space.

A sequence starts with an escape character, and what comes next tells how it
ends. A control sequence, after a bracket, ends at its first letter or mark from
`@` to `~`. A title, after the other bracket, ends at a bell. A device string
has a head before its text; from the text on it ends where the byte `9C` comes,
and so do the remaining strings from their start. All else ends at the first
character that is not an intermediate one. An escape or a cancel ends every
sequence.

White space inside a short sequence is printed. In a text that stands alone it
breaks the sequence off. On a stream it only suspends it: what follows is
printed up to the next control, or up to the end of what is printed at once, and
then the sequence goes on. A character outside ASCII breaks a suspended sequence
off. A stream stays in its sequence from one text to the next.

The walk over the text is a machine with one state for each of these. Each
character leads to a new state and is kept or dropped.

## Main definitions

* `PlainState`: Where in a sequence the text is.
* `PlainState.next`: The state after a character, and whether it is kept.
* `PlainState.print`: What a stream shows of a text.
* `plainText`: A text that stands alone, without sequences and controls.
* `Printed.add`: Prints text on a stream.
-/

namespace KeywordTable

namespace Terminal

/-- Where in a short sequence the text is. -/
inductive ShortSequence where
  /-- Directly after the escape character. -/
  | escape
  /-- After an intermediate character. -/
  | intermediate
  /-- In a control sequence. -/
  | control
  deriving Repr, DecidableEq

/-- Where in the head of a device string the text is. -/
inductive DeviceHead where
  /-- Directly after its letter. -/
  | start
  /-- In its parameters. -/
  | parameters
  /-- After an intermediate character. -/
  | intermediate
  deriving Repr, DecidableEq

/-- Where in a sequence the text is. -/
inductive PlainState where
  /-- In no sequence. -/
  | ground
  | short (sequence : ShortSequence)
  /-- After white space in a short sequence that is to go on. -/
  | suspended (sequence : ShortSequence)
  /-- In a title, which ends at a bell. -/
  | title
  | device (head : DeviceHead)
  /-- In a string that the byte `9C` ends. -/
  | string
  deriving Repr, DecidableEq

/-- A control that is white space. -/
def isWhiteControl (c : Char) : Bool :=
  c == '\t' || c == '\n' || c == '\x0c' || c == '\r'

/-- The character's number lies between the two. -/
def inCodes (first last : Nat) (c : Char) : Bool :=
  first ≤ c.toNat && c.toNat ≤ last

/-- The character is kept where there is no sequence. -/
def isKept (c : Char) : Bool :=
  isWhiteControl c || (0x20 ≤ c.toNat && c.toNat != 0x7F)

/-- The state that a character other than white space leads to. -/
def ShortSequence.next (sequence : ShortSequence) (c : Char) : PlainState :=
  match sequence with
  | .escape =>
    if c = '[' then .short .control
    else if c = ']' then .title
    else if c = 'P' then .device .start
    else if c = 'X' ∨ c = '^' ∨ c = '_' then .string
    else if inCodes 0x20 0x2F c then .short .intermediate
    else if inCodes 0x30 0x7E c then .ground
    else .short .escape
  | .intermediate => if inCodes 0x30 0x7E c then .ground else .short .intermediate
  | .control => if inCodes 0x40 0x7E c then .ground else .short .control

/-- The state that a character leads to. A parameter where there may be none any
    more makes the rest a string without a meaning. -/
def DeviceHead.next (head : DeviceHead) (c : Char) : PlainState :=
  if inCodes 0x20 0x2F c then .device .intermediate
  else if inCodes 0x40 0x7E c then .string
  else if inCodes 0x30 0x3F c then
    match head with
    | .start => .device .parameters
    | .parameters => if inCodes 0x30 0x3B c then .device .parameters else .string
    | .intermediate => .string
  else .device head

namespace PlainState

/-- The state after a character, and whether the character is kept. White space
    in a short sequence leads to the state `atWhite`. -/
def next (atWhite : ShortSequence → PlainState) (state : PlainState) (c : Char) :
    PlainState × Bool :=
  if c = '\x1b' then (.short .escape, false)
  else if c = '\x18' ∨ c = '\x1a' then (.ground, false)
  else match state with
    | .ground => (.ground, isKept c)
    | .short sequence =>
      if isWhiteControl c then (atWhite sequence, true) else (sequence.next c, false)
    | .suspended sequence =>
      if !isKept c then (.short sequence, false)
      else (if c.toNat < 0x80 then .suspended sequence else .ground, true)
    | .title => (if c = '\x07' then .ground else .title, false)
    | .device head => (head.next c, false)
    | .string => (if 0x9C ∈ String.utf8EncodeChar c then .ground else .string, false)

/-- Takes one character and keeps it or not. The kept ones are in reverse
    order. -/
def step (atWhite : ShortSequence → PlainState) (done : PlainState × List Char) (c : Char) :
    PlainState × List Char :=
  let (state, keep) := done.1.next atWhite c
  (state, if keep then c :: done.2 else done.2)

/-- The state in which the next text starts. -/
def resumed : PlainState → PlainState
  | .suspended sequence => .short sequence
  | state => state

/-- The state after some characters, and the characters that are kept. -/
def walk (atWhite : ShortSequence → PlainState) (state : PlainState) (cs : List Char) :
    PlainState × List Char :=
  let (state, kept) := cs.foldl (step atWhite) (state, [])
  (state, kept.reverse)

/-- The state of a stream after a text, and what is printed of the text. -/
def print (state : PlainState) (text : String) : PlainState × String :=
  let (state, kept) := state.resumed.walk suspended text.toList
  (state, .ofList kept)

end PlainState

/-- A text that stands alone, without sequences and controls. -/
def plainText (text : String) : String :=
  .ofList (PlainState.walk (fun _ => .ground) .ground text.toList).2

/-- What was printed on a stream. -/
structure Printed where
  text : String := ""
  /-- Where in a sequence the last plain text ended. -/
  state : PlainState := .ground

namespace Printed

/-- Prints text as it is. -/
def addStyled (p : Printed) (text : String) : Printed :=
  { p with text := p.text ++ text }

/-- Prints text without sequences and controls. -/
def addPlain (p : Printed) (text : String) : Printed :=
  let (state, plain) := p.state.print text
  { text := p.text ++ plain, state }

/-- Prints text on a stream that understands sequences or does not. -/
def add (p : Printed) (styled : Bool) (text : String) : Printed :=
  if styled then p.addStyled text else p.addPlain text

end Printed

end Terminal

end KeywordTable
