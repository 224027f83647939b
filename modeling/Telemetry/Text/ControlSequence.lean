/-! Texts without their control sequences, for where no terminal is there to obey them. What
counts is which characters a terminal of the VT500 family would show; which function a sequence
has is of no interest. -/
namespace Telemetry.Text

/-- What a terminal is in the middle of reading. -/
inductive TerminalState where
  | ground
  /-- Behind an escape character. -/
  | escape
  /-- Behind an escape character and some intermediate ones. -/
  | escapeIntermediate
  /-- In a sequence with parameters, up to its final letter. -/
  | sequence
  /-- In a command to the operating system. -/
  | systemCommand
  /-- In front of, between and behind the parameters of a string for a device. -/
  | deviceEntry
  | deviceParameter
  | deviceIntermediate
  /-- In a string that is for others than the terminal. -/
  | foreignString
deriving DecidableEq, Repr

/-- What the character behind an escape character begins; most are complete with it. -/
def TerminalState.introducedBy (c : Char) : TerminalState :=
  if c = '[' then .sequence
  else if c = ']' then .systemCommand
  else if c = 'P' then .deviceEntry
  else if c = 'X' || c = '^' || c = '_' then .foreignString
  else .ground

/-- The controls that move to another place of the text. -/
def isLayout (c : Char) : Bool := c = '\t' || c = '\n' || c = '\x0c' || c = '\r'

/-- Whether the string terminator is among the bytes of a character. -/
def hasTerminator (c : Char) : Bool := (String.utf8EncodeChar c).contains 0x9c

namespace TerminalState

/-- Where the character of a sequence or a string leads to, if it leads anywhere, and whether it
is shown. -/
def readPlain (s : TerminalState) (c : Char) : Option TerminalState × Bool :=
  let n := c.toNat
  let isControl := n < 0x20 || n = 0x7f
  let isIntermediate := 0x20 ≤ n && n < 0x30
  let isFinal := 0x40 ≤ n && n < 0x7f
  let isBeyond := 0x80 ≤ n
  match s with
  | ground =>
    if isBeyond then (some .ground, true) else (none, if isControl then isLayout c else true)
  | escape =>
    if isControl || isBeyond then (none, isLayout c)
    else (some (if isIntermediate then .escapeIntermediate else .introducedBy c), false)
  | escapeIntermediate =>
    if isControl || isBeyond || isIntermediate then (none, isLayout c) else (some .ground, false)
  | sequence => if isFinal then (some .ground, false) else (none, isLayout c)
  | systemCommand => (if n = 0x07 then some .ground else none, false)
  | deviceEntry =>
    (if isFinal then some .foreignString
      else if isIntermediate then some .deviceIntermediate
      else if isControl || isBeyond then none
      else some .deviceParameter, false)
  | deviceParameter =>
    (if isFinal || 0x3c ≤ n && n < 0x40 then some .foreignString
      else if isIntermediate then some .deviceIntermediate else none, false)
  | deviceIntermediate => (if 0x30 ≤ n && n < 0x7f then some .foreignString else none, false)
  | foreignString => (if isBeyond && hasTerminator c then some .ground else none, false)

/-- Like `readPlain`, with the characters that begin and cancel a sequence anywhere. -/
def read (s : TerminalState) (c : Char) : Option TerminalState × Bool :=
  if c = '\x1b' then (some .escape, false)
  else if c = '\x18' || c = '\x1a' then (some .ground, false)
  else s.readPlain c

end TerminalState

/-- The characters that are shown. A layout control is shown even inside a sequence, and then
begins a run: what follows is text, up to the next character that is not shown, which then
belongs to the sequence again. -/
def shownFrom : TerminalState → Bool → List Char → List Char
  | _, _, [] => []
  | s, inRun, c :: rest =>
    let (next, isShown) := TerminalState.read (if inRun then .ground else s) c
    let s := next.getD s
    if isShown then
      c :: shownFrom (if inRun then s else (TerminalState.ground.read c).1.getD s) true rest
    else shownFrom (if inRun then (s.read c).1.getD s else s) false rest

def withoutControls (s : String) : String := String.ofList (shownFrom .ground false s.toList)

end Telemetry.Text
