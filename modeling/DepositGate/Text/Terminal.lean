/-!
# Text on a terminal and elsewhere

A text may hold control sequences, by which a terminal is told to change a colour, move or rename
its window. Where the text goes to no terminal they are left out, and with them all control
characters but the tab, the form feed and the two line ends. Emphasis is a control sequence in front
of the text and another one behind it, so leaving them out gives the text back.

A sequence starts with an escape character. What follows tells its kind, and its kind tells where it
ends: with a letter or a similar sign, with a bell, or only with the next escape character. White
space among the control characters is shown even within a sequence of the kinds that end with a
sign; the sequence then goes on at the next character that is not shown.
-/

namespace DepositGate.Text

namespace Terminal

/-- Where in a sequence a character stands. -/
inductive Phase where
  /-- Outside of all sequences. -/
  | ground
  /-- Right after the escape character. -/
  | escape
  /-- After an escape character and signs that leave its kind open. -/
  | escapeMiddle
  /-- A control sequence, which ends with a letter or a similar sign. -/
  | control
  /-- Right after what starts a device sequence. -/
  | device
  | deviceParameters
  /-- After a device sequence's signs behind its parameters. -/
  | deviceMiddle
  /-- The rest of a device sequence from its first letter on, or from where it is ill-formed. -/
  | deviceBody
  /-- A system command, which ends with a bell. -/
  | command
  /-- A message to the terminal, which ends with nothing that is text. -/
  | message
deriving DecidableEq, Repr

def isShownSpace (c : Char) : Bool := c == '\t' || c == '\n' || c == '\x0c' || c == '\r'

/-- Whether a character is shown outside of sequences. -/
def isShown (c : Char) : Bool := (32 ≤ c.toNat && c.toNat != 127) || isShownSpace c

/-- Whether the byte that ends a string of a terminal is part of a character. -/
def hidesTerminator (c : Char) : Bool :=
  128 ≤ c.toNat && (String.singleton c).toUTF8.data.contains 0x9c

namespace Phase

def shows (phase : Phase) (c : Char) : Bool :=
  match phase with
  | ground => isShown c
  | escape | escapeMiddle | control => isShownSpace c
  | device | deviceParameters | deviceMiddle | deviceBody | command | message => false

/-- The phase after a character that is not shown. -/
def after (phase : Phase) (c : Char) : Phase :=
  let n := c.toNat
  if n = 0x1b then escape
  else if n = 0x18 ∨ n = 0x1a then ground
  else
    match phase with
    | ground => ground
    | escape =>
      if c = '[' then control
      else if c = ']' then command
      else if c = 'P' then device
      else if c = 'X' ∨ c = '^' ∨ c = '_' then message
      else if 0x20 ≤ n ∧ n ≤ 0x2f then escapeMiddle
      else if 0x30 ≤ n ∧ n ≤ 0x7e then ground
      else escape
    | escapeMiddle => if 0x30 ≤ n ∧ n ≤ 0x7e then ground else escapeMiddle
    | control => if 0x40 ≤ n ∧ n ≤ 0x7e then ground else control
    | device =>
      if 0x20 ≤ n ∧ n ≤ 0x2f then deviceMiddle
      else if 0x30 ≤ n ∧ n ≤ 0x3f then deviceParameters
      else if 0x40 ≤ n ∧ n ≤ 0x7e then deviceBody
      else device
    | deviceParameters =>
      if 0x20 ≤ n ∧ n ≤ 0x2f then deviceMiddle
      else if 0x3c ≤ n ∧ n ≤ 0x7e then deviceBody
      else deviceParameters
    | deviceMiddle => if 0x30 ≤ n ∧ n ≤ 0x7e then deviceBody else deviceMiddle
    | deviceBody => if hidesTerminator c then ground else deviceBody
    | command => if n = 7 then ground else command
    | message => if hidesTerminator c then ground else message

end Phase

/-- What is shown of a text that starts in `phase`; `showing` tells whether the character before it
was shown. -/
def shownFrom (phase : Phase) (showing : Bool) : List Char → List Char
  | [] => []
  | c :: rest =>
    if (if showing then isShown c else phase.shows c) then
      c :: shownFrom (if 128 ≤ c.toNat then .ground else phase) true rest
    else shownFrom (phase.after c) false rest

/-- The text without control sequences and control characters. -/
def plain (text : String) : String :=
  String.ofList (shownFrom .ground false text.toList)

/-- How a part of a text is set off. -/
inductive Emphasis where
  | heading
  /-- What has to be typed as it stands. -/
  | literal
  | alarm
  /-- Something typed that is wrong. -/
  | wrong
  /-- Something that would be right. -/
  | right
deriving DecidableEq, Repr

def Emphasis.sequence : Emphasis → String
  | heading => "\x1b[1m\x1b[4m"
  | literal => "\x1b[1m"
  | alarm => "\x1b[1m\x1b[31m"
  | wrong => "\x1b[33m"
  | right => "\x1b[32m"

/-- The sequence that ends all emphasis. -/
def emphasisEnd : String := "\x1b[0m"

/-- The text with emphasis on it. -/
def emphasized (emphasis : Emphasis) (text : String) : String :=
  emphasis.sequence ++ text ++ emphasisEnd

end Terminal

end DepositGate.Text
