import SchemaForge.Run.Event
import SchemaForge.Text.Join
import SchemaForge.Text.Search

/-!
# Events on the console

How events are printed. Progress goes to the standard output, errors and log records to the standard
error. On a terminal with colours each kind of line has a style of its own, which is taken up again
after every reset inside the line.
-/

namespace SchemaForge.Console

/-- The two streams that a program prints to. -/
inductive Stream where
  /-- The standard output. -/
  | out
  /-- The standard error. -/
  | err
deriving DecidableEq, Repr

/-- What ends a style. -/
def reset : List Char := '\x1b' :: ['[', '0', 'm']

/-- What starts the style with the given codes. -/
def styleStart (codes : String) : List Char := '\x1b' :: '[' :: codes.toList ++ ['m']

/-- A text in a style, if colours are on. -/
def styled (color : Bool) (codes text : String) : String :=
  if color then
    let start := styleStart codes
    String.ofList (start ++ Text.replaceAll reset (reset ++ start) text.toList ++ reset)
  else text

/-- The codes of the ASCII characters that could steer a terminal: bell, backspace, form feed,
escape and delete. -/
def steering : List Nat := [0x07, 0x08, 0x0C, 0x1B, 0x7F]

/-- The written form of one character of a log message. The characters that could steer a terminal
are shown by their code. -/
def messageChar (c : Char) : List Char :=
  let n := c.toNat
  if n ∈ steering then
    ['\\', 'x', Nat.digitChar (n / 16), Nat.digitChar (n % 16)]
  else if 0x80 ≤ n ∧ n < 0xA0 then
    ['\\', 'u', '{', Nat.digitChar (n / 16), Nat.digitChar (n % 16), '}']
  else [c]

/-- A log record as one line, without its time. -/
def logLine (r : LogRecord) : String :=
  Text.join " " (r.level.label :: String.ofList (r.message.toList.flatMap messageChar) ::
    r.fields.map fun (name, value) => name ++ "=" ++ value)

/-- What an event prints, and where. -/
def render (color : Bool) : Event → Stream × String
  | .info message => (.out, styled color "32" message ++ "\n")
  | .comment message => (.out, styled color "33" message ++ "\n")
  | .failure message => (.err, styled color "1;31" "✗" ++ " " ++ styled color "31" message ++ "\n")
  | .item text => (.out, "  " ++ styled color "2" text ++ "\n")
  | .output text => (.out, text)
  | .log record => (.err, logLine record ++ "\n")

/-- Everything that events print to one stream. -/
def printed (color : Bool) (stream : Stream) (events : List Event) : String :=
  Text.join "" ((events.map (render color)).filterMap fun (target, text) =>
    if target = stream then some text else none)

/-- Whether colours are on, given the variables `CLICOLOR_FORCE`, `NO_COLOR` and `CLICOLOR` of the
environment: the first turns them on and the second off, whatever the output is; without either they
are on if the output is a terminal and the third does not turn them off. -/
def usesColor (force noColor allow : Option String) (terminal : Bool) : Bool :=
  if force.any (· != "0") then true
  else if noColor.isSome then false
  else terminal && allow.all (· != "0")

/-- Whether an event is for people and not for the log. -/
def isVisible : Event → Bool
  | .log _ => false
  | _ => true

end SchemaForge.Console
