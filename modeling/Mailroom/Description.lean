import Mailroom.Quoted

/-!
# Descriptions

What a mail is called: a template with holes and the arguments for them, kept apart until somebody wants to read the text. A
template is read from left to right: a doubled brace stands for one brace, an empty pair of braces is a hole, and every other
character stands for itself. Reading also reports which counted arguments it formatted, so that one can tell how often a
description was rendered.
-/

namespace Mailroom

/-- What stands in a hole. -/
inductive Argument where
  | text (s : String)
  | number (n : Int)
  | truth (b : Bool)
  /-- A text that leaves its name behind each time it is formatted. -/
  | counted (name : String) (s : String)
  /-- Another description, given by its template and arguments. -/
  | nested (template : String) (arguments : List Argument)

/-- A template and the arguments for its holes, in order. -/
structure Description where
  template : String
  arguments : List Argument := []
deriving Inhabited

/-- A rendered text, and the names of the counted arguments that were formatted for it, in order. -/
structure Rendering where
  text : List Char
  names : List String
deriving DecidableEq, Repr

namespace Rendering

/-- Nothing was rendered. -/
def empty : Rendering := ⟨[], []⟩

/-- A text without counted arguments in it. -/
def ofText (s : String) : Rendering := ⟨s.toList, []⟩

/-- One character in front. -/
def cons (c : Char) (r : Rendering) : Rendering := { r with text := c :: r.text }

/-- One rendering, and then the other. -/
def append (a b : Rendering) : Rendering := ⟨a.text ++ b.text, a.names ++ b.names⟩

def toString (r : Rendering) : String := String.ofList r.text

/-- The left-to-right reading of a template. The arguments come with their own renderings, one for each hole as long as there are
any; a hole without one is written as it stands, and an argument without a hole is left out. -/
def scan : List Char → List Rendering → Rendering
  | '{' :: '{' :: rest, args => (scan rest args).cons '{'
  | '}' :: '}' :: rest, args => (scan rest args).cons '}'
  | '{' :: '}' :: rest, [] => ((scan rest []).cons '}').cons '{'
  | '{' :: '}' :: rest, a :: args => a.append (scan rest args)
  | c :: rest, args => (scan rest args).cons c
  | [], _ => empty

/-- Only braces mean something in a template. -/
def isBrace (c : Char) : Bool := c = '{' || c = '}'

/-- A template read with its arguments: one without braces and arguments is taken as it stands, any other is scanned. -/
def ofTemplate (template : String) (args : List Rendering) : Rendering :=
  if args.isEmpty && !template.toList.any isBrace then ofText template else scan template.toList args

end Rendering

namespace Argument

mutual

/-- The argument as it is written into a hole. -/
def render : Argument → Rendering
  | text s => .ofText s
  | number n => .ofText (toString n)
  | truth b => .ofText (if b then "true" else "false")
  | counted name s => ⟨s.toList, [name]⟩
  | nested template arguments => .ofTemplate template (renderAll arguments)

/-- The renderings of the arguments, each formatted once. -/
def renderAll : List Argument → List Rendering
  | [] => []
  | a :: rest => a.render :: renderAll rest

end

mutual

/-- The counted names inside the argument, formatted or not. -/
def counters : Argument → List String
  | counted name _ => [name]
  | nested _ arguments => countersAll arguments
  | _ => []

def countersAll : List Argument → List String
  | [] => []
  | a :: rest => a.counters ++ countersAll rest

end

end Argument

namespace Description

/-- The description as it is read. -/
def render (d : Description) : Rendering := .ofTemplate d.template (Argument.renderAll d.arguments)

/-- The rendered text. -/
def display (d : Description) : String := d.render.toString

/-- The counted names that one rendering formats. -/
def formatted (d : Description) : List String := d.render.names

/-- Every counted name inside the description, formatted or not. -/
def counters (d : Description) : List String := Argument.countersAll d.arguments

/-- A description as a term. -/
def term (d : Description) : String := "MailDescription(" ++ Quoted.encode d.display ++ ")"

/-- What there is to tell about a description that is shown a few times. -/
structure Report where
  text : String
  term : Option String
  /-- How often each counted argument was formatted before the description was shown. -/
  before : List (String × Nat)
  after : List (String × Nat)
deriving DecidableEq, Repr

/-- How often each counted argument is formatted when the description is rendered `times` times. -/
def tally (d : Description) (times : Nat) : List (String × Nat) :=
  d.counters.eraseDups.map fun name => (name, times * d.formatted.count name)

/-- The description shown, rendered, and shown through a copy that shares its arguments, and on demand as a term too. -/
def report (d : Description) (asTerm : Bool) : Report where
  text := d.display
  term := if asTerm then some d.term else none
  before := d.tally 0
  after := d.tally (if asTerm then 4 else 3)

end Description

end Mailroom
