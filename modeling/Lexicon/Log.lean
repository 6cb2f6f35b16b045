import Lexicon.Tag

/-!
# Log events

While it works, the program reports events. The user chooses a level, and only events that are at
most as detailed as that level are written. What is written never depends on anything but the
events and the level, so logging cannot change what the program does.

## Main definitions

* `Level`, `Level.ofName?`: how much detail is wanted.
* `Event`, `Event.level`, `Event.text`: what is reported.
* `visible`: the events that a level lets through.
-/

namespace Lexicon

/-- How much detail the log has, from nothing to everything. -/
inductive Level where
  | off | error | warn | info | debug | trace
  deriving DecidableEq

namespace Level

/-- Every level, from the coarsest to the finest. -/
def all : List Level := [off, error, warn, info, debug, trace]

/-- The name by which a level is chosen. -/
def name : Level → String
  | off => "off"
  | error => "error"
  | warn => "warn"
  | info => "info"
  | debug => "debug"
  | trace => "trace"

/-- The level with a given name. -/
def ofName? (name : String) : Option Level :=
  all.find? fun l => l.name = name

/-- The position of a level between the coarsest and the finest. -/
def detail (l : Level) : Nat :=
  all.idxOf l

end Level

/-- Something that the program reports while it works. -/
inductive Event where
  /-- The reference was written to a file. -/
  | wroteReference (path : String)
  /-- A spelling was found to be a single token. -/
  | classified (spelling : String) (tag : Tag)
  /-- A spelling was no single token, and was looked at byte by byte. -/
  | classifiedPerByte (spelling : String)
  deriving DecidableEq

namespace Event

/-- How detailed an event is. -/
def level : Event → Level
  | wroteReference _ => .info
  | classified _ _ | classifiedPerByte _ => .debug

/-- The text of an event. A path stands as it is, a spelling is quoted. -/
def text : Event → String
  | wroteReference path =>
    "INFO ruka::cli::commands: wrote vocabulary reference path=" ++ path
  | classified spelling tag =>
    "DEBUG ruka::cli::commands: classified spelling=" ++ quote spelling
      ++ " tag=" ++ quote tag.name
  | classifiedPerByte spelling =>
    "DEBUG ruka::cli::commands: no whole-string match; classified per byte spelling="
      ++ quote spelling

end Event

/-- The events that a level lets through, in order. -/
def visible (level : Level) (events : List Event) : List Event :=
  events.filter fun e => e.level.detail ≤ level.detail

end Lexicon
