set_option autoImplicit false

/-! # Arguments

What the program is asked to do, and how arguments say it. Arguments are read from left to right, and
the first that is out of place is a misuse, so `Order.ofArguments?` has no order for it. A request for
help counts as soon as it is read. -/

namespace LocalPlay.Command

/-- What help can be about. -/
inductive Topic where
  | program
  /-- The commands about settings. -/
  | config
  /-- The command that looks for mistakes in settings. -/
  | validate
  /-- The command that prints settings. -/
  | display
  | run
  /-- Help for the program. -/
  | help
  /-- Help for the commands about settings. -/
  | configHelp
deriving DecidableEq, Repr

/-- What the program is asked to do. -/
inductive Order where
  | validate (path : String)
  /-- Print the settings of a file, those it leaves out too. -/
  | display (path : String)
  /-- Run the bridge with the settings of a file; a dry run opens no interface. -/
  | run (path : String) (isDry : Bool)
  | help (topic : Topic)
deriving DecidableEq, Repr

/-- Where settings are if nothing else is said. -/
def defaultPath : String := "config.toml"

/-! ## Words -/

/-- What an argument means where options may stand. -/
inductive Word where
  /-- The path of a settings file: this one, or the argument that follows. -/
  | path (attached : Option String)
  /-- No interface is to be opened. -/
  | dryRun
  | help
  /-- Nothing after this is an option. -/
  | ending
  | other
deriving DecidableEq, Repr

/-- The path after the letter of its option, perhaps with an equals sign between them. -/
def Word.attached : List Char → Option String
  | [] => none
  | '=' :: value => some (String.ofList value)
  | value => some (String.ofList value)

/-- The meaning of an option that is written as a word. -/
def Word.ofName (name : List Char) : Word :=
  let key := name.takeWhile (· ≠ '=')
  match name.dropWhile (· ≠ '=') with
  | '=' :: value => if key = "config".toList then path (some (String.ofList value)) else other
  | _ =>
    if key = "config".toList then path none
    else if key = "dry-run".toList then dryRun
    else if key = "help".toList then help
    else other

/-- The meaning of an argument. Options are words after two dashes or letters after one. -/
def Word.ofChars : List Char → Word
  | ['-', '-'] => ending
  | '-' :: '-' :: name => ofName name
  | '-' :: 'h' :: _ => help
  | '-' :: 'c' :: value => path (attached value)
  | _ => other

/-- Whether an argument can be the path that an option asks for: a dash begins an option, unless it
stands alone. -/
def isValue (s : String) : Bool := s == "-" || s.toList.head? != some '-'

/-! ## Options -/

/-- The options of a command. -/
structure Options where
  path : Option String := none
  /-- Whether no interface is to be opened. -/
  isDry : Bool := false
deriving DecidableEq, Repr

namespace Options

/-- Sets the path. It can be set once, and not to nothing. -/
def setPath? (o : Options) (value : String) : Option Options :=
  if o.path = none ∧ value ≠ "" then some { o with path := some value } else none

/-- Asks for a dry run, once. -/
def setDry? (o : Options) : Option Options :=
  if o.isDry then none else some { o with isDry := true }

/-- The path, which need not be said. -/
def chosenPath (o : Options) : String := o.path.getD defaultPath

end Options

/-- What comes of reading options. -/
inductive Reading where
  | options (o : Options)
  | help
  /-- An argument is out of place. -/
  | misuse
deriving DecidableEq, Repr

/-- Reads the options of a command, which may or may not have dry runs. -/
def readOptions (hasDry : Bool) (o : Options) : List String → Reading
  | [] => .options o
  | word :: rest =>
    match Word.ofChars word.toList with
    | .help => .help
    | .other => .misuse
    | .ending => if rest.isEmpty then .options o else .misuse
    | .dryRun =>
      match o.setDry? with
      | some o' => if hasDry then readOptions hasDry o' rest else .misuse
      | none => .misuse
    | .path (some value) =>
      match o.setPath? value with
      | some o' => readOptions hasDry o' rest
      | none => .misuse
    | .path none =>
      match rest with
      | [] => .misuse
      | value :: rest =>
        match o.setPath? value with
        | some o' => if isValue value then readOptions hasDry o' rest else .misuse
        | none => .misuse

/-! ## Orders -/

/-- The order of a command whose options are read. -/
def Reading.toOrder? (order : Options → Order) (topic : Topic) : Reading → Option Order
  | options o => some (order o)
  | help => some (.help topic)
  | misuse => none

/-- The topic of a command that belongs to a topic. -/
def Topic.within? : Topic → String → Option Topic
  | program, "config" => some config
  | program, "run" => some run
  | program, "help" => some help
  | config, "validate" => some validate
  | config, "show" => some display
  | config, "help" => some configHelp
  | _, _ => none

/-- Help about what is named, one command after the other. -/
def helpOrder? (topic : Topic) (names : List String) : Option Order :=
  (names.foldlM Topic.within? topic).map .help

namespace Order

/-- The order that follows a topic when its command is named and options come after it. -/
def ofCommand? (topic : Topic) (arguments : List String) : Option Order :=
  match topic with
  | .validate =>
    (readOptions false {} arguments).toOrder? (fun o => validate o.chosenPath) topic
  | .display => (readOptions false {} arguments).toOrder? (fun o => display o.chosenPath) topic
  | .run => (readOptions true {} arguments).toOrder? (fun o => run o.chosenPath o.isDry) topic
  | .help => helpOrder? .program arguments
  | .configHelp => helpOrder? .config arguments
  | .program | .config => none

/-- The order of arguments that name a command of a topic or ask for help about it. -/
def ofTopic? (topic : Topic) (next : Topic → List String → Option Order) :
    List String → Option Order
  | [] => none
  | word :: rest =>
    match topic.within? word with
    | some topic' => next topic' rest
    | none => if Word.ofChars word.toList = .help then some (help topic) else none

/-- The order that arguments give, if they give one. Without any, the bridge runs. -/
def ofArguments? : List String → Option Order
  | [] | ["--"] => some (run defaultPath false)
  | arguments =>
    ofTopic? .program (fun topic rest =>
      if topic = .config then ofTopic? .config ofCommand? rest else ofCommand? topic rest) arguments

end Order

end LocalPlay.Command
