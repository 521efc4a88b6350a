import LocalPlay.Command.Arguments

set_option autoImplicit false

/-! # Help

What the program says about itself. Each topic has a page (`Topic.page`): a line of description, how
the command is used, and parts whose rows have a term and its explanation. -/

namespace LocalPlay.Command

/-- A part of a page: terms and what they mean. -/
structure Glossary where
  heading : String
  rows : List (String × String)
deriving DecidableEq, Repr

/-- The width of the longest term. -/
def Glossary.width (g : Glossary) : Nat :=
  (g.rows.map fun (term, _) => term.length).foldl max 0

/-- The lines of a part: the explanations start in one column. -/
def Glossary.toText (g : Glossary) : String :=
  g.rows.foldl (fun text (term, meaning) =>
      text ++ "  " ++ term ++ String.ofList (List.replicate (g.width - term.length) ' ')
        ++ "  " ++ meaning ++ "\n")
    (g.heading ++ ":\n")

/-- A page of help. -/
structure Page where
  about : String
  usage : String
  parts : List Glossary
deriving DecidableEq, Repr

/-- The text of a page, an empty line before each part. -/
def Page.toText (p : Page) : String :=
  p.parts.foldl (fun text part => text ++ "\n" ++ part.toText)
    (p.about ++ "\n\nUsage: " ++ p.usage ++ "\n")

def programName : String := "ldn-bridge"

/-- The option that asks for help. -/
def helpRow : String × String := ("-h, --help", "Print help")

/-- The option that names the settings. -/
def pathRow : String × String :=
  ("-c, --config <CONFIG>", "Path to config.toml [default: " ++ defaultPath ++ "]")

/-- What the help command is for. -/
def helpAbout : String := "Print this message or the help of the given subcommand(s)"

/-- The page of a help command. -/
def helpPage (command : String) : Page where
  about := helpAbout
  usage := command ++ " help [COMMAND]..."
  parts := [⟨"Arguments", [("[COMMAND]...", "Print help for the subcommand(s)")]⟩]

namespace Topic

/-- A line of description. -/
def about : Topic → String
  | program => "Bridges console LDN local play onto a simulator room"
  | config => "Configuration management"
  | validate => "Validate config.toml"
  | display => "Print the effective configuration with defaults filled in"
  | run => "Run the bridge"
  | help | configHelp => helpAbout

def page (topic : Topic) : Page :=
  match topic with
  | program => {
      about := topic.about
      usage := programName ++ " [COMMAND]"
      parts := [
        ⟨"Commands", [("config", config.about), ("run", run.about), ("help", help.about)]⟩,
        ⟨"Options", [helpRow]⟩] }
  | config => {
      about := topic.about
      usage := programName ++ " config <COMMAND>"
      parts := [
        ⟨"Commands", [("validate", validate.about), ("show", display.about),
          ("help", configHelp.about)]⟩,
        ⟨"Options", [helpRow]⟩] }
  | validate => {
      about := topic.about
      usage := programName ++ " config validate [OPTIONS]"
      parts := [⟨"Options", [pathRow, helpRow]⟩] }
  | display => {
      about := topic.about
      usage := programName ++ " config show [OPTIONS]"
      parts := [⟨"Options", [pathRow, helpRow]⟩] }
  | run => {
      about := topic.about
      usage := programName ++ " run [OPTIONS]"
      parts := [⟨"Options", [pathRow,
        ("    --dry-run", "Use an in-memory link instead of opening the interface"), helpRow]⟩] }
  | help => helpPage programName
  | configHelp => helpPage (programName ++ " config")

end Topic

end LocalPlay.Command
