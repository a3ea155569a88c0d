import ColumnBlocks.CommandLine.Arguments

/-
What the command line says about itself: the help of its levels, its version, and why no command
comes of the words that were given.
-/
namespace ColumnBlocks
namespace CommandLine

def programName : Text := "markdown-columns".toList

def versionText : Text := programName ++ " 0.1.0\n".toList

namespace Switch

/-- What its value is called. -/
def valueName? : Switch → Option Text
  | config | output => some "PATH".toList
  | _ => none

def about : Switch → Text
  | verbose => "Enable debug logging".toList
  | config => "Settings file to use instead of ~/.config/markdown-columns/config.toml".toList
  | output => "Write the HTML here instead of stdout".toList
  | mobile => "Render as on a mobile device".toList
  | standalone => "Emit a complete HTML page including the column stylesheet".toList
  | rtl => "Arrange blocks right-to-left for this run".toList
  | wrap => "Let columns wrap for this run".toList
  | help => "Print help".toList
  | version => "Print version".toList

/-- Its spellings, with the long ones below each other. -/
def label (s : Switch) : Text :=
  let short := match s.short? with
    | some c => ['-', c, ',', ' ']
    | none => [' ', ' ', ' ', ' ']
  let value := match s.valueName? with
    | some v => " <".toList ++ v ++ ">".toList
    | none => []
  short ++ "--".toList ++ s.long ++ value

end Switch

namespace Place

def label : Place → Text
  | file => "<FILE>".toList
  | settingName => "<KEY>".toList
  | settingValue => "<VALUE>".toList

def about : Place → Text
  | file => "Markdown file to render".toList
  | settingName => "One of rtl_by_default, wrap_by_default, render_on_mobile".toList
  | settingValue =>
    "true/false (also yes/no, on/off, 1/0) [possible values: true, false]".toList

end Place

namespace Level

def about : Level → Text
  | program => "Render markdown with [begin]/[col]/[end] column blocks to HTML".toList
  | render => "Render a markdown file to HTML".toList
  | config => "Show or change the stored settings".toList
  | configShow => "Print the effective settings".toList
  | configSet => "Change one setting and save it".toList
  | configPath => "Print the settings file location".toList

def words : Level → List Text
  | program => [programName]
  | render => [programName, "render".toList]
  | config => [programName, "config".toList]
  | configShow => [programName, "config".toList, "show".toList]
  | configSet => [programName, "config".toList, "set".toList]
  | configPath => [programName, "config".toList, "path".toList]

def usage (l : Level) : Text :=
  Text.join [' '] (l.words ++ ["[OPTIONS]".toList] ++ l.places.map Place.label ++
    if l.subcommands.isEmpty then [] else ["<COMMAND>".toList])

end Level

def helpAbout : Text := "Print this message or the help of the given subcommand(s)".toList

namespace Help

/-- A heading, and rows of two columns below it. -/
def rows (heading : Text) (l : List (Text × Text)) : List Text :=
  let width := (l.map (·.1.length)).foldl max 0
  heading :: l.map fun (name, about) =>
    [' ', ' '] ++ name ++ List.replicate (width - name.length + 2) ' ' ++ about

/-- Parts that have lines, with a blank line between them. -/
def parts (l : List (List Text)) : Text :=
  Text.join ['\n'] ((l.filter fun p => !p.isEmpty).map fun p => (p.map (· ++ ['\n'])).flatten)

def commands (l : Level) : List Text :=
  if l.subcommands.isEmpty then []
  else
    rows "Commands:".toList
      (l.subcommands.map (fun (name, c) => (name, c.about)) ++ [("help".toList, helpAbout)])

def ofLevel (l : Level) : Text :=
  parts [
    [l.about],
    ["Usage: ".toList ++ l.usage],
    commands l,
    if l.places.isEmpty then []
    else rows "Arguments:".toList (l.places.map fun p => (p.label, p.about)),
    rows "Options:".toList (l.switches.map fun s => (s.label, s.about))]

def ofCall : Call → Text
  | .level l => ofLevel l
  | .help => parts [[helpAbout], ["Usage: ".toList ++ programName ++ " help [COMMAND]".toList]]

end Help

namespace Stop

def reason : Stop → Text
  | help _ | version => []
  | nothingGiven | missingSubcommand => "a subcommand is needed but none was given".toList
  | missingArgument => "a value is needed but was not given".toList
  | unknownArgument => "unexpected argument".toList
  | invalidSubcommand => "unrecognized subcommand".toList
  | conflict => "an argument cannot be used more than once".toList
  | invalidValue => "a value is needed for an argument but none was given".toList
  | rejectedValue => "invalid value: it is neither true nor false".toList
  | tooManyValues => "unexpected value for an argument".toList

def output : Stop → Text
  | help topic => Help.ofCall topic
  | version => versionText
  | _ => []

/-- What the standard error gets: nothing when the words asked for what they get. -/
def complaint : Stop → Text
  | help _ | version => []
  | s =>
    "error: ".toList ++ s.reason ++ "\n\nUsage: ".toList ++ Level.program.usage ++
      "\n\nFor more information, try --help.\n".toList

end Stop
end CommandLine
end ColumnBlocks
