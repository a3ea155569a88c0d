import ColumnBlocks.Text.Basic

/-
The grammar of the command line.  The program has subcommands, and one of them has subcommands of
its own; each of them is a level, with switches and places for values.
-/
namespace ColumnBlocks
namespace CommandLine

inductive Switch where
  | verbose
  | config
  | output
  | mobile
  | standalone
  | rtl
  | wrap
  | help
  | version
deriving DecidableEq, Repr

namespace Switch

def long : Switch → Text
  | verbose => "verbose".toList
  | config => "config".toList
  | output => "output".toList
  | mobile => "mobile".toList
  | standalone => "standalone".toList
  | rtl => "rtl".toList
  | wrap => "wrap".toList
  | help => "help".toList
  | version => "version".toList

def short? : Switch → Option Char
  | verbose => some 'v'
  | output => some 'o'
  | help => some 'h'
  | version => some 'V'
  | _ => none

def takesValue : Switch → Bool
  | config | output => true
  | _ => false

end Switch

inductive Place where
  | file
  | settingName
  | settingValue
deriving DecidableEq, Repr

inductive Level where
  | program
  | render
  | config
  | configShow
  | configSet
  | configPath
deriving DecidableEq, Repr

namespace Level

def everywhere : List Switch := [.verbose, .config, .help]

def switches : Level → List Switch
  | program => everywhere ++ [.version]
  | render => [.output, .mobile, .standalone, .rtl, .wrap] ++ everywhere
  | _ => everywhere

def places : Level → List Place
  | render => [.file]
  | configSet => [.settingName, .settingValue]
  | _ => []

def subcommands : Level → List (Text × Level)
  | program => [("render".toList, render), ("config".toList, config)]
  | config =>
    [("show".toList, configShow), ("set".toList, configSet), ("path".toList, configPath)]
  | _ => []

def long? (l : Level) (name : Text) : Option Switch := l.switches.find? (·.long == name)

def shortSwitch? (l : Level) (c : Char) : Option Switch := l.switches.find? (·.short? == some c)

end Level

/-- What a word at the place of a subcommand calls. -/
inductive Call where
  | level (l : Level)
  | help
deriving DecidableEq, Repr

/-- A level with subcommands has one more, which shows help. -/
def Level.call? (l : Level) (word : Text) : Option Call :=
  if l.subcommands.isEmpty then none
  else if word == "help".toList then some .help
  else (l.subcommands.lookup word).map .level

/-- A truth value, in one of its spellings, of either case. -/
def truthValue? (t : Text) : Option Bool :=
  let t := t.map Char.toLower
  if (["y", "yes", "t", "true", "on", "1"].map String.toList).contains t then some true
  else if (["n", "no", "f", "false", "off", "0"].map String.toList).contains t then some false
  else none

end CommandLine
end ColumnBlocks
