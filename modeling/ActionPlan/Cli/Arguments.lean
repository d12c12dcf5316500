import ActionPlan.Text.Search

/-!
# Command Line Arguments

An argument that starts with a hyphen is an option, unless it is a single hyphen, and all
others are words of the instruction. Options may stand before, between and behind the
words; behind two hyphens everything is a word. No option may be given twice. The file of
the configuration is attached to its option or follows as the next argument, where it may
not look like an option.

Arguments are read from left to right. A request for help is answered at once, so it
hides what is wrong behind it and not what is wrong in front.

## Main definitions

* `Arguments`: What a command line asks for.
* `Command`: To show help or to compile.
* `Command.ofArguments?`: The command in a list of arguments.
-/

namespace ActionPlan

namespace Cli

/-- What a command line asks for. -/
structure Arguments where
  configPath : Option String := none
  deterministic : Bool := false
  json : Bool := false
  words : List String := []
  deriving DecidableEq

/-- To show help or to compile. -/
inductive Command
  | help
  | compile (arguments : Arguments)
  deriving DecidableEq

namespace Arguments

/-- The argument is an option rather than a word. -/
def isOption (argument : String) : Bool :=
  match argument.toList with
  | '-' :: _ :: _ => true
  | _ => false

/-- What follows the start, if the argument starts with it. -/
def after? (start argument : String) : Option String :=
  if start.toList.isPrefixOf argument.toList then
    some (String.ofList (argument.toList.drop start.toList.length))
  else none

/-- The path attached to the option for the configuration. Behind the short form an equals
    sign may stand in front of it. -/
def attachedPath? (argument : String) : Option String :=
  after? "--config=" argument <|> after? "-c=" argument <|> after? "-c" argument

/-- The arguments with a path for the configuration, if it is the first one. -/
def withConfigPath? (arguments : Arguments) (path : String) : Option Arguments :=
  if path.isEmpty || arguments.configPath.isSome then none
  else some { arguments with configPath := some path }

/-- The arguments with a further word. -/
def withWord (arguments : Arguments) (word : String) : Arguments :=
  { arguments with words := arguments.words ++ [word] }

/-- The command of arguments that are complete, which have to hold a word. -/
def command? (arguments : Arguments) : Option Command :=
  if arguments.words.isEmpty then none else some (.compile arguments)

/-- The command in the arguments that are left. -/
def read? (arguments : Arguments) : List String → Option Command
  | [] => arguments.command?
  | argument :: rest =>
    if !isOption argument then (arguments.withWord argument).read? rest
    else if argument == "--" then
      { arguments with words := arguments.words ++ rest : Arguments }.command?
    else if argument == "--help" || (after? "-h" argument).isSome then some .help
    else if argument == "--deterministic" then
      if arguments.deterministic then none
      else { arguments with deterministic := true : Arguments }.read? rest
    else if argument == "--json" then
      if arguments.json then none else { arguments with json := true : Arguments }.read? rest
    else if argument == "--config" || argument == "-c" then
      match rest with
      | [] => none
      | path :: rest =>
        if isOption path then none
        else arguments.withConfigPath? path >>= fun arguments => arguments.read? rest
    else
      match attachedPath? argument with
      | some path => arguments.withConfigPath? path >>= fun arguments => arguments.read? rest
      | none => none

end Arguments

/-- The command in a list of arguments; none if the list is misused. -/
def Command.ofArguments? (arguments : List String) : Option Command :=
  Arguments.read? {} arguments

end Cli

end ActionPlan
