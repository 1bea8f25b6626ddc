import AmbientBundle.CommandLine.Arguments

/-!
# Help

What a user who asks for help is shown, about the tool and about its one command, and
what is shown to a user whose command line is wrong.
-/

namespace AmbientBundle
namespace CommandLine

/-- The name of the tool on the command line, with the command if that is meant. -/
def programName (withCommand : Bool) : String :=
  if withCommand then "dtsbundle generate" else "dtsbundle"

/-- How the tool is used. -/
def usage : List String :=
  ["usage: dtsbundle [-h] [-e ENTRY] [-r ROOT] [-t TMP] [-c TSC]",
    "                 [-L \x7bdebug,error,info,silly,verbose,warn\x7d] [-v]",
    "                 [--log-file LOG_FILE] [-o OUTPUT] [-a]",
    "                 [--custom-alias CUSTOM_ALIAS] [--template TEMPLATE] [-f]",
    "                 [-s SHAKE] [-m]",
    "                 \x7bgenerate\x7d ..."]

/-- How the command is used. -/
def commandUsage : List String := ["usage: dtsbundle generate [-h]"]

/-- What the tool is for and what can be asked of it. -/
def description : List String :=
  ["",
    "Bundle per-file TypeScript declarations into a single .d.ts for an npm",
    "package.",
    "",
    "positional arguments:",
    "  \x7bgenerate\x7d",
    "    generate            Start generation.",
    ""]

/-- The options before the command. -/
def options : List String :=
  ["options:",
    "  -h, --help            show this help message and exit",
    "  -e ENTRY, --entry ENTRY",
    "                        Entry/main package file before bundling, relative to",
    "                        project root.",
    "  -r ROOT, --root ROOT  npm package directory containing package.json",
    "                        (defaults to current directory).",
    "  -t TMP, --tmp TMP     Directory for storing temporary information (defaults",
    "                        to an OS temp dir).",
    "  -c TSC, --tsc TSC     Passed through non-validated additional TSC options.",
    "  -L \x7bdebug,error,info,silly,verbose,warn\x7d, --log-level " ++
      "\x7bdebug,error,info,silly,verbose,warn\x7d",
    "                        Log level (error, warn, info, verbose, debug, silly).",
    "  -v, --verbose         Shorthand for --log-level debug.",
    "  --log-file LOG_FILE   Also write log records to this file.",
    "  -o OUTPUT, --output OUTPUT",
    "                        Overrides the output file path, relative to root",
    "                        (default index.d.ts).",
    "  -a, --no-alias        Do not add an alias for the main package module.",
    "  --custom-alias CUSTOM_ALIAS",
    "                        Alias template used instead of the default one;",
    "                        supports \x7bpackage-name\x7d and \x7bmain-module\x7d",
    "                        placeholders.",
    "  --template TEMPLATE   Template appended to the bundle where \x7b0\x7d is the main",
    "                        module id.",
    "  -f, --force           Ignore non-critical errors and attempt generation",
    "                        anyway.",
    "  -s SHAKE, --shake SHAKE",
    "                        Tree-shaking strategy: off, exportOnly or allImports.",
    "  -m, --test-mode       Configures dtsbundle for self-test."]

/-- How a call may look. -/
def sample : List String := ["", "Example: dtsbundle -r . generate"]

/-- The options after the command. -/
def commandOptions : List String :=
  ["", "options:", "  -h, --help  show this help message and exit"]

/-- Lines as text, each with its end. -/
def unlines (lines : List String) : String :=
  lines.foldr (fun line rest => line ++ "\n" ++ rest) ""

/-- The help on the tool, or on its command. -/
def help (aboutCommand : Bool) : String :=
  if aboutCommand then unlines (commandUsage ++ commandOptions)
  else unlines (usage ++ description ++ options ++ sample)

/-- How the part that refuses an argument is used. -/
def usageOf (afterCommand : Bool) : String :=
  unlines (if afterCommand then commandUsage else usage)

/-- What is said about a wrong command line. -/
def complaint (afterCommand : Bool) (message : String) : String :=
  programName afterCommand ++ ": error: " ++ message ++ "\n"

end CommandLine
end AmbientBundle
