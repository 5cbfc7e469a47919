/-
  This file defines the flags of the command line.

  Key definitions include:
    * `Flag`
    * `Flag.longName`, `Flag.letter?`
    * `usage`, `help`
-/

------------------------------------------------------------
-- Flags
------------------------------------------------------------

namespace MonkeyLang

namespace CommandLine

/- The flags, in the order in which they are listed. -/
inductive Flag where
  | help
  | string
  | tokens
  | tree
  | pretty
  | repl
  | verbose
deriving DecidableEq

namespace Flag

def all : List Flag := [
  .help, .string, .tokens, .tree, .pretty, .repl, .verbose ]

def longName
    (flag : Flag) :
    String :=
  match flag with
  | .help => "--help"
  | .string => "--string"
  | .tokens => "--tokens"
  | .tree => "--ast"
  | .pretty => "--pretty"
  | .repl => "--repl"
  | .verbose => "--verbose"

/- The letter that is short for a flag, if it has one. -/
def letter?
    (flag : Flag) :
    Option Char :=
  match flag with
  | .help => some 'h'
  | .string => some 's'
  | .pretty => some 'p'
  | _ => none

def ofLetter?
    (letter : Char) :
    Option Flag :=
  all.find? fun flag => flag.letter? = some letter

/- How messages refer to a flag: by all its names. -/
def names
    (flag : Flag) :
    String :=
  match flag.letter? with
  | some letter => String.ofList ['-', letter, '/'] ++ flag.longName
  | none => flag.longName

end Flag

------------------------------------------------------------
-- Help
------------------------------------------------------------

def usage : String :=
  "usage: monkey [-h] [-s] [--tokens] [--ast] [-p] [--repl] [--verbose] [source]\n"

def help : String :=
  usage ++
  "\n" ++
  "positional arguments:\n" ++
  "  source        Filename or raw source (with -s)\n" ++
  "\n" ++
  "options:\n" ++
  "  -h, --help    show this help message and exit\n" ++
  "  -s, --string  Interpret source as literal string\n" ++
  "  --tokens      Print the token stream before parsing\n" ++
  "  --ast         Print the parsed AST as JSON\n" ++
  "  -p, --pretty  Show output with banners\n" ++
  "  --repl        Launch interactive REPL\n" ++
  "  --verbose     Echo the parsed AST in the REPL\n"

end CommandLine

end MonkeyLang
