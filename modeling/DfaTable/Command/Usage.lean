import DfaTable.Command.Arguments

/-!
# DfaTable.Command.Usage

What the command line says about itself.
-/

namespace DfaTable.Command

open Text

def usageLine : Text := "Usage: jff2tcdf [OPTIONS] [JFF_FILE] [TCDF_FILE]\n".toList

def versionLine : Text := "jff2tcdf, version 1.0.0\n".toList

def helpText : Text :=
  usageLine ++
    ("\n" ++
      "  Convert a JFLAP automaton (JFF_FILE) into a ToyCompile DFA file (TCDF_FILE).\n" ++
      "\n" ++
      "  Every state becomes a \"def\" line and every transition one \"trans\" line per\n" ++
      "  accepted character. The file ends with \"eof\".\n" ++
      "\n" ++
      "Options:\n" ++
      "  --config PATH                   Path to config directory\n" ++
      "  --log-level [debug|info|warn|error]\n" ++
      "                                  Logging level (overrides config)\n" ++
      "  --log-format [json|text]        Log format (overrides config)\n" ++
      "  --dry-run                       Convert and report without writing the TCDF\n" ++
      "                                  file\n" ++
      "  --version                       Show the version and exit.\n" ++
      "  --help                          Show this message and exit.\n").toList

/-- What is said about arguments that cannot be understood. -/
def UsageProblem.write (p : UsageProblem) : Text :=
  (if p.showsUsage then usageLine ++ "Try 'jff2tcdf --help' for help.\n\n".toList else []) ++
    "Error: ".toList ++ p.message ++ ['\n']

end DfaTable.Command
