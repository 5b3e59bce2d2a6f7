import ShellWords.KernelLine.Grammar
import ShellWords.Main
import ShellWords.Proofs.Token.Words
import ShellWords.Quote.Exposure
import ShellWords.Settings.Printer
import ShellWords.Shell.Outline
import ShellWords.Text.Runs
import ShellWords.Token.Grammar
import ShellWords.Token.Session
import ShellWords.Proofs.Token.Grammar
import ShellWords.Proofs.Quote.Exposure
import ShellWords.Proofs.Quote.RoundTrip
import ShellWords.Proofs.KernelLine.Grammar
import ShellWords.Proofs.KernelLine.Completion
import ShellWords.Proofs.Text.Utf8
import ShellWords.Proofs.Text.Decoding
import ShellWords.Proofs.Token.Bytes
import ShellWords.Proofs.Token.Session
import ShellWords.Proofs.Token.Locality
import ShellWords.Proofs.Token.Completion
import ShellWords.Proofs.Token.Comment
import ShellWords.Proofs.Text.Lines
import ShellWords.Proofs.Settings.Merge
import ShellWords.Proofs.EventLog.Consistency
import ShellWords.Proofs.Path
import ShellWords.Proofs.Settings.Printer
import ShellWords.Proofs.Settings.Load
import ShellWords.Proofs.Program.Arguments
import ShellWords.Proofs.Program.Stages
import ShellWords.Proofs.Program.Failure
import ShellWords.Proofs.Program.RoundTrip
import ShellWords.Proofs.Files.Content
import ShellWords.Proofs.Json
import ShellWords.Proofs.EventLog.Lines
import ShellWords.Proofs.Program.Disclosure
import ShellWords.Proofs.Shell.SimpleCommand
import ShellWords.Proofs.Text.Runs
import ShellWords.Proofs.Token.Display
import ShellWords.Proofs.Token.Interruption
import ShellWords.Proofs.Token.Termination
import ShellWords.Proofs.Token.Units
import ShellWords.Proofs.Settings.Search
