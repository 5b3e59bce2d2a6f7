import ShellWords.Proofs.Program.Arguments
import ShellWords.Proofs.Program.Stages
import ShellWords.Proofs.Quote.RoundTrip

/-!
# Joining and splitting on the command line

Words that are joined by one run of the program are split again by another one, whatever they are:
both runs take what stands behind a separator as it is, and the standard classes read every joined
command back.
-/
namespace ShellWords

namespace Command

open Arguments

variable {c : Context}

private theorem answer_join (words : List Text) :
    (join words false).answer c =
      .ok ⟨.obj [("command", .str (Text.joinQuoted words))],
        { name := "join", input := some (Text.joinQuoted words),
          fields := [("words", count words)] }⟩ :=
  rfl

private theorem answer_split {t : Text} {words : List Text}
    (reads : Text.split t c.settings.classifier = .ok words) :
    (split (some t)).answer c =
      .ok ⟨.obj [("words", textsJson words)],
        { name := "split", input := some t, fields := [("words", count words)] }⟩ := by
  simp [answer, textOr, reads, bind, Except.bind, Except.mapError, pure, Except.pure]

end Command

namespace World

open Arguments

/-- Without settings, the words behind a separator are joined to one command, and that command
behind a separator is split into these words. Neither run changes a file. -/
theorem run_join_split {w : World} (unconfigured : w.Unconfigured) (now : Text) (input : Bytes)
    (words : List Text) :
    w.run now input ("join" :: separator :: words) =
      ({ w with log := {} },
        ⟨.status 0, (Json.obj [("command", .str (Text.joinQuoted words))]).render ++ ['\n'], []⟩) ∧
    w.run now input ["split", separator, Text.joinQuoted words] =
      ({ w with log := {} },
        ⟨.status 0, (Json.obj [("words", .arr (words.map .str))]).render ++ ['\n'], []⟩) := by
  constructor
  · exact run_of_unconfigured unconfigured (Command.ofArguments_join words)
      (Command.answer_join words)
  · exact run_of_unconfigured unconfigured (Command.ofArguments_split _)
      (Command.answer_split (Text.split_joinQuoted_standard words))

/-- An empty word, a separator and two words that look like options. -/
theorem run_join_split_options :
    bare.Unconfigured ∧
    bare.run "now" [] ["join", "--", "", "--", "-h", "--verify"] =
      (bare, ⟨.status 0, "\x7b\"command\": \"'' -- -h --verify\"\x7d\n", []⟩) ∧
    bare.run "now" [] ["split", "--", "'' -- -h --verify"] =
      (bare, ⟨.status 0, "\x7b\"words\": [\"\", \"--\", \"-h\", \"--verify\"]\x7d\n", []⟩) :=
  ⟨bare_unconfigured, run_join_split bare_unconfigured "now" [] ["", "--", "-h", "--verify"]⟩

end World

end ShellWords
