import ShellWords.Text.Blank

/-!
Runs of characters that are not blank, the words of a text without any quoting.
-/
namespace ShellWords.Text

/-- The longest runs without a blank, in order. -/
def runs (t : Text) : List Text := (t.splitOnP isBlank).filter (· ≠ [])

end ShellWords.Text
