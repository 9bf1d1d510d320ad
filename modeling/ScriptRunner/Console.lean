import ScriptRunner.Failure
import ScriptRunner.Text.Console

/-! The console that commands and progress are shown on. How it shows them is its own affair; the
standard one shows tags as they are written, and refuses to show progress with tags in it that make no
sense. -/

namespace ScriptRunner

structure Console where
  /-- A text behind a label, as it is shown. -/
  line (label text : String) : String
  /-- Shows that something is going on, if the text of it can be shown. -/
  status (text : String) : Except Failure Unit

def Console.standard : Console where
  line := Text.consoleText
  status text := (Text.Markup.check text.toList).mapError .markup

end ScriptRunner
