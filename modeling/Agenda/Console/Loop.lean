import Agenda.Console.Command

/-!
The console: lines come in until one of them ends it, or until there are no more.
-/

namespace Agenda.Console

open Clock Log

/-- How the lines come to an end. -/
inductive Ending where
  | exhausted
  | interrupted
  deriving DecidableEq, Repr

/-- What has come of lines so far: the session, the text that was shown, and the records. -/
structure Transcript where
  session : Session
  shown : Text
  log : List Record

namespace Transcript

def note (t : Transcript) (message : Text) : Transcript :=
  { t with log := t.log ++ [Source.console.record info message] }

def print (t : Transcript) (line : Text) : Transcript :=
  { t with shown := t.shown ++ line ++ ['\n'] }

end Transcript

def banner : Text :=
  "[CONSOLE] Type /help for commands, plain text to search. Use /exit to quit.\n".toList

def exitWords : List Text := ["/exit", "/quit"].map String.toList

/-- A line that ends the console, in any case and between blanks. -/
def isExit (line : Text) : Bool := exitWords.contains (Text.lower (Text.trim line))

/-- An outcome of the console, with the transcript up to it. -/
structure Conversation where
  result : Except Fault Unit
  transcript : Transcript

def openConsole (clock : WallClock) (s : Session) : Conversation :=
  let t : Transcript := ⟨s, [], []⟩
  let t := t.note ("Console started (tasks=".toList ++ Text.ofNat s.tasks.length ++
    " presets=".toList ++ Text.ofNat s.presets.size ++ ").".toList)
  match stamped clock banner with
  | .ok line => ⟨.ok (), t.print line⟩
  | .error fault => ⟨.error fault, t⟩

/-- A line that does not end the console. -/
def respond (clock : WallClock) (t : Transcript) (line : Text) : Conversation :=
  let handled := t.session.handle clock line
  let t := handled.shown.foldl Transcript.print t
  let t := { t with session := handled.session, log := t.log ++ handled.log }
  match handled.reply with
  | none => ⟨.ok (), t⟩
  | some reply =>
    match stamped clock reply with
    | .ok line => ⟨.ok (), t.print line⟩
    | .error fault => ⟨.error fault, t⟩

def leave (t : Transcript) : Transcript :=
  (t.note "Console exit command received.".toList).note "Console finished.".toList

/-- The end of the console for want of lines. -/
def Ending.close (t : Transcript) : Ending → Transcript
  | .exhausted =>
    (t.note "Console EOF received, exiting.".toList).note "Console finished.".toList
  | .interrupted =>
    ((t.note "Console KeyboardInterrupt, exiting.".toList).print []).note
      "Console finished.".toList

/-- What one more line makes of a conversation: it goes on, or that was its end. -/
inductive Heard where
  | goesOn (t : Transcript)
  | ended (c : Conversation)

def hear (clock : WallClock) (t : Transcript) (line : Text) : Heard :=
  if isExit line then .ended ⟨.ok (), leave t⟩
  else
    let next := respond clock t line
    match next.result with
    | .ok _ => .goesOn next.transcript
    | .error _ => .ended next

def converse (clock : WallClock) (ending : Ending) (t : Transcript) : List Text → Conversation
  | [] => ⟨.ok (), ending.close t⟩
  | line :: rest =>
    match hear clock t line with
    | .goesOn t => converse clock ending t rest
    | .ended c => c

/-- The console from its opening on. What comes of that is delivered before the talk goes on. -/
def runConsole {m : Type → Type} [Monad m] (deliver : Transcript → m Transcript)
    (talk : Transcript → m Conversation) (clock : WallClock) (s : Session) : m Conversation := do
  let opened := openConsole clock s
  let t ← deliver opened.transcript
  match opened.result with
  | .ok _ => talk t
  | .error fault => return ⟨.error fault, t⟩

end Agenda.Console
