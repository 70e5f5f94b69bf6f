import PocketStream.Config.Persistence
import PocketStream.Config.Writers
import PocketStream.Streaming.Output

/-! # Program sessions

A session loads the settings file with whatever key it can read and then writes
it any number of times. What it leaves in the file is what the next session
loads.
-/

namespace PocketStream

/-- A writer, or a settings update from the user interface with its secret action. -/
inductive SessionOp where
  | call (writer : Writer)
  | applyRestreamSettings (update : RestreamSettingsUpdate)

/-- The call an operation comes to; an update that is not valid comes to none. -/
def SessionOp.writer (memory : AppSettings) : SessionOp → Option Writer
  | call writer => some writer
  | applyRestreamSettings update =>
    match prospectiveRestreamSettings memory update with
    | .ok next => some (.commitRestreamSettings next.rtspServer next.srtServer)
    | .error _ => none

/-- The operation does not replace or clear the SRT passphrase. -/
def SessionOp.KeepsSecret : SessionOp → Prop
  | call writer => ∀ rtspServer srtServer, writer ≠ .commitRestreamSettings rtspServer srtServer
  | applyRestreamSettings update => update.srtServer.passphrase = .keep

/-- One operation with the key its save reads, the nonces it draws and how the write ends. -/
structure SessionWrite where
  op : SessionOp
  key : Fallible { k : List UInt8 // k.length = 32 }
  nonces : Nonces
  written : Fallible Unit

structure Session where
  key : Option (List UInt8)
  now : String
  writes : List SessionWrite

section Run

variable (crypto : Crypto) (toml : Toml)

/-- The settings in memory and the file after an operation. -/
def SessionWrite.perform (state : AppSettings × String) (w : SessionWrite) :
    AppSettings × String :=
  match w.op.writer state.1 with
  | none => state
  | some writer => writer.style.perform state.1 (saveToDisk crypto toml w.key w.nonces w.written)
    |>.run state.2

/-- The settings in memory and the file at the end of a session; none if the file is moved
aside at its start. -/
def Session.run (file : String) (s : Session) : Option (AppSettings × String) :=
  (parseSettings crypto toml file s.key).settings.map fun memory =>
    s.writes.foldl (SessionWrite.perform crypto toml) (memory.align s.now, file)

/-- The file after the sessions. -/
def runSessions (file : String) : List Session → Option String
  | [] => some file
  | s :: rest => do
    let (_, file) ← s.run crypto toml file
    runSessions file rest

/-- The stored passphrase of a file. -/
def storedPassphrase (file : String) : Option String :=
  (toml.fromStr file).toOption.map (·.srtServer.passphrase)

end Run

end PocketStream
