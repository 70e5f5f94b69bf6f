import PocketStream.Config.Persistence
import PocketStream.Foundation.Disk
import PocketStream.Foundation.Threads

/-! # The files of the program

Every file is written next to its place and moved into it once it is on the
disk. Each write has a name of its own for that, made of the process and of a
counter. The key is read or created by the save that needs it, and the settings
are saved under one lock.
-/

namespace PocketStream

open Foundation

inductive SettingsFile | config | deviceCache | key
  deriving DecidableEq

/-- A file of the directory: one of the program's, or one that is being written by a process, by
its number. -/
inductive FilePath where
  | final (file : SettingsFile)
  | staging (file : SettingsFile) (pid number : ℕ)
  deriving DecidableEq

abbrev EncryptionKey := { k : List UInt8 // k.length = 32 }

/-- `CryptProtectData` and `CryptUnprotectData` for the user; the salt is what a wrap draws. -/
structure Dpapi where
  protect : List UInt8 → List UInt8 → Option (List UInt8)
  unprotect : List UInt8 → Option (List UInt8)

/-- A wrap opens to what was wrapped, and is longer than a bare key. -/
structure Dpapi.Lawful (dpapi : Dpapi) : Prop where
  unprotect_protect : ∀ salt plain blob, dpapi.protect salt plain = some blob →
    dpapi.unprotect blob = some plain
  wrapped : ∀ salt plain blob, dpapi.protect salt plain = some blob → blob.length ≠ 32

inductive ReadError where
  | notFound
  | other (message : String)

/-- What the program asks of the system, and what a save returns to its caller. -/
inductive FileCall where
  | lockSave
  | unlockSave
  | createDirAll
  | nextStaging (file : SettingsFile)
  | create (path : FilePath)
  | writeAll (path : FilePath) (content : List UInt8)
  | syncAll (path : FilePath)
  | rename (source target : FilePath)
  | remove (path : FilePath)
  | read (path : FilePath)
  | randomKey
  | protect (plain : List UInt8)
  | nonces
  | returned (settings : AppSettings) (result : Fallible Unit)

@[reducible] def FileCall.Reply : FileCall → Type
  | lockSave | unlockSave | returned _ _ => Unit
  | nextStaging _ => FilePath
  | read _ => Except ReadError (List UInt8)
  | randomKey => EncryptionKey
  | protect _ => Option (List UInt8)
  | nonces => Nonces
  | _ => Except String Unit

abbrev FileProgram := Program FileCall FileCall.Reply

abbrev FileRoutine (E α : Type) := ExceptT E FileProgram α

def fileCall (call : FileCall) : FileProgram call.Reply := Program.perform call

def mapErr {E E' α : Type} (f : E → E') (x : FileRoutine E α) : FileRoutine E' α :=
  ExceptT.mk (x.run >>= fun r => Program.done (r.mapError f))

/-- `atomic_write` to one of the files of the directory. -/
def atomicWrite (file : SettingsFile) (content : List UInt8) : FileRoutine String Unit := do
  ExceptT.mk (fileCall .createDirAll)
  let tmp ← ExceptT.lift (fileCall (.nextStaging file))
  ExceptT.mk (fileCall (.create tmp))
  ExceptT.mk (fileCall (.writeAll tmp content))
  ExceptT.mk (fileCall (.syncAll tmp))
  match ← ExceptT.lift (fileCall (.rename tmp (.final file))) with
  | .ok () => return ()
  | .error e =>
    let _ ← ExceptT.lift (fileCall (.remove tmp))
    throw e

/-! ### The key -/

section Key

variable (dpapi : Dpapi)

/-- The key that a file holds, bare or wrapped. -/
def keyOf (raw : List UInt8) : Option EncryptionKey :=
  if h : raw.length = 32 then some ⟨raw, h⟩
  else
    match dpapi.unprotect raw with
    | none => none
    | some plain => if h : plain.length = 32 then some ⟨plain, h⟩ else none

/-- `read_key_from`, on Windows: the key, and whether it is bare. -/
def readKeyFrom : FileRoutine String (Option (EncryptionKey × Bool)) := do
  match ← ExceptT.lift (fileCall (.read (.final .key))) with
  | .error .notFound => return none
  | .error (.other e) => throw e
  | .ok raw => return (keyOf dpapi raw).map fun key => (key, decide (raw.length = 32))

def writeKeyTo (key : EncryptionKey) : FileRoutine AppError Unit := do
  match ← ExceptT.lift (fileCall (.protect key.val)) with
  | none => throw (.config "DPAPI protection of the encryption key failed")
  | some onDisk => mapErr .config (atomicWrite .key onDisk)

def getOrCreateKey : FileRoutine AppError EncryptionKey := do
  match ← ExceptT.lift (readKeyFrom dpapi).run with
  | .ok (some (key, needsRewrap)) =>
    if needsRewrap then
      let _ ← ExceptT.lift (writeKeyTo key).run
      return key
    else return key
  | .ok none =>
    let key ← ExceptT.lift (fileCall .randomKey)
    writeKeyTo key
    return key
  | .error e => throw (.config s!"encryption key is present but unreadable: {e}")

end Key

/-! ### Saves -/

section Saves

variable (dpapi : Dpapi) (crypto : Crypto) (toml : Toml)

/-- `save_to_disk` over the files. -/
def saveSettingsToDisk (settings : AppSettings) : FileRoutine AppError Unit := do
  mapErr .config (ExceptT.mk (fileCall .createDirAll))
  let key ← getOrCreateKey dpapi
  let nonces ← ExceptT.lift (fileCall .nonces)
  let content ← ExceptT.mk (Program.done (serializeSettingsWithSrtEncryptor crypto toml settings
    key.val (encryptStringChecked crypto · · nonces.passphrase) nonces))
  mapErr .config (atomicWrite .config (bytes content))

/-- The saves that threads make. A writer has its settings when it holds the lock; a cache is
saved as the document that it makes. -/
inductive SaveJob where
  | settings (next : AppSettings)
  | deviceCache (document : String)

def SaveJob.program : SaveJob → FileProgram (Option SaveJob)
  | settings next => do
    fileCall .lockSave
    let result ← (saveSettingsToDisk dpapi crypto toml next).run
    fileCall (.returned next result)
    fileCall .unlockSave
    return none
  | deviceCache document => do
    match ← fileCall .createDirAll with
    | .error _ => return none
    | .ok () =>
      let _ ← (atomicWrite .deviceCache (bytes document)).run
      return none

end Saves

/-! ### The system -/

/-- The files, the process, the threads that have drawn a number (the count is `TMP_COUNTER`) and
the one that holds the lock of the saves. A ghost remembers the settings file that the last one
to take the lock has found. -/
structure SettingsDisk where
  files : Directory FilePath
  pid : ℕ
  tickets : List ℕ
  saveLock : Option ℕ
  found : Option StoredFile

/-- How a call goes: what fails, what a failed write has left, and what is drawn. -/
structure FileOutcome where
  fault : Option String
  garbage : List UInt8
  key : EncryptionKey
  salt : List UInt8
  nonces : Nonces

def FileOutcome.result (o : FileOutcome) : Except String Unit :=
  match o.fault with
  | none => .ok ()
  | some e => .error e

namespace SettingsDisk

/-- The state after a call that may fail, in which case it is as before. -/
def attempt (s : SettingsDisk) (o : FileOutcome) (files : Directory FilePath) :
    Except String Unit × SettingsDisk :=
  match o.fault with
  | none => (.ok (), { s with files := files })
  | some e => (.error e, s)

def answer (dpapi : Dpapi) (t : ℕ) (s : SettingsDisk) :
    (call : FileCall) → FileOutcome → Option (call.Reply × SettingsDisk)
  | .lockSave, _ =>
    if s.saveLock = none then
      some ((), { s with saveLock := some t, found := s.files (.final .config) })
    else none
  | .unlockSave, _ => some ((), { s with saveLock := none })
  | .createDirAll, o => some (o.result, s)
  | .nextStaging file, _ =>
    some (.staging file s.pid s.tickets.length, { s with tickets := s.tickets ++ [t] })
  | .create path, o => some (s.attempt o (s.files.store path []))
  | .writeAll path content, o =>
    match o.fault with
    | none => some (.ok (), { s with files := s.files.store path content })
    | some e => some (.error e, { s with files := s.files.store path o.garbage })
  | .syncAll path, o => some (s.attempt o (s.files.sync path))
  | .rename source target, o =>
    if (s.files source).isSome then some (s.attempt o (s.files.rename source target))
    else some (.error "not found", s)
  | .remove path, o => some (s.attempt o (s.files.remove path))
  | .read path, o =>
    match o.fault, s.files path with
    | some e, _ => some (.error (.other e), s)
    | none, none => some (.error .notFound, s)
    | none, some f => some (.ok f.bytes, s)
  | .randomKey, o => some (o.key, s)
  | .protect plain, o => some (dpapi.protect o.salt plain, s)
  | .nonces, o => some (o.nonces, s)
  | .returned _ _, _ => some ((), s)

/-- The program is gone, and another process starts over what is left. -/
def crash (s : SettingsDisk) (left : FilePath → Option (List UInt8)) (pid : ℕ) : SettingsDisk where
  files := s.files.crash left
  pid := pid
  tickets := []
  saveLock := none
  found := none

end SettingsDisk

section System

variable (dpapi : Dpapi) (crypto : Crypto) (toml : Toml)

def savers : Shared FileCall FileCall.Reply SettingsDisk FileOutcome Empty SaveJob where
  answer := SettingsDisk.answer dpapi
  disturb s _ := s
  abandon _ _ := none
  start := SaveJob.program dpapi crypto toml

/-- What happens to the program: its threads act, or all of it is cut off. -/
inductive DiskEvent where
  | act (act : Act FileOutcome Empty SaveJob)
  | crash (left : FilePath → Option (List UInt8)) (pid : ℕ)

abbrev SaverState := SettingsDisk × Threads FileCall FileCall.Reply SaveJob

def DiskEvent.step (c : SaverState) : DiskEvent → SaverState
  | act a => (savers dpapi crypto toml).step c a
  | crash left pid => (c.1.crash left pid, [])

def runEvents (c : SaverState) (events : List DiskEvent) : SaverState :=
  events.foldl (DiskEvent.step dpapi crypto toml) c

end System

end PocketStream
