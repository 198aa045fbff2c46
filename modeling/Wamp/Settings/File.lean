import Wamp.Settings.Reader

/-!
# Settings files

Settings are loaded from the bytes of a file, if there is one; the journal tells what came of it.
-/

namespace Wamp

inductive SettingsError where
  | fileNotFound
  | fileNotUtf8
  | unreadable (fault : SettingsFault)
  deriving DecidableEq, Repr

namespace SettingsError

def source : SettingsError → String
  | .fileNotFound => "No such file or directory (os error 2)"
  | .fileNotUtf8 => "stream did not contain valid UTF-8"
  | .unreadable fault => fault.message

def message (error : SettingsError) : String :=
  match error with
  | .fileNotFound | .fileNotUtf8 => s!"failed to read router config: {error.source}"
  | .unreadable _ => s!"failed to parse router config: {error.source}"

end SettingsError

namespace Settings

def ofBytes (bytes : Option ByteArray) : Except SettingsError Settings :=
  match bytes with
  | none => .error .fileNotFound
  | some bytes =>
    match String.fromUTF8? bytes with
    | none => .error .fileNotUtf8
    | some text => (ofText text).mapError .unreadable

open Journal in
/-- What the journal says of an attempt to load the file at `path`. -/
def loadEntry (path : String) (loaded : Except SettingsError Settings) : Entry :=
  match loaded with
  | .ok settings =>
    { level := .debug
      component := "config"
      event := "config_loaded"
      sentence := "router config loaded"
      fields := [
        ("path", .text path),
        ("auto_disclose_caller", .flag settings.autoDiscloseCaller),
        ("auto_disclose_publisher", .flag settings.autoDisclosePublisher),
        ("meta_event_queue_size", .number settings.metaEventQueueSize)] }
  | .error error =>
    { level := .warn
      component := "config"
      event := "config_load_failed"
      sentence := "router config could not be loaded"
      fields := [("path", .text path), ("err", .text error.message)] }

/-- Loads the file at `path`, whose bytes are given if there is one. -/
def load (path : String) (bytes : Option ByteArray) :
    Except SettingsError Settings × Journal.Entry :=
  let loaded := ofBytes bytes
  (loaded, loadEntry path loaded)

end Settings

end Wamp
