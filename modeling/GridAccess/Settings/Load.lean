import GridAccess.Crypto.KeyRing
import GridAccess.Settings.Basic
import GridAccess.Toml.Document

/-!
# Loading settings and keys

Settings are read from a document, and the keys from the files named there. Files are given by a
function from paths to their texts.

## Main definitions

- `SettingsError` — why settings or keys could not be loaded
- `Settings.parse` — the settings in a document
- `Settings.loadKeys` — the keys in the configured files
-/

namespace GridAccess

open Crypto

/-- Why settings or keys could not be loaded. -/
inductive SettingsError where
  | unreadable (path : String)
  | malformed
  | invalid (fault : SettingsFault)
  | noKeys
  | key (fault : KeyFault)
  deriving DecidableEq, Repr

/-- The texts of files by their paths. -/
abbrev FileTexts := String → Option String

def readKeyFile (files : FileTexts) (path : String) : Except KeyFault String :=
  match files path with
  | some text => .ok text
  | none => .error (.unreadable path)

def readPrivateKey (files : FileTexts) (path : String) : Except KeyFault RsaPrivateKey := do
  match RsaPrivateKey.ofText? (← readKeyFile files path).toList with
  | some key => return key
  | none => .error .invalid

def readPublicKey (files : FileTexts) (path : String) : Except KeyFault RsaPublicKey := do
  match RsaPublicKey.ofText? (← readKeyFile files path).toList with
  | some key => return key
  | none => .error .invalid

/-- Check that a public key, if there is a file for it, belongs to a private key. -/
def checkPublicKey (files : FileTexts) (key : RsaPrivateKey) : Option String → Except KeyFault Unit
  | none => .ok ()
  | some path => do
    let publicKey ← readPublicKey files path
    if publicKey = key.publicKey then return () else .error (.mismatch path)

def KeyFiles.load (keys : KeyFiles) (files : FileTexts) : Except KeyFault KeyRing := do
  let signing ← readPrivateKey files keys.signing
  let element ← readPublicKey files keys.elementPublic
  checkPublicKey files signing keys.signingPublic
  let elementPrivate ← keys.elementPrivate.mapM (readPrivateKey files)
  return ⟨signing, element, elementPrivate⟩

namespace Settings

/-- The settings in a document, if they make sense. -/
def parse (text : String) : Except SettingsError Settings :=
  match (Toml.parse? text.toList).bind (ofData? .ignored) with
  | some settings => settings.validate.mapError .invalid
  | none => .error .malformed

def load (files : FileTexts) (path : String) : Except SettingsError Settings :=
  match files path with
  | some text => parse text
  | none => .error (.unreadable path)

/-- The keys in the configured files. The two that tickets are made with have to be configured. -/
def loadKeys (settings : Settings) (files : FileTexts) : Except SettingsError KeyRing :=
  if settings.keys.signing = "" ∨ settings.keys.elementPublic = "" then .error .noKeys
  else (settings.keys.load files).mapError .key

end Settings

/-- The wording of the error, where it has one. -/
def SettingsError.message : SettingsError → Option String
  | .unreadable _ => none
  | .malformed => none
  | .invalid fault => some s!"invalid configuration: {fault.message}"
  | .noKeys => some "no key files configured"
  | .key fault => fault.message

end GridAccess
